/-!
# Receive loops

A session and a discovery each have a loop that takes the datagrams of a
socket. Longer datagrams than its buffer are cut.
-/

set_option autoImplicit false

namespace LightBridge

inductive Receiver where
  | fresh
  | listening
  | stopped
  deriving DecidableEq, Repr

namespace Receiver

def bufferSize : Nat := 1024

/-- What the loop sees of a datagram. -/
def cut (bs : List UInt8) : List UInt8 := bs.take bufferSize

end Receiver

end LightBridge
