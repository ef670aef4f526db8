import LightBridge.Address
import LightBridge.Fault
import LightBridge.Text.Blank

/-!
# Answers to probes

A bridge answers a probe with its address, its id and, if it has sessions, a
model, with commas between. The address it was sent from counts, not the one
it names.
-/

set_option autoImplicit false

namespace LightBridge

structure Discovered where
  address : Address
  id : String
  protocol : Protocol
  deriving DecidableEq, Repr

namespace Discovered

def idSize : Nat := 12

/-- What may follow an answer without belonging to it. -/
def isPadding (c : Char) : Bool := c == '\x00' || Text.isBlank c

def refuse (text : List Char) : Fault :=
  .malformedPacket ("unexpected discovery response " ++ Text.quoted (String.ofList text))

/-- Only bridges with sessions name a model. -/
def protocolOf (rest : List (List Char)) : Protocol :=
  match rest with
  | (_::_)::_ => .v6
  | _ => .v3

def ofText (text : List Char) (source : Address) : Except Fault Discovered :=
  match Text.fields ',' text with
  | _::id::rest =>
    let id := String.ofList id
    if id.utf8ByteSize = idSize then .ok ⟨source, id, protocolOf rest⟩ else .error (refuse text)
  | _ => .error (refuse text)

def parse (bs : List UInt8) (source : Address) : Except Fault Discovered :=
  match Text.decodeUtf8 bs with
  | .error fault => .error (.utf8 fault)
  | .ok cs => ofText (Text.dropTrailing isPadding cs) source

end Discovered

end LightBridge
