import LightBridge.Fault

/-!
# Packets of a session bridge

A packet announces its length in byte 4, without the five bytes up to there.
It must be as long as announced and long enough for its own kind; whatever
follows is ignored.
-/

set_option autoImplicit false

namespace LightBridge

inductive Packet where
  | sessionId (mac : String) (sid1 sid2 : UInt8)
  | registered (mac : String)
  | echo (mac : String)
  | acknowledged (sequence status : UInt8)
  deriving DecidableEq, Repr

namespace Packet

def defect (what : String) (bs : List UInt8) : Fault :=
  .malformedPacket (what ++ ": " ++ Text.spacedHex bs)

/-- The six bytes from `start` on, as an address is spelled. -/
def mac (bs : List UInt8) (start : Nat) : String := Text.compactHex ((bs.drop start).take 6)

def byte (bs : List UInt8) (i : Nat) : UInt8 := bs.getD i 0

/-- `p` if the packet has the announced length and at least `least` bytes. -/
def ofLength (bs : List UInt8) (least : Nat) (what : String) (p : Packet) :
    Except Fault Packet :=
  if bs.length < max ((byte bs 4).toNat+5) least then
    .error (defect ("unexpected size for " ++ what) bs)
  else .ok p

def parse (bs : List UInt8) : Except Fault Packet :=
  match bs with
  | kind::0::0::0::_::_ =>
    if kind = 0x28 then
      ofLength bs 21 "session ids" (.sessionId (mac bs 7) (byte bs 19) (byte bs 20))
    else if kind = 0x80 then
      ofLength bs 11 "registration confirmation" (.registered (mac bs 5))
    else if kind = 0xD8 then ofLength bs 11 "keep alive" (.echo (mac bs 5))
    else if kind = 0x88 then
      ofLength bs 8 "command confirmation" (.acknowledged (byte bs 6) (byte bs 7))
    else .error (defect "no valid start byte" bs)
  | _ => .error (defect "not an iBox response" bs)

/-! ## Layout -/

def sessionIdBytes (address : List UInt8) (sid1 sid2 : UInt8) : List UInt8 :=
  [0x28, 0, 0, 0, 0x11, 0x00, 0x02] ++ address ++
    [0x69, 0xF0, 0x3C, 0x23, 0x00, 0x01, sid1, sid2, 0x00]

def registeredBytes (address : List UInt8) : List UInt8 := [0x80, 0, 0, 0, 0x06] ++ address

def echoBytes (address : List UInt8) : List UInt8 := [0xD8, 0, 0, 0, 0x07] ++ address ++ [0x01]

def acknowledgedBytes (sequence status : UInt8) : List UInt8 :=
  [0x88, 0, 0, 0, 0x03, 0x00, sequence, status]

end Packet

end LightBridge
