/-!
# Wire formats

Commands of the older generations are three bytes. A session command has 22
bytes:

    80 00 00 00 11 S1 S2 00 SN 00 TG P1 P2 B1 B2 B3 B4 B5 B6 ZN 00 CK

with the session bytes S, the sequence number SN, the tag TG, the password P,
six bytes B for the command, the zone ZN and the checksum CK.
-/

set_option autoImplicit false

namespace LightBridge.Wire

def plain (command argument : UInt8) : List UInt8 := [command, argument, 0x55]

abbrev Block := Vector UInt8 22

structure Header where
  sid1 : UInt8
  sid2 : UInt8
  pw1 : UInt8
  pw2 : UInt8
  sequence : UInt8
  deriving DecidableEq, Repr

def covered (p : Block) : List UInt8 :=
  [p[10], p[11], p[12], p[13], p[14], p[15], p[16], p[17], p[18]]

def checksum (p : Block) : UInt8 := (covered p).foldl (· + ·) p[19]

/-- The covered bytes are summed as signed, the zone as unsigned, and the sum
is reduced modulo 255 towards zero before it is cut to a byte. -/
def colorSum (p : Block) : Int :=
  (covered p).foldl (fun sum b => sum + b.toInt8.toInt) p[19].toNat

def colorChecksum (p : Block) : UInt8 := UInt8.ofInt ((colorSum p).tmod 255)

def unsealed (lead tag : UInt8) (h : Header) (b : Vector UInt8 6) (zone : UInt8) : Block :=
  #v[lead, 0, 0, 0, 0x11, h.sid1, h.sid2, 0, h.sequence, 0, tag, h.pw1, h.pw2,
    b[0], b[1], b[2], b[3], b[4], b[5], zone, 0, 0]

def withSum (p : Block) (sum : UInt8) : Block := p.set 21 sum

def commandTag : UInt8 := 0x31

def registrationTag : UInt8 := 0x33

def command (h : Header) (remote cmd1 cmd2 zone : UInt8) : Block :=
  let p := unsealed 0x80 commandTag h #v[remote, cmd1, cmd2, 0, 0, 0] zone
  withSum p (checksum p)

def color (h : Header) (remote hue zone : UInt8) : Block :=
  let p := unsealed 0x80 commandTag h #v[remote, 0x01, hue, hue, hue, hue] zone
  withSum p (colorChecksum p)

/-- Pairs the bulbs of a zone with the bridge, or unpairs them. -/
def link (h : Header) (remote : UInt8) (pair : Bool) (zone : UInt8) : Block :=
  let p := unsealed (if pair then 0x3D else 0x3E) commandTag h #v[remote, 0, 0, 0, 0, 0] zone
  withSum p (checksum p)

/-- The answer to session bytes; its last byte repeats the tag. -/
def registration (h : Header) : Block :=
  withSum (unsealed 0x80 registrationTag h #v[0x08, 0, 0, 0, 0, 0] 0) registrationTag

def keepAlive (sid1 sid2 : UInt8) : List UInt8 := [0xD0, 0x00, 0x00, 0x00, 0x02, sid1, sid2]

def sessionRequest : List UInt8 :=
  [0x20, 0x00, 0x00, 0x00, 0x16, 0x02, 0x62, 0x3A, 0xD5, 0xED, 0xA3, 0x01, 0xAE, 0x08, 0x2D, 0x46,
    0x61, 0x41, 0xA7, 0xF6, 0xDC, 0xAF, 0xD3, 0xE6, 0x00, 0x00, 0x1E]

def probe3 : String := "Link_Wi-Fi"

def probe6 : String := "HF-A11ASSISTHREAD"

/-- The place of a hue, in degrees, on the colour wheel of a bridge. The wheel
has 255 steps, runs backwards, and has hue 0 at 176. -/
def hueByte (hue : Float) : UInt8 :=
  let wheel := (hue/360.0*255.0).round.toInt64.toInt
  UInt8.ofInt ((256+176-wheel)%256)

end LightBridge.Wire
