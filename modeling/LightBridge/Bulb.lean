import LightBridge.Fault
import LightBridge.Light.Rgb
import LightBridge.Light.Rgbw
import LightBridge.Light.SessionBulb
import LightBridge.Light.White

/-!
# Bulbs

A bulb is a family on a zone of a bridge. It turns an operation into a plan,
and each command of the plan into a frame.
-/

set_option autoImplicit false

namespace LightBridge

structure Bulb where
  family : Family
  zone : UInt8
  deriving DecidableEq, Repr

namespace Bulb

def onZone (family : Family) (zone : UInt8) : Except Fault Bulb :=
  if family.hasZone zone then .ok ⟨family, zone⟩ else .error (.unsupportedZone family zone)

def inSession (family : Family) (zone : UInt8) : Except Fault Bulb :=
  if family.protocol = .v6 then onZone family zone else .error (.familyMismatch family .v6)

/-- A bulb on a bridge of the given generation. Bulbs of session bridges need
a session. -/
def create (protocol : Protocol) (hasSession : Bool) (family : Family) (zone : UInt8) :
    Except Fault Bulb :=
  if family.protocol = protocol then
    match onZone family zone with
    | .error fault => .error fault
    | .ok bulb =>
      if protocol = .v6 && !hasSession then .error (.familyMismatch family protocol)
      else .ok bulb
  else .error (.familyMismatch family protocol)

def available (protocol : Protocol) : List Bulb :=
  (Family.all.filter fun f => f.protocol = protocol).flatMap fun f =>
    f.zones.map fun zone => ⟨f, zone⟩

def plan (b : Bulb) (isValid : Bool) (s : LightState) (operation : Operation) : Plan :=
  match b.family with
  | .v2Rgb => Rgb.plan s operation
  | .v3White => White.plan b.zone s operation
  | .v3Rgbw => Rgbw.plan b.zone s operation
  | family =>
    match CommandSet.ofFamily? family with
    | some c => SessionBulb.plan c (family.supports .link) isValid s operation
    | none => .unsupported operation

/-- The plan where the sums ahead of it are checked; only session bulbs have any. -/
def plan? (b : Bulb) (isValid : Bool) (s : LightState) (operation : Operation) : Option Plan :=
  match CommandSet.ofFamily? b.family with
  | some c => SessionBulb.plan? c (b.family.supports .link) isValid s operation
  | none => some (b.plan isValid s operation)

def remote (b : Bulb) : UInt8 := ((CommandSet.ofFamily? b.family).map (·.remote)).getD 0

/-- The bytes of a command. Only commands inside a session have a header. -/
def bytes (b : Bulb) (header : Wire.Header) : Payload → List UInt8
  | .plain command argument => Wire.plain command argument
  | .pair cmd1 cmd2 => (Wire.command header b.remote cmd1 cmd2 b.zone).toList
  | .color hue => (Wire.color header b.remote hue b.zone).toList
  | .link on => (Wire.link header b.remote on b.zone).toList

/-- Commands of one category to one bulb share an identity; steps have none. -/
def identity (b : Bulb) : Option Category → Nat
  | some category => category.identity b.family.offset b.zone.toNat
  | none => 0

def frame (b : Bulb) (header : Wire.Header) (c : Command) : Frame :=
  ⟨b.bytes header c.payload, b.identity c.category, c.repeatable⟩

end Bulb

end LightBridge
