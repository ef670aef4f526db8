import LightBridge.Json.Reader
import LightBridge.Json.Value

/-!
# The state of a light

Bridges never report back, so a light's state is what was last commanded, not
what a bulb confirmed. It is saved as a record and read back from one.

A state is read and saved in numbers of 32 bits, and sums with them are taken as
exact. Where sums are checked, one that 32 bits do not hold stops the program; of
these only the neighbor of the stored mode is followed, since a session bulb
works it out ahead of everything else.
-/

set_option autoImplicit false

namespace LightBridge

structure LightState where
  power : Bool
  hue : Float32
  saturation : Int
  brightness : Int
  colorTemperature : Int
  ledMode : Int
  animationSpeed : Int

namespace LightState

/-- A number that 32 bits hold. -/
def holds (n : Int) : Bool := Int32.minValue.toInt ≤ n && n ≤ Int32.maxValue.toInt

/-- The outcome of a checked sum. -/
def held? (n : Int) : Option Int := if holds n then some n else none

def initial : LightState := ⟨false, 0, 0, 0, 0, 0, 0⟩

def hueDegrees (s : LightState) : Float32 := s.hue*360

def toJson (s : LightState) : Json.Value :=
  .record [
    ("power", .bool s.power),
    ("hue", .single s.hue),
    ("saturation", .integer s.saturation),
    ("brightness", .integer s.brightness),
    ("colorTemperature", .integer s.colorTemperature),
    ("ledMode", .integer s.ledMode),
    ("animationSpeed", .integer s.animationSpeed)]

/-! ## Reading -/

structure Draft where
  power : Option Bool
  hue : Option Float32
  saturation : Option Int
  brightness : Option Int
  colorTemperature : Option Int
  ledMode : Option Int
  animationSpeed : Option Int

open Json

def readLevel (cs : List Char) : Scan Int := readInteger (-0x80000000) 0x7FFFFFFF cs

def member (key : String) (d : Draft) (cs : List Char) : Scan Draft :=
  if key = "power" then
    (readField d.power.isSome readBool cs).map fun p => ({ d with power := some p.1 }, p.2)
  else if key = "hue" then
    (readField d.hue.isSome readSingle cs).map fun p => ({ d with hue := some p.1 }, p.2)
  else if key = "saturation" then
    (readField d.saturation.isSome readLevel cs).map fun p =>
      ({ d with saturation := some p.1 }, p.2)
  else if key = "brightness" then
    (readField d.brightness.isSome readLevel cs).map fun p =>
      ({ d with brightness := some p.1 }, p.2)
  else if key = "colorTemperature" then
    (readField d.colorTemperature.isSome readLevel cs).map fun p =>
      ({ d with colorTemperature := some p.1 }, p.2)
  else if key = "ledMode" then
    (readField d.ledMode.isSome readLevel cs).map fun p => ({ d with ledMode := some p.1 }, p.2)
  else if key = "animationSpeed" then
    (readField d.animationSpeed.isSome readLevel cs).map fun p =>
      ({ d with animationSpeed := some p.1 }, p.2)
  else (skipField cs).map (d, ·)

def Draft.finish (d : Draft) : Except Issue LightState :=
  match d.power, d.hue, d.saturation, d.brightness, d.colorTemperature, d.ledMode,
    d.animationSpeed with
  | some power, some hue, some saturation, some brightness, some colorTemperature, some ledMode,
    some animationSpeed =>
    .ok ⟨power, hue, saturation, brightness, colorTemperature, ledMode, animationSpeed⟩
  | _, _, _, _, _, _, _ => .error .mismatched

def readMembersOf (cs : List Char) : Scan LightState :=
  match readMembers member (cs.length+1) true ⟨none, none, none, none, none, none, none⟩ cs with
  | .error e => .error e
  | .ok (d, rest) => d.finish.map (·, rest)

def readItemsOf (cs : List Char) : Except Issue (LightState × List Char) := do
  let needed {α : Type} (read : List Char → Scan α) (first : Bool) :=
    readItem (.error .mismatched) read first
  let (power, cs) ← needed readBool true cs
  let (hue, cs) ← needed readSingle false cs
  let (saturation, cs) ← needed readLevel false cs
  let (brightness, cs) ← needed readLevel false cs
  let (colorTemperature, cs) ← needed readLevel false cs
  let (ledMode, cs) ← needed readLevel false cs
  let (animationSpeed, cs) ← needed readLevel false cs
  .ok (⟨power, hue, saturation, brightness, colorTemperature, ledMode, animationSpeed⟩, cs)

def ofJson (s : String) : Except Issue LightState :=
  readDocument (readRecord readMembersOf readItemsOf) s

end LightState

end LightBridge
