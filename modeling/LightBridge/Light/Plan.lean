import LightBridge.Family
import LightBridge.Frame
import LightBridge.Light.State

/-!
# Plans

An operation on a light becomes a plan before anything is sent: a list of
moves, each of which queues one command and then records what was commanded.
A plan is carried out from the left until the queue refuses a command, so the
recorded state never runs ahead of the queue.

Bulbs that only know steps are brought to a value by a stretch: a list of
moves repeated a number of times.
-/

set_option autoImplicit false

namespace LightBridge

/-- What a caller asks of a light. Levels are percentages, hues degrees. -/
inductive Operation where
  | setPower (on : Bool)
  | setHsb (hue : Float32) (saturation brightness : Option Int)
  | whiteMode
  | nightMode
  | setBrightness (value : Int)
  | changeBrightness (delta : Int)
  | setSaturation (value : Int)
  | setColorTemperature (value : Int)
  | changeColorTemperature (delta : Int)
  | setLedMode (mode : Int)
  | nextAnimationMode
  | previousAnimationMode
  | setAnimationSpeed (speed : Int)
  | changeSpeed (delta : Int)
  | link
  | unlink

namespace Operation

def capability : Operation → Capability
  | setPower _ => .power
  | setHsb .. => .color
  | whiteMode => .whiteMode
  | nightMode => .nightMode
  | setBrightness _ | changeBrightness _ => .brightness
  | setSaturation _ => .saturation
  | setColorTemperature _ | changeColorTemperature _ => .colorTemperature
  | setLedMode _ | nextAnimationMode | previousAnimationMode => .animation
  | setAnimationSpeed _ | changeSpeed _ => .animationSpeed
  | link | unlink => .link

def title : Operation → String
  | setPower _ => "Power"
  | setHsb .. => "Colour"
  | whiteMode => "White mode"
  | nightMode => "Night mode"
  | setBrightness _ | changeBrightness _ => "Brightness"
  | setSaturation _ => "Saturation"
  | setColorTemperature _ | changeColorTemperature _ => "Colour temperature"
  | setLedMode _ | nextAnimationMode | previousAnimationMode => "Animation mode"
  | setAnimationSpeed _ | changeSpeed _ => "Animation speed"
  | link => "Linking"
  | unlink => "Unlinking"

end Operation

/-- What a command says, before it is addressed and framed. -/
inductive Payload where
  | plain (command argument : UInt8)
  | pair (cmd1 cmd2 : UInt8)
  | color (hue : UInt8)
  /-- Pairing of bulbs with the bridge, or its end. -/
  | link (on : Bool)
  deriving DecidableEq, Repr

structure Command where
  payload : Payload
  /-- The category of an absolute command; a step has none. -/
  category : Option Category
  repeatable : Bool
  deriving DecidableEq, Repr

namespace Command

def absolute (c : Category) (p : Payload) : Command := ⟨p, some c, true⟩

def single (c : Category) (p : Payload) : Command := ⟨p, some c, false⟩

/-- A relative command: always sent, never replaced. -/
def step (p : Payload) : Command := ⟨p, none, false⟩

end Command

inductive Move where
  /-- Queues a command and, once it is accepted, records it. -/
  | send (command : Command) (record : LightState → LightState)
  | store (record : LightState → LightState)

/-- Moves that are repeated; they may depend on the number of the round, from
1 on. -/
structure Stretch where
  count : Nat
  moves : Nat → List Move

namespace Stretch

def once (moves : List Move) : Stretch := ⟨1, fun _ => moves⟩

end Stretch

inductive Plan where
  | unsupported (operation : Operation)
  /-- The bulb needs a valid session and has none. -/
  | noSession
  | moves (stretches : List Stretch)

namespace Plan

def clamp (lo hi x : Int) : Int := max lo (min hi x)

def firstMode : Int := 1

def lastMode : Int := 9

def clampMode (mode : Int) : Int := clamp firstMode lastMode mode

def maxCount : Nat := UInt64.size-1

/-- The number of steps that bring `start` to `target`: the distance over the
step, half a step counting as a whole one. -/
def stepCount (start target step : Int) : Nat :=
  let d := (target-start).natAbs
  match step with
  | .ofNat 0 => if d = 0 then 0 else maxCount
  | .ofNat n => (2*d+n)/(2*n)
  | .negSucc _ => 0

end Plan

end LightBridge
