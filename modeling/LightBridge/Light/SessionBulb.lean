import LightBridge.Light.Plan
import LightBridge.Wire

/-!
# Bulbs of session bridges

The families share one frame layout and differ in their remote byte and their
command bytes. Without a valid session nothing is sent. The neighbor of the
stored mode is worked out before the session is looked at, so there is no plan at
all if it is too large a number.
-/

set_option autoImplicit false

namespace LightBridge

/-- The command bytes of a family; a missing one is an operation it lacks. -/
structure CommandSet where
  remote : UInt8
  on : UInt8 × UInt8
  off : UInt8 × UInt8
  white : UInt8 × UInt8
  night : Option (UInt8 × UInt8)
  brightness : UInt8
  saturation : Option UInt8
  temperature : Option UInt8
  mode : UInt8
  faster : UInt8 × UInt8
  slower : UInt8 × UInt8
  deriving DecidableEq, Repr

namespace CommandSet

def rgbCwWw : CommandSet where
  remote := 0x08
  on := (0x04, 0x01)
  off := (0x04, 0x02)
  white := (0x05, 0x64)
  night := some (0x04, 0x05)
  brightness := 0x03
  saturation := some 0x02
  temperature := some 0x05
  mode := 0x06
  faster := (0x04, 0x03)
  slower := (0x04, 0x04)

def rgbw : CommandSet where
  remote := 0x07
  on := (0x03, 0x01)
  off := (0x03, 0x02)
  white := (0x03, 0x05)
  night := some (0x03, 0x06)
  brightness := 0x02
  saturation := none
  temperature := none
  mode := 0x06
  faster := (0x04, 0x03)
  slower := (0x04, 0x04)

def bridgeLamp : CommandSet where
  remote := 0x00
  on := (0x03, 0x03)
  off := (0x03, 0x04)
  white := (0x03, 0x05)
  night := none
  brightness := 0x02
  saturation := none
  temperature := none
  mode := 0x04
  faster := (0x03, 0x02)
  slower := (0x03, 0x01)

/-- The commands of a family; families of other generations have none. -/
def ofFamily? : Family → Option CommandSet
  | .v6RgbCwWw => some rgbCwWw
  | .v6Rgbw => some rgbw
  | .v6BridgeLamp => some bridgeLamp
  | .v2Rgb | .v3White | .v3Rgbw => none

end CommandSet

namespace SessionBulb

def maxLevel : Int := 100

def maxTemperature : Int := 64

variable (c : CommandSet)

def pair (p : UInt8 × UInt8) : Payload := .pair p.1 p.2

def powerMove (on : Bool) : Move :=
  .send (.absolute .power (pair (if on then c.on else c.off))) fun s => { s with power := on }

def whiteMode : List Stretch := [.once [.send (.absolute .whiteMode (pair c.white)) id]]

def colorMove (hue : Float32) : Move :=
  .send (.absolute .color (.color (Wire.hueByte hue.toFloat))) fun s =>
    { s with hue := hue/360 }

def levelByte (value : Int) : UInt8 :=
  UInt8.ofInt (Plan.clamp 0 maxLevel ((value*maxLevel).tdiv 100))

def brightnessMove (value : Int) : Move :=
  .send (.absolute .brightness (.pair c.brightness (levelByte value))) fun s =>
    { s with brightness := value }

def setBrightness (value : Int) (s : LightState) : List Stretch :=
  if value ≤ 0 then
    [.once [powerMove c false, .store fun s => { s with brightness := 0 }]]
  else
    [.once ((if s.brightness ≤ 0 then [powerMove c true] else []) ++
      [brightnessMove c (min value 100)])]

def setSaturation (command : UInt8) (value : Int) : List Stretch :=
  [.once [.send (.absolute .saturation (.pair command (levelByte value))) fun s =>
    { s with saturation := Plan.clamp 0 100 value }]]

/-- Without control of saturation a low one selects the white light. -/
def setHsb (hue : Float32) (saturation brightness : Option Int) (s : LightState) :
    List Stretch :=
  if c.saturation.isNone && saturation.any (· < 50) then whiteMode c
  else
    .once [colorMove hue] ::
      ((match brightness with
        | some value => setBrightness c value s
        | none => []) ++
      match saturation, c.saturation with
        | some value, some command => setSaturation command value
        | _, _ => [])

def temperatureByte (value : Int) : Int := (value*maxTemperature).tdiv 100

def setColorTemperature (command : UInt8) (value : Int) : List Stretch :=
  let value := Plan.clamp 0 100 value
  [.once [.send
    (.absolute .temperature (.pair command (UInt8.ofInt (temperatureByte value)))) fun s =>
      { s with colorTemperature := value }]]

def changeColorTemperature (command : UInt8) (delta : Int) (s : LightState) : List Stretch :=
  if delta = 0 then []
  else
    let byte := Plan.clamp 0 maxTemperature (temperatureByte s.colorTemperature + delta)
    setColorTemperature command ((byte*100).tdiv maxTemperature)

def setLedMode (mode : Int) : List Stretch :=
  let mode := Plan.clampMode mode
  [.once [.send (.absolute .mode (.pair c.mode (UInt8.ofInt mode))) fun s =>
    { s with ledMode := mode }]]

def speedMove (up : Bool) : Move :=
  .send (.step (pair (if up then c.faster else c.slower))) fun s =>
    { s with animationSpeed := Plan.clamp 0 100 (s.animationSpeed + if up then 10 else -10) }

def setAnimationSpeed (speed : Int) (s : LightState) : List Stretch :=
  [⟨Plan.stepCount s.animationSpeed speed 10, fun _ =>
      [speedMove c (s.animationSpeed < speed)]⟩,
    .once [.store fun s => { s with animationSpeed := speed }]]

/-- The plan inside a valid session; `canLink` says whether the family pairs. -/
def planValid (canLink : Bool) (s : LightState) : Operation → Plan
  | .setPower on => .moves [.once [powerMove c on]]
  | .setHsb hue saturation brightness => .moves (setHsb c hue saturation brightness s)
  | .whiteMode => .moves (whiteMode c)
  | .nightMode =>
    match c.night with
    | none => .unsupported .nightMode
    | some night =>
      .moves [.once [powerMove c true, .send (.absolute .nightMode1 (pair night)) id]]
  | .setBrightness value => .moves (setBrightness c value s)
  | .changeBrightness delta =>
    .moves (if delta = 0 then [] else
      setBrightness c (Plan.clamp 0 100 (s.brightness+delta)) s)
  | .setSaturation value =>
    match c.saturation with
    | none => .unsupported (.setSaturation value)
    | some command => .moves (setSaturation command value)
  | .setColorTemperature value =>
    match c.temperature with
    | none => .unsupported (.setColorTemperature value)
    | some command => .moves (setColorTemperature command value)
  | .changeColorTemperature delta =>
    match c.temperature with
    | none => .unsupported (.changeColorTemperature delta)
    | some command => .moves (changeColorTemperature command delta s)
  | .setLedMode mode => .moves (setLedMode c mode)
  | .nextAnimationMode => .moves (setLedMode c (s.ledMode+1))
  | .previousAnimationMode => .moves (setLedMode c (s.ledMode-1))
  | .setAnimationSpeed speed => .moves (setAnimationSpeed c speed s)
  | .changeSpeed delta =>
    .moves (if delta = 0 then [] else [.once [speedMove c (0 < delta)]])
  | .link =>
    if canLink then .moves [.once [.send (.absolute .link (.link true)) id]]
    else .unsupported .link
  | .unlink =>
    if canLink then .moves [.once [.send (.absolute .link (.link false)) id]]
    else .unsupported .unlink

/-- What a family lacks is said first; only then the session matters. -/
def plan (canLink isValid : Bool) (s : LightState) (operation : Operation) : Plan :=
  match planValid c canLink s operation with
  | .moves stretches => if isValid then .moves stretches else .noSession
  | other => other

/-- The plan where sums are checked. The neighbor of a mode is a mode that is set. -/
def plan? (canLink isValid : Bool) (s : LightState) : Operation → Option Plan
  | .nextAnimationMode =>
    (LightState.held? (s.ledMode+1)).map fun mode => plan c canLink isValid s (.setLedMode mode)
  | .previousAnimationMode =>
    (LightState.held? (s.ledMode-1)).map fun mode => plan c canLink isValid s (.setLedMode mode)
  | operation => some (plan c canLink isValid s operation)

end SessionBulb

end LightBridge
