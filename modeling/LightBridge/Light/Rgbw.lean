import LightBridge.Light.Plan
import LightBridge.Light.Zoned
import LightBridge.Wire

/-!
# Colour and white bulbs of the third generation

Power, white and night name the zone; everything else acts on the zone that
was last switched on. Brightness is absolute, speed moves by steps, and the
nine modes only cycle forward.
-/

set_option autoImplicit false

namespace LightBridge.Rgbw

open Zoned

def levels : Int := 26

def onTable : List UInt8 := [0x42, 0x45, 0x47, 0x49, 0x4B]

def offTable : List UInt8 := [0x41, 0x46, 0x48, 0x4A, 0x4C]

def whiteTable : List UInt8 := [0xC2, 0xC5, 0xC7, 0xC9, 0xCB]

def nightTable : List UInt8 := [0xC1, 0xC6, 0xC8, 0xCA, 0xCC]

def powerMove (zone : UInt8) (on : Bool) : Move :=
  .send (.absolute .power (.plain (zoneByte (if on then onTable else offTable) zone) 0)) fun s =>
    { s with power := on }

def colorMove (hue : Float32) : Move :=
  .send (.absolute .color (.plain 0x40 (Wire.hueByte hue.toFloat))) fun s =>
    { s with hue := hue/360 }

/-- The brightness byte runs from 2 to 27. -/
def brightnessByte (value : Int) : UInt8 := UInt8.ofInt (level value levels + 1)

def brightnessMove (value : Int) : Move :=
  .send (.absolute .brightness (.plain 0x4E (brightnessByte value))) fun s =>
    { s with brightness := value }

def inModes (mode : Int) : Bool := Plan.firstMode ≤ mode && mode ≤ Plan.lastMode

/-- The mode after the given one; outside the modes the cycle starts anew. -/
def modeAfter (mode : Int) : Int :=
  if inModes mode then mode.tmod Plan.lastMode + 1 else Plan.firstMode

def modeMove : Move :=
  .send (.step (.plain 0x4D 0)) fun s => { s with ledMode := modeAfter s.ledMode }

def speedMove (up : Bool) : Move :=
  .send (.step (.plain (if up then 0x44 else 0x43) 0)) fun s =>
    { s with animationSpeed := Plan.clamp 0 100 (s.animationSpeed + if up then 10 else -10) }

def whiteMode (zone : UInt8) : List Stretch :=
  [.once [powerMove zone true,
    .send (.absolute .whiteMode (.plain (zoneByte whiteTable zone) 0)) id]]

/-- Night mode takes the off command of the zone and then the night command. -/
def nightMode (zone : UInt8) : List Stretch :=
  [.once [.send (.single .nightMode1 (.plain (zoneByte offTable zone) 0)) id,
    .send (.single .nightMode2 (.plain (zoneByte nightTable zone) 0)) id]]

def setBrightness (zone : UInt8) (value : Int) : List Stretch :=
  if value ≤ 0 then
    [.once [powerMove zone false, .store fun s => { s with brightness := 0 }]]
  else [.once [powerMove zone true, brightnessMove (min value 100)]]

/-- Low saturation selects the white light. -/
def setHsb (zone : UInt8) (hue : Float32) (saturation brightness : Option Int) : List Stretch :=
  if saturation.any (· < 50) then whiteMode zone
  else
    .once [powerMove zone true, colorMove hue] :: match brightness with
      | some value => setBrightness zone value
      | none => []

def setLedMode (zone : UInt8) (mode : Int) (s : LightState) : List Stretch :=
  let mode := Plan.clampMode mode
  let here := if inModes s.ledMode then s.ledMode else Plan.firstMode
  let steps := ((mode-here)%Plan.lastMode).toNat
  (if 0 < steps then [.once [powerMove zone true]] else []) ++
    [⟨steps, fun _ => [modeMove]⟩, .once [.store fun s => { s with ledMode := mode }]]

def setAnimationSpeed (zone : UInt8) (speed : Int) (s : LightState) : List Stretch :=
  [⟨Plan.stepCount s.animationSpeed speed 10, fun _ =>
      [powerMove zone true, speedMove (s.animationSpeed < speed)]⟩,
    .once [.store fun s => { s with animationSpeed := speed }]]

def plan (zone : UInt8) (s : LightState) : Operation → Plan
  | .setPower on => .moves [.once [powerMove zone on]]
  | .setHsb hue saturation brightness => .moves (setHsb zone hue saturation brightness)
  | .whiteMode => .moves (whiteMode zone)
  | .nightMode => .moves (nightMode zone)
  | .setBrightness value => .moves (setBrightness zone value)
  | .changeBrightness delta =>
    .moves (if delta = 0 then [] else
      setBrightness zone (Plan.clamp 0 100 (s.brightness+delta)))
  | .setLedMode mode => .moves (setLedMode zone mode s)
  | .nextAnimationMode => .moves [.once [powerMove zone true, modeMove]]
  | .previousAnimationMode => .moves [.once [powerMove zone true, modeMove]]
  | .changeSpeed delta =>
    .moves (if delta = 0 then [] else
      [.once [powerMove zone true, speedMove (0 < delta)]])
  | .setAnimationSpeed speed => .moves (setAnimationSpeed zone speed s)
  | operation => .unsupported operation

end LightBridge.Rgbw
