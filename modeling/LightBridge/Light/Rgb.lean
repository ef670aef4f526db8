import LightBridge.Light.Plan
import LightBridge.Wire

/-!
# Colour bulbs of the oldest bridges

Such bridges have no zones and their bulbs no white light. Brightness only
moves in steps of ten.
-/

set_option autoImplicit false

namespace LightBridge.Rgb

def brightnessStep : Int := 10

def powerMove (on : Bool) : Move :=
  .send (.absolute .power (.plain (if on then 0x22 else 0x21) 0)) fun s => { s with power := on }

def colorMove (hue : Float32) : Move :=
  .send (.absolute .color (.plain 0x20 (Wire.hueByte hue.toFloat))) fun s =>
    { s with hue := hue/360 }

def brighter : Command := .step (.plain 0x23 0)

def dimmer : Command := .step (.plain 0x24 0)

def storeBrightness (value : Int) : Move := .store fun s => { s with brightness := value }

def dimMove (up : Bool) : Move :=
  .send (if up then brighter else dimmer) fun s =>
    { s with
      brightness :=
        Plan.clamp 0 100 (s.brightness + if up then brightnessStep else -brightnessStep) }

def setBrightness (value : Int) (s : LightState) : List Stretch :=
  if value ≤ 0 then [.once [powerMove false, storeBrightness 0]]
  else
    let value := min value 100
    let steps := Plan.stepCount s.brightness value brightnessStep
    if steps = 0 then [.once [storeBrightness value]]
    else
      [.once [powerMove true], ⟨steps, fun _ => [dimMove (s.brightness < value)]⟩,
        .once [storeBrightness value]]

def changeBrightness (delta : Int) (s : LightState) : List Stretch :=
  if delta < 0 then
    let target := max (s.brightness-brightnessStep) 0
    if target = 0 then [.once [powerMove false, storeBrightness target]]
    else [.once [powerMove true, .send dimmer id, storeBrightness target]]
  else if 0 < delta then
    [.once [powerMove true,
      .send brighter fun s => { s with brightness := min (s.brightness+brightnessStep) 100 }]]
  else []

def plan (s : LightState) : Operation → Plan
  | .setPower on => .moves [.once [powerMove on]]
  | .setHsb hue saturation brightness =>
    if saturation.any (· < 50) then .unsupported .whiteMode
    else
      .moves (.once [colorMove hue] :: match brightness with
        | some value => setBrightness value s
        | none => [])
  | .setBrightness value => .moves (setBrightness value s)
  | .changeBrightness delta => .moves (changeBrightness delta s)
  | operation => .unsupported operation

end LightBridge.Rgb
