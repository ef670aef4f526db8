import LightBridge.Light.Plan
import LightBridge.Light.Zoned

/-!
# White bulbs of the third generation

Power, night and full brightness name the zone. Brightness and temperature
have eleven levels and move by single steps, which act on the zone that was
last switched on.
-/

set_option autoImplicit false

namespace LightBridge.White

open Zoned

def levels : Int := 11

def onTable : List UInt8 := [0x35, 0x38, 0x3D, 0x37, 0x32]

def offTable : List UInt8 := [0x39, 0x3B, 0x33, 0x3A, 0x36]

def fullTable : List UInt8 := [0xB5, 0xB8, 0xBD, 0xB7, 0xB2]

def nightTable : List UInt8 := [0xB9, 0xBB, 0xB3, 0xBA, 0xB6]

def brighter : Command := .step (.plain 0x3C 0)

def dimmer : Command := .step (.plain 0x34 0)

def warmer : Command := .step (.plain 0x3E 0)

def cooler : Command := .step (.plain 0x3F 0)

def nextMode : Command := .step (.plain 0x27 0)

def previousMode : Command := .step (.plain 0x28 0)

def powerMove (zone : UInt8) (on : Bool) : Move :=
  .send (.absolute .power (.plain (zoneByte (if on then onTable else offTable) zone) 0)) fun s =>
    { s with power := on }

/-- Full brightness, which also switches the zone on. -/
def fullMove (zone : UInt8) : Move :=
  .send (.absolute .brightness (.plain (zoneByte fullTable zone) 0)) fun s =>
    { s with power := true, brightness := 100 }

def storeBrightness (value : Int) : Move := .store fun s => { s with brightness := value }

/-- Moves by one level, from `here` on, in the given direction. -/
def reached (up : Bool) (here : Int) (round : Nat) : Int :=
  if up then here+round else here-round

def temperatureMove (up : Bool) (l : Int) : Move :=
  .send (if up then warmer else cooler) fun s =>
    { s with colorTemperature := percent (Plan.clamp 1 levels l) levels }

def modeMove (next : Bool) : Move :=
  .send (if next then nextMode else previousMode) fun s =>
    { s with ledMode := Plan.clampMode (s.ledMode + if next then 1 else -1) }

/-- The value to store, the level to reach and the level taken as the present
one. The ends of the range lead over the whole scale, so they reset the bulb. -/
def temperatureGoal (value : Int) (s : LightState) : Int × Int × Int :=
  if value ≤ 0 then (0, 1, levels)
  else if 100 ≤ value then (100, levels, 1)
  else (value, level value levels, level s.colorTemperature levels)

def setColorTemperature (zone : UInt8) (value : Int) (s : LightState) : List Stretch :=
  let (value, target, here) := temperatureGoal value s
  let steps := (target-here).natAbs
  let up := here < target
  (if 0 < steps then [.once [powerMove zone true]] else []) ++
    [⟨steps, fun round => [temperatureMove up (reached up here round)]⟩,
      .once [.store fun s => { s with colorTemperature := value }]]

def changeColorTemperature (zone : UInt8) (delta : Int) (s : LightState) : List Stretch :=
  if delta = 0 then []
  else
    let up := 0 < delta
    [.once [powerMove zone true,
      temperatureMove up (reached up (level s.colorTemperature levels) 1)]]

/-- A bulb that is off comes on at full brightness and is dimmed from there. -/
def setBrightness (zone : UInt8) (value : Int) (s : LightState) : List Stretch :=
  if value ≤ 0 then [.once [powerMove zone false, storeBrightness 0]]
  else if 100 ≤ value then [.once [fullMove zone]]
  else
    let target := level value levels
    let wasOff := s.brightness ≤ 0
    let here := if wasOff then levels else level s.brightness levels
    let up := here < target
    [.once [if wasOff then fullMove zone else powerMove zone true],
      ⟨(target-here).natAbs, fun round =>
        [.send (if up then brighter else dimmer) fun s =>
          { s with brightness := percent (reached up here round) levels }]⟩,
      .once [storeBrightness value]]

def changeBrightness (zone : UInt8) (delta : Int) (s : LightState) : List Stretch :=
  if delta < 0 then
    let target := max (s.brightness-10) 0
    if target = 0 then [.once [powerMove zone false, storeBrightness target]]
    else [.once [powerMove zone true, .send dimmer id, storeBrightness target]]
  else if 0 < delta then
    [.once [powerMove zone true,
      .send brighter fun s => { s with brightness := min (s.brightness+10) 100 }]]
  else []

def setLedMode (zone : UInt8) (mode : Int) (s : LightState) : List Stretch :=
  let mode := Plan.clampMode mode
  let steps := (mode-s.ledMode).natAbs
  if steps = 0 then []
  else
    [.once [powerMove zone true], ⟨steps, fun _ => [modeMove (s.ledMode < mode)]⟩,
      .once [.store fun s => { s with ledMode := mode }]]

/-- Of a colour only the brightness applies. -/
def plan (zone : UInt8) (s : LightState) : Operation → Plan
  | .setPower on => .moves [.once [powerMove zone on]]
  | .setHsb _ _ (some value) => .moves (setBrightness zone value s)
  | .setHsb _ _ none => .moves []
  | .nightMode =>
    .moves [.once [.send (.absolute .nightMode1 (.plain (zoneByte nightTable zone) 0)) id]]
  | .setColorTemperature value => .moves (setColorTemperature zone value s)
  | .changeColorTemperature delta => .moves (changeColorTemperature zone delta s)
  | .setBrightness value => .moves (setBrightness zone value s)
  | .changeBrightness delta => .moves (changeBrightness zone delta s)
  | .setLedMode mode => .moves (setLedMode zone mode s)
  | .nextAnimationMode => .moves [.once [powerMove zone true, modeMove true]]
  | .previousAnimationMode => .moves [.once [powerMove zone true, modeMove false]]
  | operation => .unsupported operation

end LightBridge.White
