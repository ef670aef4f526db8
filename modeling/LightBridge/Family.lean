import LightBridge.Protocol

/-!
# Bulb families

A family is a kind of bulb on bridges of one generation. It fixes the zones a
bulb can be addressed on, zone 0 standing for all of them, what the bulb can
do, and the offset that keeps its frames apart from other families' frames.
-/

set_option autoImplicit false

namespace LightBridge

inductive Capability where
  | power
  | color
  | brightness
  | saturation
  | colorTemperature
  | animation
  | animationSpeed
  | whiteMode
  | nightMode
  | link
  deriving DecidableEq, Repr

namespace Capability

def all : List Capability :=
  [power, color, brightness, saturation, colorTemperature, animation, animationSpeed, whiteMode,
    nightMode, link]

def name : Capability → String
  | power => "Power"
  | color => "Color"
  | brightness => "Brightness"
  | saturation => "Saturation"
  | colorTemperature => "ColorTemperature"
  | animation => "Animation"
  | animationSpeed => "AnimationSpeed"
  | whiteMode => "WhiteMode"
  | nightMode => "NightMode"
  | link => "Link"

end Capability

inductive Family where
  | v2Rgb
  | v3White
  | v3Rgbw
  | v6RgbCwWw
  | v6Rgbw
  | v6BridgeLamp
  deriving DecidableEq, Repr

namespace Family

def all : List Family := [v2Rgb, v3White, v3Rgbw, v6RgbCwWw, v6Rgbw, v6BridgeLamp]

theorem mem_all (f : Family) : f ∈ all := by cases f <;> decide

def name : Family → String
  | v2Rgb => "v2-rgb"
  | v3White => "v3-white"
  | v3Rgbw => "v3-rgbw"
  | v6RgbCwWw => "v6-rgb-cw-ww"
  | v6Rgbw => "v6-rgbw"
  | v6BridgeLamp => "v6-bridge-lamp"

def ofName? (s : String) : Option Family := all.find? fun f => f.name = s

def protocol : Family → Protocol
  | v2Rgb => .v2
  | v3White | v3Rgbw => .v3
  | v6RgbCwWw | v6Rgbw | v6BridgeLamp => .v6

def offset : Family → Nat
  | v3White | v6BridgeLamp => 0
  | v2Rgb => 5
  | v3Rgbw | v6RgbCwWw => 10
  | v6Rgbw => 20

def zoneRange : Family → UInt8 × UInt8
  | v2Rgb => (0, 0)
  | v6BridgeLamp => (1, 1)
  | _ => (0, 4)

def hasZone (f : Family) (zone : UInt8) : Bool :=
  f.zoneRange.1 ≤ zone && zone ≤ f.zoneRange.2

def zones (f : Family) : List UInt8 := [0, 1, 2, 3, 4].filter f.hasZone

theorem mem_zones (f : Family) (zone : UInt8) : zone ∈ f.zones ↔ f.hasZone zone = true := by
  have h : zone ∈ ([0, 1, 2, 3, 4] : List UInt8) ↔ zone ≤ 4 := by
    simp only [List.mem_cons, List.not_mem_nil, or_false, UInt8.le_iff_toNat_le,
      ← UInt8.toNat_inj]
    have : (4 : UInt8).toNat = 4 := rfl
    simp
    omega
  rw [zones, List.mem_filter, h, and_iff_right_iff_imp, hasZone, Bool.and_eq_true,
    decide_eq_true_eq, decide_eq_true_eq]
  cases f <;> simp only [zoneRange, UInt8.le_iff_toNat_le] <;> intro hz <;> simp at * <;> omega

def capabilities : Family → List Capability
  | v2Rgb => [.power, .color, .brightness]
  | v3White => [.power, .brightness, .colorTemperature, .nightMode, .animation]
  | v3Rgbw =>
    [.power, .color, .brightness, .animation, .animationSpeed, .whiteMode, .nightMode]
  | v6RgbCwWw =>
    [.power, .color, .brightness, .saturation, .colorTemperature, .animation, .animationSpeed,
      .whiteMode, .nightMode, .link]
  | v6Rgbw =>
    [.power, .color, .brightness, .animation, .animationSpeed, .whiteMode, .nightMode, .link]
  | v6BridgeLamp => [.power, .color, .brightness, .animation, .animationSpeed, .whiteMode]

def supports (f : Family) (c : Capability) : Bool := f.capabilities.contains c

end Family

end LightBridge
