import LightBridge.Text.Quoted

/-!
# Frames

A frame is what one send puts on the wire, with the identity under which a
waiting frame gives way to a newer one. Identity 0 never gives way.
-/

set_option autoImplicit false

namespace LightBridge

inductive Category where
  | session
  | keepAlive
  | power
  | color
  | brightness
  | saturation
  | temperature
  | mode
  | whiteMode
  | nightMode1
  | nightMode2
  | link
  deriving DecidableEq, Repr

namespace Category

def all : List Category :=
  [session, keepAlive, power, color, brightness, saturation, temperature, mode, whiteMode,
    nightMode1, nightMode2, link]

def number : Category → Nat
  | session => 1
  | keepAlive => 2
  | power => 3
  | color => 4
  | brightness => 5
  | saturation => 6
  | temperature => 7
  | mode => 8
  | whiteMode => 9
  | nightMode1 => 10
  | nightMode2 => 11
  | link => 12

def name : Category → String
  | session => "Session"
  | keepAlive => "KeepAlive"
  | power => "Power"
  | color => "Color"
  | brightness => "Brightness"
  | saturation => "Saturation"
  | temperature => "Temperature"
  | mode => "Mode"
  | whiteMode => "WhiteMode"
  | nightMode1 => "NightMode1"
  | nightMode2 => "NightMode2"
  | link => "Link"

def ofName? (s : String) : Option Category := all.find? fun c => c.name = s

/-- The identity of an absolute command, from its category, the offset of the
family and the zone. -/
def identity (c : Category) (offset zone : Nat) : Nat := c.number*100+offset+zone

theorem identity_pos (c : Category) (offset zone : Nat) : 0 < c.identity offset zone := by
  cases c <;> simp only [identity, number] <;> omega

end Category

structure Frame where
  bytes : List UInt8
  /-- Waiting frames of one non-zero identity replace each other. -/
  identity : Nat
  repeatable : Bool
  deriving DecidableEq, Repr

namespace Frame

def relative (bytes : List UInt8) : Frame := ⟨bytes, 0, false⟩

def describe (f : Frame) : String :=
  "Frame \x7b bytes: " ++ Text.quoted (Text.spacedHex f.bytes) ++ ", coalesce_id: "
    ++ Text.natural f.identity ++ ", repeatable: " ++ (if f.repeatable then "true" else "false")
    ++ " \x7d"

end Frame

end LightBridge
