import LightBridge.Proofs.Light.Level
import LightBridge.Proofs.Light.Told
import Mathlib.Algebra.Order.Round
import Mathlib.Data.Rat.Floor
import Mathlib.Tactic.Linarith
import Mathlib.Tactic.NormNum

/-!
# Stored states and the frames that mirror them

Bulbs of the third generation that show colours, and all bulbs of session
bridges, have absolute commands for what is stored. What the last of these
commands said is what is stored.
-/

set_option autoImplicit false

namespace LightBridge

namespace Move

variable {T : Reading}

theorem keeps_absolute {category : Category} {payload : Payload}
    {record : LightState → LightState}
    (others : ∀ s c p, c ≠ category → T s c p → T (record s) c p)
    (own : ∀ s, T (record s) category payload) :
    (Move.send (.absolute category payload) record).Keeps T := by
  constructor
  · intro s c p hc
    exact others s c p fun h => hc (h ▸ rfl)
  · intro s c hc
    cases hc
    exact own s

theorem keeps_step {payload : Payload} {record : LightState → LightState}
    (all : ∀ s c p, T s c p → T (record s) c p) : (Move.send (.step payload) record).Keeps T :=
  ⟨fun s c p _ => all s c p, fun _ _ h => nomatch h⟩

end Move

theorem toNat_ofInt {n : Int} (h : 0 ≤ n) (hn : n < 256) : ((UInt8.ofInt n).toNat : Int) = n := by
  have hm : n % 2^8 = n := Int.emod_eq_of_lt h hn
  rw [UInt8.ofInt, hm, UInt8.toNat_ofNat', Nat.mod_eq_of_lt (by omega), Int.toNat_of_nonneg h]

/-! ## The third generation -/

namespace Rgbw

open Zoned

def Tells (zone : UInt8) : Reading
  | s, .power, p => p = .plain (zoneByte (if s.power then onTable else offTable) zone) 0
  | s, .brightness, p =>
    0 < s.brightness → s.brightness ≤ 100 ∧ p = .plain 0x4E (brightnessByte s.brightness)
  | _, _, _ => True

theorem Planned.keeps {zone : UInt8} {m : Move} (h : Planned zone m) : m.Keeps (Tells zone) := by
  cases h with
  | power on =>
    apply Move.keeps_absolute
    · intro s c p hc h
      cases c <;> first | exact h | exact absurd rfl hc
    · exact fun _ => rfl
  | color hue =>
    apply Move.keeps_absolute
    · intro s c p _ h
      cases c <;> exact h
    · exact fun _ => trivial
  | brightness value positive most =>
    apply Move.keeps_absolute
    · intro s c p hc h
      cases c <;> first | exact h | exact absurd rfl hc
    · exact fun _ _ => ⟨most, rfl⟩
  | mode => exact Move.keeps_step fun _ c _ h => by cases c <;> exact h
  | speed up => exact Move.keeps_step fun _ c _ h => by cases c <;> exact h
  | white => exact Move.keeps_absolute (fun _ _ _ _ h => h) fun _ => trivial
  | dim => exact ⟨fun _ _ _ _ h => h, by rintro _ _ ⟨⟩; trivial⟩
  | night => exact ⟨fun _ _ _ _ h => h, by rintro _ _ ⟨⟩; trivial⟩
  | storeDark =>
    -- Of a brightness that is not positive nothing is told.
    intro s c p h
    cases c <;> first | exact h | exact fun h => absurd h (Int.lt_irrefl 0)
  | storeMode mode => exact fun s c p h => by cases c <;> exact h
  | storeSpeed speed => exact fun s c p h => by cases c <;> exact h

end Rgbw

/-! ## Session bridges -/

namespace SessionBulb

def Tells (c : CommandSet) : Reading
  | s, .power, p => p = pair (if s.power then c.on else c.off)
  | s, .brightness, p =>
    0 < s.brightness → s.brightness ≤ 100 ∧ p = .pair c.brightness (levelByte s.brightness)
  | s, .saturation, p =>
    (0 ≤ s.saturation ∧ s.saturation ≤ 100) ∧
    ∃ command, c.saturation = some command ∧ p = .pair command (levelByte s.saturation)
  | s, .temperature, p =>
    (0 ≤ s.colorTemperature ∧ s.colorTemperature ≤ 100) ∧
    ∃ command, c.temperature = some command ∧
      p = .pair command (UInt8.ofInt (temperatureByte s.colorTemperature))
  | s, .mode, p => (1 ≤ s.ledMode ∧ s.ledMode ≤ 9) ∧ p = .pair c.mode (UInt8.ofInt s.ledMode)
  | _, _, _ => True

theorem levelByte_clamp (value : Int) : levelByte (Plan.clamp 0 100 value) = levelByte value := by
  have h : ∀ x : Int, (x*100).tdiv 100 = x := fun x => Int.mul_tdiv_cancel x (by decide)
  simp only [levelByte, maxLevel, h, Plan.clamp]
  congr 1
  omega

theorem Planned.keeps {c : CommandSet} {m : Move} (h : Planned c m) : m.Keeps (Tells c) := by
  cases h with
  | power on =>
    apply Move.keeps_absolute
    · intro s d p hd h
      cases d <;> first | exact h | exact absurd rfl hd
    · exact fun _ => rfl
  | color hue =>
    apply Move.keeps_absolute
    · intro s d p _ h
      cases d <;> exact h
    · exact fun _ => trivial
  | brightness value positive most =>
    apply Move.keeps_absolute
    · intro s d p hd h
      cases d <;> first | exact h | exact absurd rfl hd
    · exact fun _ _ => ⟨most, rfl⟩
  | saturation command value known =>
    -- The byte is clamped as the stored value is.
    have hr : 0 ≤ Plan.clamp 0 100 value ∧ Plan.clamp 0 100 value ≤ 100 := by
      unfold Plan.clamp
      omega
    apply Move.keeps_absolute
    · intro s d p hd h
      cases d <;> first | exact h | exact absurd rfl hd
    · exact fun _ => ⟨hr, command, known, by rw [levelByte_clamp]⟩
  | temperature command value known least most =>
    apply Move.keeps_absolute
    · intro s d p hd h
      cases d <;> first | exact h | exact absurd rfl hd
    · exact fun _ => ⟨⟨least, most⟩, command, known, rfl⟩
  | mode mode least most =>
    apply Move.keeps_absolute
    · intro s d p hd h
      cases d <;> first | exact h | exact absurd rfl hd
    · exact fun _ => ⟨⟨least, most⟩, rfl⟩
  | speed up => exact Move.keeps_step fun _ d _ h => by cases d <;> exact h
  | white => exact Move.keeps_absolute (fun _ _ _ _ h => h) fun _ => trivial
  | night command known => exact Move.keeps_absolute (fun _ _ _ _ h => h) fun _ => trivial
  | link on => exact Move.keeps_absolute (fun _ _ _ _ h => h) fun _ => trivial
  | storeDark =>
    intro s d p h
    cases d <;> first | exact h | exact fun h => absurd h (Int.lt_irrefl 0)
  | storeSpeed speed => exact fun s d p h => by cases d <;> exact h

end SessionBulb

namespace Bulb

/-- What a family's plans keep, whatever the operation. -/
structure Kept (T : Reading) (b : Bulb) : Prop where
  keeps : ∀ isValid s operation, ∀ m ∈ (b.plan isValid s operation).all, m.Keeps T
  heard : ∀ isValid s operation, isValid = true ∨
    ∀ m ∈ (b.plan isValid s operation).all, m.isPlain = true

theorem rgbw_kept {b : Bulb} (h : b.family = .v3Rgbw) : b.Kept (Rgbw.Tells b.zone) := by
  have hp : ∀ isValid s operation, b.plan isValid s operation = Rgbw.plan b.zone s operation := by
    intros
    rw [plan, h]
  constructor
  · intro isValid s operation
    rw [hp]
    exact fun m hm => (Rgbw.plan_planned b.zone s operation m hm).keeps
  · intro isValid s operation
    rw [hp]
    exact .inr fun m hm => (Rgbw.plan_planned b.zone s operation m hm).isPlain

theorem session_kept {b : Bulb} {c : CommandSet} (h : CommandSet.ofFamily? b.family = some c) :
    b.Kept (SessionBulb.Tells c) := by
  have hp := plan_of_commands h
  constructor
  · intro isValid s operation
    rw [hp]
    exact fun m hm => ((SessionBulb.plan_planned c _ isValid s operation).1 m hm).keeps
  · intro isValid s operation
    cases isValid with
    | true => exact .inl rfl
    | false =>
      right
      rw [hp, (SessionBulb.plan_planned c _ false s operation).2 rfl]
      simp

end Bulb

/-! ## What the last frames say -/

theorem Wire.command_inj {h k : Wire.Header} {r q a b x y zone place : UInt8}
    (e : (Wire.command h r a b zone).toList = (Wire.command k q x y place).toList) :
    a = x ∧ b = y := by
  have ha := congrArg (·[14]?) e
  have hb := congrArg (·[15]?) e
  simp only [Wire.command, Wire.withSum, Wire.unsealed] at ha hb
  exact ⟨by simpa using ha, by simpa using hb⟩

namespace Rgbw

open Zoned

/-- What the last frames of a bulb say of its stored state. -/
structure Mirrors (zone : UInt8) (s : LightState) (last : Category → Option Frame) : Prop where
  power : ∀ f, last .power = some f →
    (f.bytes = Wire.plain (zoneByte onTable zone) 0 ↔ s.power = true)
  brightness : 0 < s.brightness → ∀ f, last .brightness = some f →
    ∃ byte : UInt8, f.bytes = Wire.plain 0x4E byte ∧
      (byte.toNat : Int) = ⌈(s.brightness*26/100 : ℚ)⌉ + 1

theorem level_eq_ceil {value : Int} (h : 0 ≤ value) (levels : Nat) :
    level value levels = ⌈(value*levels/100 : ℚ)⌉ := by
  have hn : 0 ≤ value*levels := Int.mul_nonneg h (Int.natCast_nonneg levels)
  rw [level_eq_ediv h (Int.natCast_nonneg levels), eq_comm, Int.ceil_eq_iff, lt_div_iff₀ (by norm_num), div_le_iff₀ (by norm_num)]
  constructor
  · have hq : ((value*levels+99)/100 - 1)*100 < value*levels := by omega
    exact_mod_cast hq
  · have hq : value*levels ≤ (value*levels+99)/100*100 := by omega
    exact_mod_cast hq

theorem brightnessByte_toNat {value : Int} (h : 0 < value) (hm : value ≤ 100) :
    ((brightnessByte value).toNat : Int) = ⌈(value*26/100 : ℚ)⌉ + 1 := by
  have hc := level_eq_ceil (Int.le_of_lt h) 26
  have hl := level_eq_ediv (Int.le_of_lt h) (show (0 : Int) ≤ 26 by decide)
  rw [brightnessByte, levels, toNat_ofInt (by omega) (by omega)]
  exact congrArg (· + 1) hc

theorem on_ne_off {zone : UInt8} (h : Family.v3Rgbw.hasZone zone = true) :
    zoneByte onTable zone ≠ zoneByte offTable zone := by
  have hall : Family.v3Rgbw.zones.all (fun z => zoneByte onTable z != zoneByte offTable z) =
      true := by decide
  have hz := List.all_eq_true.mp hall zone ((Family.mem_zones .v3Rgbw zone).mpr h)
  simpa using hz

theorem told_mirrors {b : Bulb} (hf : b.family = .v3Rgbw) (hz : b.family.hasZone b.zone = true)
    {s : LightState} {fs : List Frame} (h : b.Told (Tells b.zone) s fs) :
    Mirrors b.zone s fun c => Queue.newest (b.identity (some c)) fs := by
  constructor
  · intro f hl
    obtain ⟨header, p, hb, rfl⟩ := h .power f hl
    rw [hb]
    cases s.power with
    | true => exact iff_of_true rfl rfl
    | false =>
      have hoff := on_ne_off (hf ▸ hz)
      exact iff_of_false (fun he => hoff (List.cons.inj he).1.symm) Bool.false_ne_true
  · intro hs f hl
    obtain ⟨header, p, hb, ht⟩ := h .brightness f hl
    obtain ⟨hm, rfl⟩ := ht hs
    exact ⟨_, hb, brightnessByte_toNat hs hm⟩

end Rgbw

namespace SessionBulb

structure Mirrors (c : CommandSet) (zone : UInt8) (s : LightState)
    (last : Category → Option Frame) : Prop where
  power : ∀ f, last .power = some f →
    ((∃ h, f.bytes = (Wire.command h c.remote c.on.1 c.on.2 zone).toList) ↔ s.power = true)
  brightness : 0 < s.brightness → ∀ f, last .brightness = some f →
    ∃ h byte, f.bytes = (Wire.command h c.remote c.brightness byte zone).toList ∧
      (byte.toNat : Int) = s.brightness
  saturation : ∀ f, last .saturation = some f →
    ∃ h command byte, c.saturation = some command ∧
      f.bytes = (Wire.command h c.remote command byte zone).toList ∧
      (byte.toNat : Int) = s.saturation
  temperature : ∀ f, last .temperature = some f →
    ∃ h command byte, c.temperature = some command ∧
      f.bytes = (Wire.command h c.remote command byte zone).toList ∧
      (byte.toNat : Int) = (s.colorTemperature*64).tdiv 100
  mode : ∀ f, last .mode = some f →
    ∃ h byte, f.bytes = (Wire.command h c.remote c.mode byte zone).toList ∧
      (byte.toNat : Int) = s.ledMode

theorem levelByte_toNat {value : Int} (h : 0 ≤ value) (hm : value ≤ 100) :
    ((levelByte value).toNat : Int) = value := by
  have hl : Plan.clamp 0 maxLevel ((value*maxLevel).tdiv 100) = value := by
    rw [maxLevel, Int.mul_tdiv_cancel value (by decide), Plan.clamp]
    omega
  rw [levelByte, hl, toNat_ofInt h (by omega)]

theorem temperatureByte_toNat {value : Int} (h : 0 ≤ value) (hm : value ≤ 100) :
    ((UInt8.ofInt (temperatureByte value)).toNat : Int) = (value*64).tdiv 100 := by
  have ht : (value*64).tdiv 100 = value*64/100 := Int.tdiv_eq_ediv_of_nonneg (by omega)
  rw [temperatureByte, maxTemperature, toNat_ofInt (by omega) (by omega)]

theorem told_mirrors {b : Bulb} {c : CommandSet} (hc : CommandSet.ofFamily? b.family = some c)
    {s : LightState} {fs : List Frame} (h : b.Told (Tells c) s fs) :
    Mirrors c b.zone s fun d => Queue.newest (b.identity (some d)) fs := by
  have hr : b.remote = c.remote := by simp [Bulb.remote, hc]
  have hp : ∀ header x y, b.bytes header (.pair x y) =
      (Wire.command header c.remote x y b.zone).toList := fun _ _ _ => by rw [Bulb.bytes, hr]
  constructor
  · intro f hl
    obtain ⟨header, p, hb, rfl⟩ := h .power f hl
    rw [hb, pair, hp]
    cases s.power with
    | true => exact iff_of_true ⟨header, rfl⟩ rfl
    | false =>
      have hoff : c.off ≠ c.on := by
        obtain ⟨⟨⟩, zone⟩ := b <;> cases hc <;> decide
      exact iff_of_false (fun ⟨k, he⟩ => hoff (Prod.ext_iff.mpr (Wire.command_inj he)))
        Bool.false_ne_true
  · intro hs f hl
    obtain ⟨header, p, hb, ht⟩ := h .brightness f hl
    obtain ⟨hm, rfl⟩ := ht hs
    exact ⟨header, _, hb.trans (hp ..), levelByte_toNat (Int.le_of_lt hs) hm⟩
  · intro f hl
    obtain ⟨header, p, hb, ⟨hn, hm⟩, command, hk, rfl⟩ := h .saturation f hl
    exact ⟨header, command, _, hk, hb.trans (hp ..), levelByte_toNat hn hm⟩
  · intro f hl
    obtain ⟨header, p, hb, ⟨hn, hm⟩, command, hk, rfl⟩ := h .temperature f hl
    exact ⟨header, command, _, hk, hb.trans (hp ..), temperatureByte_toNat hn hm⟩
  · intro f hl
    obtain ⟨header, p, hb, ⟨hn, hm⟩, rfl⟩ := h .mode f hl
    exact ⟨header, _, hb.trans (hp ..), toNat_ofInt (by omega) (by omega)⟩

end SessionBulb

/-- What the last frames of a bulb say of its stored state, for the families
whose commands are absolute. -/
structure Bulb.Mirrors (b : Bulb) (s : LightState) (last : Category → Option Frame) : Prop where
  plain : b.family = .v3Rgbw → Rgbw.Mirrors b.zone s last
  session : ∀ c, CommandSet.ofFamily? b.family = some c → SessionBulb.Mirrors c b.zone s last

end LightBridge
