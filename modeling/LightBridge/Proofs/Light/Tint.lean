import LightBridge.Proofs.Light.Mirror
import LightBridge.Proofs.Light.Outcome
import Mathlib.Logic.Function.Iterate

/-!
# Relative colour temperature

A session bulb takes its colour temperature as one of 65 bytes, and a
percentage is stored. A relative change counts in bytes: the byte of the stored
percentage is moved, turned into a percentage and that into the byte that is
sent. Each conversion rounds down, so only every sixteenth byte survives; any
other is sent one too low. Down this helps, and up it costs one byte a call.
-/

set_option autoImplicit false

namespace LightBridge

open Plan

namespace SessionBulb

/-! ## One change -/

/-- The stored percentage after a change by some bytes. -/
def slid (delta here : Int) : Int := clamp 0 64 (here*64/100+delta)*100/64

variable {delta here : Int}

theorem moved_range (byte : Int) : 0 ≤ clamp 0 64 byte ∧ clamp 0 64 byte ≤ 64 :=
  clamp_range (by decide) byte

theorem slid_range (delta here : Int) : 0 ≤ slid delta here ∧ slid delta here ≤ 100 := by
  have h := moved_range (here*64/100+delta)
  unfold slid
  omega

/-- A byte survives its percentage if it is a multiple of 16. -/
theorem byte_slid :
    slid delta here*64/100 =
      if 16 ∣ clamp 0 64 (here*64/100+delta) then clamp 0 64 (here*64/100+delta)
      else clamp 0 64 (here*64/100+delta) - 1 := by
  have h := moved_range (here*64/100+delta)
  unfold slid
  generalize clamp 0 64 (here*64/100+delta) = byte at h ⊢
  split
  · omega
  · rename_i hn
    have hlost : byte*100/64*64 ≠ byte*100 := by omega
    omega

theorem slid_raises (h : 0 ≤ here ∧ here ≤ 100) (hd : 0 < delta) :
    here*64/100 < slid delta here*64/100 ↔
      here*64/100 < 64 ∧ (2 ≤ delta ∨ 16 ∣ here*64/100+1) := by
  rw [byte_slid]
  have hb : 0 ≤ here*64/100 ∧ here*64/100 ≤ 64 := by omega
  generalize here*64/100 = byte at hb ⊢
  have hc : clamp 0 64 (byte+delta) = min 64 (byte+delta) := by unfold clamp; omega
  rw [hc]
  rcases Int.lt_or_le 64 (byte+delta) with hover | hunder
  · rw [min_eq_left (by omega), if_pos (by decide)]
    omega
  · rw [min_eq_right hunder]
    split <;> omega

theorem le_byte_slid (h : 0 ≤ here ∧ here ≤ 100) (hd : 0 < delta) :
    here*64/100 ≤ slid delta here*64/100 := by
  rw [byte_slid]
  unfold clamp
  split <;> omega

theorem slid_lowers (h : 0 ≤ here ∧ here ≤ 100) (hd : delta < 0) :
    slid delta here*64/100 < here*64/100 ↔ 0 < here*64/100 := by
  rw [byte_slid]
  unfold clamp
  split <;> omega

/-- A change down lowers the percentage by two at least. -/
theorem slid_le (hd : delta < 0) (here : Int) : slid delta here ≤ max 0 (here-2) := by
  unfold slid clamp
  omega

/-- A change up by two bytes or more raises the byte by one at least. -/
theorem le_slid (h : 0 ≤ here ∧ here ≤ 100) (hd : 2 ≤ delta) :
    min 64 (here*64/100+1) ≤ slid delta here*64/100 := by
  rw [byte_slid]
  unfold clamp
  split <;> omega

theorem slid_one : slid 1 here = 100 ↔ 99 ≤ here := by
  unfold slid clamp
  omega

theorem stored_slid (h : 0 ≤ here ∧ here ≤ 100) :
    clamp 0 100 ((clamp 0 maxTemperature (temperatureByte here + delta)*100).tdiv maxTemperature) =
      slid delta here := by
  have hb : temperatureByte here = here*64/100 :=
    Int.tdiv_eq_ediv_of_nonneg (Int.mul_nonneg h.1 (by decide))
  have hm := moved_range (here*64/100+delta)
  have hs : (clamp 0 64 (here*64/100+delta)*100).tdiv 64 = slid delta here :=
    Int.tdiv_eq_ediv_of_nonneg (Int.mul_nonneg hm.1 (by decide))
  have hr := slid_range delta here
  rw [hb, maxTemperature, hs, clamp]
  omega

theorem changeColorTemperature_all (hd : delta ≠ 0) (command : UInt8) {s : LightState}
    (h : 0 ≤ s.colorTemperature ∧ s.colorTemperature ≤ 100) :
    (Plan.moves (changeColorTemperature command delta s)).all =
      [.send (.absolute .temperature (.pair command
        (UInt8.ofInt (temperatureByte (slid delta s.colorTemperature))))) fun s' =>
          { s' with colorTemperature := slid delta s.colorTemperature }] := by
  simp [changeColorTemperature, setColorTemperature, hd, Plan.all, stored_slid h]

theorem tintByte_toNat :
    ((UInt8.ofInt (temperatureByte (slid delta here))).toNat : Int) = slid delta here*64/100 := by
  obtain ⟨hn, hm⟩ := slid_range delta here
  rw [temperatureByte_toNat hn hm]
  exact Int.tdiv_eq_ediv_of_nonneg (Int.mul_nonneg hn (by decide))

/-! ## Change after change -/

theorem slid_iterate_range (delta : Int) (h : 0 ≤ here ∧ here ≤ 100) (n : Nat) :
    0 ≤ (slid delta)^[n] here ∧ (slid delta)^[n] here ≤ 100 := by
  cases n with
  | zero => exact h
  | succ n =>
    rw [Function.iterate_succ_apply']
    exact slid_range delta _

theorem slid_iterate_le (hd : delta < 0) (here : Int) (n : Nat) :
    (slid delta)^[n] here ≤ max 0 (here-2*n) := by
  induction n with
  | zero => simp
  | succ n ih =>
    rw [Function.iterate_succ_apply']
    have hs := slid_le hd ((slid delta)^[n] here)
    omega

theorem le_slid_iterate (hd : 2 ≤ delta) (h : 0 ≤ here ∧ here ≤ 100) (n : Nat) :
    min 64 (here*64/100+n) ≤ (slid delta)^[n] here*64/100 := by
  induction n with
  | zero => simp
  | succ n ih =>
    rw [Function.iterate_succ_apply']
    have hs := le_slid (slid_iterate_range delta h n) hd
    omega

theorem slid_one_iterate (n : Nat) : 99 ≤ (slid 1)^[n] here ↔ 99 ≤ here := by
  induction n with
  | zero => rfl
  | succ n ih =>
    rw [Function.iterate_succ_apply', ← ih]
    unfold slid clamp
    omega

/-- Enough changes of one kind end at the end of the scale, except that changes
up by one byte get there only from the two highest percentages. -/
theorem slid_iterate_end (h : 0 ≤ here ∧ here ≤ 100) {n : Nat} (hn : 64 ≤ n) :
    (delta < 0 → (slid delta)^[n] here = 0) ∧
    (0 < delta → ((slid delta)^[n] here = 100 ↔ 2 ≤ delta ∨ 99 ≤ here)) := by
  have hr := slid_iterate_range delta h n
  constructor
  · intro hd
    have hle := slid_iterate_le hd here n
    omega
  · intro hd
    by_cases htwo : 2 ≤ delta
    · have hup := le_slid_iterate htwo h n
      omega
    · obtain rfl : delta = 1 := by omega
      obtain ⟨m, rfl⟩ : ∃ m, n = m+1 := ⟨n-1, by omega⟩
      rw [Function.iterate_succ_apply', slid_one, slid_one_iterate]
      omega

end SessionBulb

namespace Light

open SessionBulb

variable {light : Light} {delta : Int}

/-- A number of calls of one operation, each in a valid session and each
completed; between them anything may happen to the link. -/
inductive Repeats (operation : Operation) (light : Light) : Nat → Light → Prop where
  | start : Repeats operation light 0 light
  | call {n : Nat} {last : Light} (calls : Repeats operation light n last) (wall : Nat) (l : Link)
      (valid : l.isValid = true) (done : (last.operate wall l operation).result = .ok ()) :
    Repeats operation light (n+1) (last.withState (last.operate wall l operation).state)

section

variable (hf : light.family = .v6RgbCwWw) (hd : delta ≠ 0)
  (h : 0 ≤ light.state.colorTemperature ∧ light.state.colorTemperature ≤ 100)

include hf hd h

theorem change_plan :
    (light.bulb.plan true light.state (.changeColorTemperature delta)).all =
      [.send (.absolute .temperature (.pair 0x05
        (UInt8.ofInt (temperatureByte (slid delta light.state.colorTemperature))))) fun s =>
          { s with colorTemperature := slid delta light.state.colorTemperature }] := by
  obtain ⟨⟨family, zone⟩, name, state⟩ := light
  cases hf
  exact changeColorTemperature_all hd 0x05 h

theorem change_state {wall : Nat} {l : Link} (hv : l.isValid = true)
    (hok : (light.operate wall l (.changeColorTemperature delta)).result = .ok ()) :
    (light.operate wall l (.changeColorTemperature delta)).state =
      { light.state with colorTemperature := slid delta light.state.colorTemperature } := by
  rw [(operate_completed hok).1, hv, change_plan hf hd h]
  rfl

theorem change_sent {wall : Nat} {l : Link} (hv : l.isValid = true)
    (hok : (light.operate wall l (.changeColorTemperature delta)).result = .ok ()) :
    ∃ header byte, (byte.toNat : Int) = slid delta light.state.colorTemperature*64/100 ∧
      (light.taken wall l (.changeColorTemperature delta)).map (·.bytes) =
        [(Wire.command header 0x08 0x05 byte light.bulb.zone).toList] := by
  obtain ⟨_, sent, hs, ht⟩ := operate_completed hok
  rw [hv, change_plan hf hd h] at hs
  obtain ⟨x, rfl, hx⟩ := List.map_eq_singleton_iff.mp hs
  have hr : light.bulb.remote = 0x08 := by
    rw [Bulb.remote, show light.bulb.family = .v6RgbCwWw from hf]
    rfl
  refine ⟨x.1, _, tintByte_toNat, ?_⟩
  rw [ht]
  simp [hx, Bulb.frame, Bulb.bytes, Command.absolute, hr]

/-- What a run of changes has come to, so that the next one finds the bulb as
the first one did. -/
theorem Repeats.tint {n : Nat} {last : Light}
    (hr : Repeats (.changeColorTemperature delta) light n last) :
    last.family = .v6RgbCwWw ∧
      last.state.colorTemperature = (slid delta)^[n] light.state.colorTemperature ∧
      0 ≤ last.state.colorTemperature ∧ last.state.colorTemperature ≤ 100 := by
  induction hr with
  | start => exact ⟨hf, rfl, h⟩
  | call calls wall l valid done ih =>
    obtain ⟨hlast, ht, hrange⟩ := ih
    have hs := congrArg LightState.colorTemperature (change_state hlast hd hrange valid done)
    refine ⟨hlast, ?_, ?_⟩
    · rw [Function.iterate_succ_apply', ← ht]
      exact hs
    · rw [withState, hs]
      exact slid_range delta _

/-- Nothing keeps a change from being repeated. -/
theorem exists_repeats (n : Nat) :
    ∃ last, Repeats (.changeColorTemperature delta) light n last := by
  induction n with
  | zero => exact ⟨light, .start⟩
  | succ n ih =>
    obtain ⟨last, calls⟩ := ih
    obtain ⟨hlast, _, hrange⟩ := calls.tint hf hd h
    exact ⟨_, calls.call 0 readyLink rfl (readyLink_completes 0 last (change_plan hlast hd hrange))⟩

end

/-- A completed change sends one byte for the temperature. Down it is below the
byte of the stored percentage, unless that is 0. Up it is above it, unless that
is 64, if the change is by two bytes or more, or leads to a multiple of 16;
otherwise the byte stays the same. So repeated changes down end at 0, and
repeated changes up end at 100 if they are by two bytes or more; those by one
byte do only from a percentage of 99 or 100. -/
theorem changes_slide_temperature (hf : light.family = .v6RgbCwWw) (hd : delta ≠ 0)
    (h : 0 ≤ light.state.colorTemperature ∧ light.state.colorTemperature ≤ 100) :
    let here := light.state.colorTemperature
    (∀ wall l, l.isValid = true →
      (light.operate wall l (.changeColorTemperature delta)).result = .ok () →
      (light.operate wall l (.changeColorTemperature delta)).state =
        { light.state with colorTemperature := slid delta here } ∧
      ∃ header byte, (light.taken wall l (.changeColorTemperature delta)).map (·.bytes) =
          [(Wire.command header 0x08 0x05 byte light.bulb.zone).toList] ∧
        (byte.toNat : Int) = slid delta here*64/100 ∧
        (0 < delta → here*64/100 ≤ byte.toNat ∧
          (here*64/100 < byte.toNat ↔
            here*64/100 < 64 ∧ (2 ≤ delta ∨ 16 ∣ here*64/100+1))) ∧
        (delta < 0 → (byte.toNat < here*64/100 ↔ 0 < here*64/100))) ∧
    ∀ n last, Repeats (.changeColorTemperature delta) light n last →
      (delta = 1 → (99 ≤ last.state.colorTemperature ↔ 99 ≤ here)) ∧
      (64 ≤ n → 0 < delta → (last.state.colorTemperature = 100 ↔ 2 ≤ delta ∨ 99 ≤ here)) ∧
      (64 ≤ n → delta < 0 → last.state.colorTemperature = 0) := by
  intro here
  constructor
  · intro wall l hv hok
    obtain ⟨header, byte, hb, hsent⟩ := change_sent hf hd h hv hok
    refine ⟨change_state hf hd h hv hok, header, byte, hsent, hb, ?_, ?_⟩
    · intro hup
      rw [hb]
      exact ⟨le_byte_slid h hup, slid_raises h hup⟩
    · intro hdown
      rw [hb]
      exact slid_lowers h hdown
  · intro n last calls
    rw [(calls.tint hf hd h).2.1]
    refine ⟨?_, fun hn => (slid_iterate_end h hn).2, fun hn => (slid_iterate_end h hn).1⟩
    rintro rfl
    exact slid_one_iterate n

end Light

def tintedLight : Light :=
  ⟨⟨.v6RgbCwWw, 1⟩, none, { LightState.initial with colorTemperature := 50 }⟩

/-- From 50, a change up by one byte has nothing to show for it, however often
it is made; changes down by one byte end at 0. -/
theorem tintedLight_slides :
    (tintedLight.operate 0 readyLink (.changeColorTemperature 1)).state =
      { tintedLight.state with colorTemperature := 51 } ∧
    (∃ header, (tintedLight.taken 0 readyLink (.changeColorTemperature 1)).map (·.bytes) =
      [(Wire.command header 0x08 0x05 32 1).toList]) ∧
    (∃ last, Light.Repeats (.changeColorTemperature 1) tintedLight 1000 last ∧
      last.state.colorTemperature < 99) ∧
    ∃ last, Light.Repeats (.changeColorTemperature (-1)) tintedLight 64 last ∧
      last.state.colorTemperature = 0 := by
  have hf : tintedLight.family = .v6RgbCwWw := rfl
  have h : 0 ≤ tintedLight.state.colorTemperature ∧ tintedLight.state.colorTemperature ≤ 100 := by
    decide
  have hok : (tintedLight.operate 0 readyLink (.changeColorTemperature 1)).result = .ok () := rfl
  have hup : (1 : Int) ≠ 0 := by decide
  have hdown : (-1 : Int) ≠ 0 := by decide
  obtain ⟨once, up⟩ := Light.changes_slide_temperature hf hup h
  obtain ⟨_, down⟩ := Light.changes_slide_temperature hf hdown h
  obtain ⟨hs, header, byte, hsent, hb, _⟩ := once 0 readyLink rfl hok
  obtain ⟨last, calls⟩ := Light.exists_repeats hf hup h 1000
  obtain ⟨least, more⟩ := Light.exists_repeats hf hdown h 64
  obtain rfl : byte = 32 := UInt8.toNat.inj (Int.ofNat.inj hb)
  refine ⟨hs, ⟨header, hsent⟩, ⟨last, calls, ?_⟩, least, more, ?_⟩
  · exact Int.not_le.mp (mt ((up 1000 last calls).1 rfl).mp (by decide))
  · exact (down 64 least more).2.2 (by decide) (by decide)

/-- A change up by one byte, from 0, sends the byte 0. -/
theorem smallestChange_sticks :
    ¬ ∀ (light : Light) (wall : Nat) (l : Link) (delta : Int),
      light.family = .v6RgbCwWw → l.isValid = true →
      0 ≤ light.state.colorTemperature ∧ light.state.colorTemperature ≤ 100 →
      (light.operate wall l (.changeColorTemperature delta)).result = .ok () →
      0 < delta → light.state.colorTemperature*64/100 < 64 →
      ∃ header byte, (light.taken wall l (.changeColorTemperature delta)).map (·.bytes) =
          [(Wire.command header 0x08 0x05 byte light.bulb.zone).toList] ∧
        light.state.colorTemperature*64/100 < byte.toNat := by
  intro h
  obtain ⟨header, byte, hsent, hup⟩ := h (.create ⟨.v6RgbCwWw, 1⟩ none) 0 readyLink 1 rfl rfl
    (by decide) rfl (by decide) (by decide)
  obtain ⟨_, rfl⟩ := Wire.command_inj (List.cons.inj hsent).1
  exact absurd hup (by decide)

end LightBridge
