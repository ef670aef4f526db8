import LightBridge.Light.Zoned
import Mathlib.Algebra.Order.Ring.Int

/-!
# Levels and percentages

Rounding up on the way to a level and rounding down on the way back are
adjoint: a level covers exactly the percentages up to its own. A level that is
stored as a percentage is read back unchanged as long as there are no more
levels than percentages.
-/

set_option autoImplicit false

namespace LightBridge.Zoned

variable {value l levels : Int}

/-! ## The two divisions -/

theorem level_eq_ediv (hv : 0 ≤ value) (hn : 0 ≤ levels) :
    level value levels = (value*levels+99)/100 :=
  Int.tdiv_eq_ediv_of_nonneg (by have := Int.mul_nonneg hv hn; omega)

theorem percent_eq_ediv (hl : 0 ≤ l) : percent l levels = l*100/levels :=
  Int.tdiv_eq_ediv_of_nonneg (by omega)

/-- A level is reached from below exactly by what does not exceed it. -/
theorem level_le_iff (hv : 0 ≤ value) (hn : 0 ≤ levels) :
    level value levels ≤ l ↔ value*levels ≤ l*100 := by
  rw [level_eq_ediv hv hn]
  omega

theorem le_percent_iff (hl : 0 ≤ l) (hn : 1 ≤ levels) :
    value ≤ percent l levels ↔ value*levels ≤ l*100 := by
  rw [percent_eq_ediv hl]
  exact Int.le_ediv_iff_mul_le (by omega)

theorem level_nonneg (hv : 0 ≤ value) (hn : 0 ≤ levels) : 0 ≤ level value levels := by
  have hp := Int.mul_nonneg hv hn
  rw [level_eq_ediv hv hn]
  omega

theorem percent_nonneg (hl : 0 ≤ l) (hn : 1 ≤ levels) : 0 ≤ percent l levels :=
  (le_percent_iff hl hn).mpr (by omega)

/-! ## Order -/

theorem level_mono (hn : 0 ≤ levels) {value value' : Int} (h : value ≤ value') :
    level value levels ≤ level value' levels := by
  have hp := Int.mul_le_mul_of_nonneg_right h hn
  exact Int.tdiv_le_tdiv (by decide) (by omega)

theorem percent_mono (hn : 1 ≤ levels) {l l' : Int} (h : l ≤ l') :
    percent l levels ≤ percent l' levels :=
  Int.tdiv_le_tdiv (by omega) (by omega)

/-! ## There and back -/

/-- No level is skipped: the percentage of a level misses it by less than one
level, and this is what rounding up makes good. -/
theorem level_percent_eq (hl : 0 ≤ l) (hn : 1 ≤ levels) (hm : levels ≤ 100) :
    level (percent l levels) levels = l := by
  have hp := percent_nonneg hl hn
  have hle : level (percent l levels) levels ≤ l :=
    (level_le_iff hp (by omega)).mpr ((le_percent_iff hl hn).mp le_rfl)
  have hge : ¬ level (percent l levels) levels ≤ l-1 := by
    have hnext : ¬ percent l levels + 1 ≤ percent l levels := by omega
    rw [le_percent_iff hl hn, Int.add_mul] at hnext
    rw [level_le_iff hp (by omega)]
    omega
  omega

theorem le_percent_level (hv : 0 ≤ value) (hn : 1 ≤ levels) :
    value ≤ percent (level value levels) levels := by
  have hl := level_nonneg hv (show 0 ≤ levels by omega)
  exact (le_percent_iff hl hn).mpr ((level_le_iff hv (by omega)).mp le_rfl)

/-- Levels and percentages are adjoint; that levels survive the way back is
the same as that there are no more of them than percentages. -/
theorem level_percent_adjoint (hn : 1 ≤ levels) :
    (∀ value l, 0 ≤ value → 0 ≤ l → (level value levels ≤ l ↔ value ≤ percent l levels)) ∧
    (∀ value value', value ≤ value' → level value levels ≤ level value' levels) ∧
    (∀ l l', l ≤ l' → percent l levels ≤ percent l' levels) ∧
    ((∀ l, 0 ≤ l → l ≤ levels → level (percent l levels) levels = l) ↔ levels ≤ 100) ∧
    ∀ value, 0 ≤ value → value ≤ percent (level value levels) levels := by
  have h0 : 0 ≤ levels := by omega
  refine ⟨?_, fun _ _ h => level_mono h0 h, fun _ _ h => percent_mono hn h, ?_,
    fun value hv => le_percent_level hv hn⟩
  · intro value l hv hl
    rw [level_le_iff hv h0, le_percent_iff hl hn]
  · constructor
    · intro hback
      by_contra hm
      have hone := hback 1 (by decide) hn
      -- With more levels than percentages the lowest level stands for no percentage.
      have hzero : percent 1 levels = 0 := by
        rw [percent_eq_ediv (by decide)]
        exact Int.ediv_eq_zero_of_lt (by decide) (by omega)
      rw [hzero, level_eq_ediv le_rfl h0] at hone
      omega
    · intro hm l hl _
      exact level_percent_eq hl hn hm

/-- The 26 levels of brightness of a bulb: 77 needs level 21, which stands for
80 and is read back from it. -/
theorem brightnessLevels_adjoint :
    (level 77 26 ≤ 21 ↔ 77 ≤ percent 21 26) ∧ level (percent 21 26) 26 = 21 ∧
      77 ≤ percent (level 77 26) 26 ∧ percent 21 26 = 80 := by
  obtain ⟨hadjoint, _, _, hback, hcover⟩ := level_percent_adjoint (show (1 : Int) ≤ 26 by decide)
  exact ⟨hadjoint 77 21 (by decide) (by decide),
    hback.mpr (by decide) 21 (by decide) (by decide), hcover 77 (by decide), rfl⟩

end LightBridge.Zoned
