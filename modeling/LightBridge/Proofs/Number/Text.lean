import LightBridge.Number.Text
import LightBridge.Proofs.Json.Grammar

/-!
# The text of a number

A number that is not zero has digits that are not, since the grids are refined
until a point next to the number is not zero either. So whatever notation its
text takes, it is one of a number, without zeros ahead.
-/

set_option autoImplicit false

namespace LightBridge

open Json Text

/-! ## Digits -/

namespace Number

namespace Interval

theorem pick?_digits {i : Interval} {e : Int} {d : Decimal} (h : i.pick? e = some d) :
    d.digits ≠ 0 := by
  simp only [pick?] at h
  split at h
  · rename_i hbelow
    simp only [Bool.and_eq_true, bne_iff_ne] at hbelow
    split at h <;> cases h
    · exact hbelow.1.2
    · exact Nat.succ_ne_zero _
  · split at h
    · rename_i hbelow
      simp only [Bool.and_eq_true, bne_iff_ne] at hbelow
      cases h
      exact hbelow.2
    · split at h <;> cases h
      exact Nat.succ_ne_zero _

theorem search_digits {i : Interval} (n : Nat) {e : Int} (h : i.floorAt (e-n) ≠ 0) :
    (i.search n e).digits ≠ 0 := by
  induction n generalizing e with
  | zero => simpa [search] using h
  | succ n ih =>
    rw [search]
    cases hp : i.pick? e with
    | some d => exact pick?_digits hp
    | none =>
      refine ih ?_
      rwa [show e-1-n = e-((n+1 : Nat) : Int) by omega]

/-- The finest grid is finer than the smallest number. -/
theorem floorAt_ofBinary {m : Nat} (hm : m ≠ 0) {q : Int} (hq : -149 ≤ q) (narrow : Bool) :
    (ofBinary m q narrow).floorAt (-56) ≠ 0 := by
  have hscale : 2^(2-q).toNat ≤ 2^151 := Nat.pow_le_pow_right (by decide) (by omega)
  have hunit : 2^151 ≤ 10^56 := by decide
  have hvalue : 1 ≤ 4*m*2^(q-2).toNat :=
    Nat.mul_pos (by omega) (Nat.pow_pos (by decide))
  have hle : 2^(2-q).toNat*10^0 ≤ 4*m*2^(q-2).toNat*10^56 := by
    calc 2^(2-q).toNat*10^0 ≤ 1*10^56 := by simpa using Nat.le_trans hscale hunit
      _ ≤ 4*m*2^(q-2).toNat*10^56 := Nat.mul_le_mul_right _ hvalue
  exact Nat.div_ne_zero_iff.mpr ⟨Nat.mul_ne_zero (Nat.pow_pos (by decide)).ne' (by decide), hle⟩

end Interval

theorem trim_digits (n : Nat) {d : Decimal} (h : d.digits ≠ 0) : (trim n d).digits ≠ 0 := by
  induction n generalizing d with
  | zero => exact h
  | succ n ih =>
    rw [trim]
    split
    · rename_i hd
      simp only [Bool.and_eq_true, bne_iff_ne, beq_iff_eq] at hd
      exact ih (by dsimp only; omega)
    · exact h

theorem shortest_digits {bits : UInt32} (h : bits.toNat % 0x80000000 ≠ 0) :
    (shortest bits).digits ≠ 0 := by
  rw [shortest]
  refine trim_digits 10 (Interval.search_digits 95 ?_)
  split
  · rename_i hb
    exact Interval.floorAt_ofBinary (by omega) (by omega) false
  · exact Interval.floorAt_ofBinary (by omega) (by omega) _

/-! ## Notations -/

theorem forall_mem_zeros (n : Nat) : ∀ z ∈ List.replicate n '0', isDigit z = true := by
  intro z hz
  rw [List.eq_of_mem_replicate hz]
  decide

section
variable {c : Char} {cs : List Char}

/-- One digit before the point, and an exponent. -/
theorem scientific_isNumber (hdigit : isDigit c = true) (hc : c ≠ '0')
    (hrest : ∀ d ∈ cs, isDigit d = true) {sign : Char} (hsign : sign = '-' ∨ sign = '+') (n : Nat) :
    IsNumber ((if cs = [] then [c] else c :: '.' :: cs) ++ 'e' :: sign :: decimalDigits n) := by
  have hwhole : IsWhole [c] := .positive hdigit hc (List.forall_mem_nil _)
  have hmark : [sign] = [] ∨ [sign] = ['+'] ∨ [sign] = ['-'] := by
    rcases hsign with rfl | rfl <;> simp
  have hexponent := IsExponent.present (.inl rfl) hmark (isDigits_decimalDigits n)
  split
  · exact .parts hwhole .absent hexponent
  · rename_i hne
    exact .parts hwhole (.present ⟨hne, hrest⟩) hexponent

/-- A zero before the point. -/
theorem below_isNumber {ds : List Char} (h : IsDigits ds) (n : Nat) :
    IsNumber ('0' :: '.' :: (List.replicate n '0' ++ ds)) := by
  have hfraction : IsFraction ('.' :: (List.replicate n '0' ++ ds)) :=
    .present ⟨by simp [h.1], List.forall_mem_append.mpr ⟨forall_mem_zeros n, h.2⟩⟩
  simpa using IsNumber.parts .zero hfraction .absent

/-- The point after some of the digits, with a digit behind it. -/
theorem above_isNumber (hdigit : isDigit c = true) (hc : c ≠ '0')
    (hrest : ∀ d ∈ cs, isDigit d = true) {n : Nat} (hn : n < cs.length) :
    IsNumber ((c::cs).take (n+1) ++ '.' :: (c::cs).drop (n+1)) := by
  have hwhole : IsWhole (c :: cs.take n) :=
    .positive hdigit hc fun z hz => hrest z (List.mem_of_mem_take hz)
  have hfraction : IsFraction ('.' :: cs.drop n) :=
    .present ⟨by simpa using hn, fun z hz => hrest z (List.mem_of_mem_drop hz)⟩
  simpa using IsNumber.parts hwhole hfraction .absent

end

/-- Whatever notation is taken, the first digit is the first of the number's or a
zero before the point. -/
theorem Decimal.text_isNumber (p : Positional) {d : Decimal} (h : d.digits ≠ 0) :
    IsNumber (d.text p).toList := by
  have hdigits := isDigits_decimalDigits d.digits
  have hhead := head_decimalDigits h
  rw [Decimal.text, String.toList_ofList]
  generalize decimalDigits d.digits = ds at *
  obtain ⟨c, cs, rfl⟩ := List.exists_cons_of_ne_nil hdigits.1
  obtain ⟨hdigit, hrest⟩ := List.forall_mem_cons.mp hdigits.2
  have hc : c ≠ '0' := by simpa using hhead
  generalize d.exponent + ((c::cs).length : Int) - 1 = place
  dsimp only
  split
  · have hsign : (if place < 0 then '-' else '+') = '-' ∨
        (if place < 0 then '-' else '+') = '+' := by
      split <;> simp
    have hnumber := scientific_isNumber hdigit hc hrest hsign place.natAbs
    cases cs <;> exact hnumber
  · split
    · exact below_isNumber hdigits _
    · obtain ⟨n, hn⟩ : ∃ n, (place+1).toNat = n+1 := ⟨place.toNat, by omega⟩
      -- The zeros behind the digits leave one for behind the point.
      have hlen : n < (cs ++ List.replicate (n+1+1-(c::cs).length) '0').length := by
        simp
        omega
      rw [hn, List.cons_append]
      exact above_isNumber hdigit hc (List.forall_mem_append.mpr ⟨hrest, forall_mem_zeros _⟩) hlen

theorem text_isJson (x : Float32) : IsJson (text x).toList := by
  have hmagnitude : IsNumber (if x.toBits.toNat % 0x80000000 == 0 then "0.0"
      else (shortest x.toBits).text single).toList := by
    split
    · have hfraction : IsFraction ['.', '0'] := .present ⟨by simp, by simp [isDigit]⟩
      exact .parts .zero hfraction .absent
    · rename_i h
      exact Decimal.text_isNumber single (shortest_digits (by simpa using h))
  simp only [text, String.toList_append]
  split
  · exact .negative hmagnitude
  · exact .number hmagnitude

end Number
end LightBridge
