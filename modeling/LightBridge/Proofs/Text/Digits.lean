import LightBridge.Text.Digits
import Mathlib.Algebra.Order.Group.Nat
import Mathlib.Algebra.Order.Ring.Nat

/-!
# Digits

Decimal and hexadecimal digits are those of one positional system. Read one
after another they give the number back; there are as many as its size takes,
and the first of them is a zero only if the number is.
-/

set_option autoImplicit false

namespace LightBridge

/-! ## Runs of characters -/

section
variable {p : Char → Bool} {cs rest : List Char}

/-- A scanner that asks for the characters with a property stops at the rest. -/
def StopsAt (p : Char → Bool) (rest : List Char) : Prop := ∀ c ∈ rest.head?, p c = false

theorem stopsAt_nil : StopsAt p [] := by
  rintro c ⟨⟩

theorem takeWhile_run (h : ∀ c ∈ cs, p c = true) (hr : StopsAt p rest) :
    (cs ++ rest).takeWhile p = cs := by
  rw [List.takeWhile_append_of_pos h]
  cases rest with
  | nil => simp
  | cons c rest => simp [hr c rfl]

theorem dropWhile_run (h : ∀ c ∈ cs, p c = true) (hr : StopsAt p rest) :
    (cs ++ rest).dropWhile p = rest := by
  rw [List.dropWhile_append_of_pos h]
  cases rest with
  | nil => rfl
  | cons c rest => simp [hr c rfl]

end

theorem intercalate_cons (c : Char) (part : List Char) (parts : List (List Char)) :
    [c].intercalate (part::parts) = part ++ parts.flatMap (c :: ·) := by
  induction parts generalizing part with
  | nil => simp
  | cons next parts ih => simp [ih]

namespace Text

/-- The digits of a number in any base from two on. -/
def digits (base n : Nat) : List Char :=
  if n < base ∨ base < 2 then [digit n] else digits base (n/base) ++ [digit (n%base)]
  termination_by n
  decreasing_by exact Nat.div_lt_self (by omega) (by omega)

theorem decimalDigits_eq (n : Nat) : decimalDigits n = digits 10 n := by
  fun_induction decimalDigits n with
  | case1 n h => rw [digits, if_pos (.inl h)]
  | case2 n h ih => rw [digits, if_neg (by omega), ih]

theorem hexDigits_eq (n : Nat) : hexDigits n = digits 16 n := by
  fun_induction hexDigits n with
  | case1 n h => rw [digits, if_pos (.inl h)]
  | case2 n h ih => rw [digits, if_neg (by omega), ih]

variable {base : Nat}

theorem digits_ne_nil (base n : Nat) : digits base n ≠ [] := by
  unfold digits
  split <;> simp

theorem forall_mem_digits (hb : 2 ≤ base) {P : Char → Prop} (h : ∀ d < base, P (digit d))
    (n : Nat) : ∀ c ∈ digits base n, P c := by
  fun_induction digits base n with
  | case1 n hn => simpa using h n (by omega)
  | case2 n hn ih =>
    rw [List.forall_mem_append, List.forall_mem_singleton]
    exact ⟨ih, h _ (Nat.mod_lt n (by omega))⟩

theorem foldl_digits (hb : 2 ≤ base) {value : Char → Nat}
    (h : ∀ d < base, value (digit d) = d) (n : Nat) :
    (digits base n).foldl (fun n c => n*base + value c) 0 = n := by
  fun_induction digits base n with
  | case1 n hn => simp [h n (by omega)]
  | case2 n hn ih =>
    rw [List.foldl_append, ih, List.foldl_cons, List.foldl_nil, h _ (Nat.mod_lt n (by omega))]
    exact Nat.div_add_mod' n base

theorem length_digits {n : Nat} (k : Nat) (h : n < base^(k+1)) :
    (digits base n).length ≤ k+1 := by
  induction k generalizing n with
  | zero =>
    rw [digits, if_pos (.inl (by simpa using h))]
    simp
  | succ k ih =>
    rw [digits]
    split
    · simp
    · have hquot : n/base < base^(k+1) := Nat.div_lt_of_lt_mul (by rwa [← Nat.pow_succ'])
      simpa using ih hquot

theorem head_digits (hb : 2 ≤ base) (hbase : base ≤ 16) {n : Nat} (hn : n ≠ 0) :
    (digits base n).head? ≠ some '0' := by
  fun_induction digits base n with
  | case1 n h =>
    have hdigit : ∀ d < 16, d ≠ 0 → digit d ≠ '0' := by decide
    simpa using hdigit n (by omega) hn
  | case2 n h ih =>
    rw [List.head?_append, Option.or_of_isSome (by simp [digits_ne_nil])]
    exact ih (Nat.div_ne_zero_iff.mpr ⟨by omega, by omega⟩)

theorem digits_zero (hb : 2 ≤ base) : digits base 0 = ['0'] := by
  rw [digits, if_pos (.inl (by omega))]
  rfl

end Text
end LightBridge
