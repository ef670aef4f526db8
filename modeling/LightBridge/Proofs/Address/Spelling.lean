import LightBridge.Address
import LightBridge.Proofs.Text.Digits
import Mathlib.Data.List.TakeWhile

/-!
# Addresses read back

The text of an address reads as that address. Of a long address the groups
before and after the double colon are read in two goes, and the zeros in
between are those that the longest run stands for.
-/

set_option autoImplicit false

namespace LightBridge.Address

open Text

/-! ## Numbers -/

def isDigitOf (base : Nat) (c : Char) : Bool := (digitValue? base c).isSome

def valueOf (base : Nat) (c : Char) : Nat := (digitValue? base c).getD 0

theorem digitsAhead_eq (base most : Nat) (cs : List Char) :
    digitsAhead base most cs =
      let ds := cs.takeWhile (isDigitOf base)
      if ds.isEmpty || most < ds.length then none
      else some (ds.foldl (fun n c => n*base + valueOf base c) 0,
        cs.dropWhile (isDigitOf base)) := rfl

theorem digitValue_digit {base d : Nat} (hb : base ≤ 16) (hd : d < base) :
    digitValue? base (digit d) = some d := by
  have hall : ∀ base ≤ 16, ∀ d < base, digitValue? base (digit d) = some d := by decide +kernel
  exact hall base hb d hd

theorem digitsAhead_digits {base most n : Nat} {rest : List Char} (hb : 2 ≤ base)
    (hbase : base ≤ 16) (hlen : (digits base n).length ≤ most)
    (hr : StopsAt (isDigitOf base) rest) :
    digitsAhead base most (digits base n ++ rest) = some (n, rest) := by
  have hdigits : ∀ c ∈ digits base n, isDigitOf base c = true :=
    forall_mem_digits hb (fun d hd => by simp [isDigitOf, digitValue_digit hbase hd]) n
  have hvalue : ∀ d < base, valueOf base (digit d) = d :=
    fun d hd => by simp [valueOf, digitValue_digit hbase hd]
  simp only [digitsAhead_eq, takeWhile_run hdigits hr, dropWhile_run hdigits hr,
    foldl_digits hb hvalue]
  simp [digits_ne_nil, hlen]

theorem octet_decimal (x : UInt8) {rest : List Char} (hr : StopsAt (isDigitOf 10) rest) :
    octet (decimalDigits x.toNat ++ rest) = some (x, rest) := by
  have hx := x.toNat_lt
  have hlen : (digits 10 x.toNat).length ≤ 3 := length_digits 2 (by omega)
  have hpadded : ((digits 10 x.toNat ++ rest).head? == some '0' &&
      decide (1 < (digits 10 x.toNat ++ rest).length-rest.length)) = false := by
    rcases Nat.eq_zero_or_pos x.toNat with h | h
    · simp [h, digits_zero]
    · have hhead : (digits 10 x.toNat).head? ≠ some '0' := head_digits (by decide) (by decide) h.ne'
      obtain ⟨c, cs, hcs⟩ := List.exists_cons_of_ne_nil (digits_ne_nil 10 x.toNat)
      rw [hcs] at hhead ⊢
      simp_all
  rw [decimalDigits_eq, octet, digitsAhead_digits (by decide) (by decide) hlen hr]
  simp only [hpadded]
  simp; omega

theorem mark_cons (c : Char) (cs : List Char) : mark c (c::cs) = some cs := by simp [mark]

theorem octets_dotted (a b c d : UInt8) {rest : List Char} (hr : StopsAt (isDigitOf 10) rest) :
    octets ((dotted a b c d).toList ++ rest) = some ((a, b, c, d), rest) := by
  have hdot : ∀ cs : List Char, StopsAt (isDigitOf 10) ('.'::cs) := by
    rintro cs c ⟨⟩
    decide
  have htext : (dotted a b c d).toList ++ rest =
      decimalDigits a.toNat ++ '.' :: (decimalDigits b.toNat ++
        '.' :: (decimalDigits c.toNat ++ '.' :: (decimalDigits d.toNat ++ rest))) := by
    rw [dotted, String.toList_intercalate]
    simp [natural]
  rw [htext, octets]
  simp [octet_decimal _ (hdot _), octet_decimal _ hr, mark_cons]

/-! ## Groups -/

def groupChars (g : UInt16) : List Char := hexDigits g.toNat

theorem grouped_toList (gs : List UInt16) :
    (grouped gs).toList = [':'].intercalate (gs.map groupChars) := by
  rw [grouped, String.toList_intercalate, List.map_map]
  congr 1
  exact List.map_congr_left fun g _ => by simp [group, groupChars]

theorem octets_undotted {cs : List Char} (h : '.' ∉ cs) : octets cs = none := by
  have hmark : ∀ {x : UInt8} {rest : List Char}, octet cs = some (x, rest) →
      mark '.' rest = none := by
    intro x rest hx
    have hrest : '.' ∉ rest := by
      simp only [octet, digitsAhead_eq] at hx
      grind [List.dropWhile_subset]
    cases rest with
    | nil => rfl
    | cons c rest => simp_all [mark, eq_comm]
  unfold octets
  cases hx : octet cs with
  | none => rfl
  | some p => simp [hmark hx]

/-- Groups with a colon before each. -/
def groupsBehind (gs : List UInt16) : List Char := gs.flatMap fun g => ':' :: groupChars g

theorem grouped_cons (g : UInt16) (gs : List UInt16) :
    (grouped (g::gs)).toList = groupChars g ++ groupsBehind gs := by
  rw [grouped_toList, List.map_cons, intercalate_cons, List.flatMap_map]
  rfl

theorem undotted_groupChars (g : UInt16) : '.' ∉ groupChars g := by
  have hdigit : ∀ d < 16, digit d ≠ '.' := by decide
  have hall : ∀ c ∈ digits 16 g.toNat, c ≠ '.' := forall_mem_digits (by decide) hdigit _
  rw [groupChars, hexDigits_eq]
  exact fun h => hall _ h rfl

theorem undotted_groupsBehind (gs : List UInt16) : '.' ∉ groupsBehind gs := by
  simp [groupsBehind, undotted_groupChars]

theorem digitsAhead_group (g : UInt16) {rest : List Char} (hr : StopsAt (isDigitOf 16) rest) :
    digitsAhead 16 4 (groupChars g ++ rest) = some (g.toNat, rest) := by
  have hlen : (digits 16 g.toNat).length ≤ 4 := length_digits 3 g.toNat_lt
  rw [groupChars, hexDigits_eq]
  exact digitsAhead_digits (by decide) (by decide) hlen hr

/-- What stands behind the groups that are read in one go. -/
def Closes (rest : List Char) : Prop := rest = [] ∨ ∃ more, rest = ':' :: ':' :: more

theorem groupsAhead_closes {rest : List Char} (h : Closes rest) (n : Nat) (first : Bool) :
    groupsAhead n first rest = ([], false, rest) := by
  cases n with
  | zero => rfl
  | succ n =>
    rcases h with rfl | ⟨more, rfl⟩
    · cases first <;> cases n <;> rfl
    · cases first <;> cases n <;> simp [groupsAhead, mark] <;> rfl

theorem stopsAt_closes {rest : List Char} (h : Closes rest) : StopsAt (isDigitOf 16) rest := by
  rcases h with rfl | ⟨more, rfl⟩ <;> rintro c ⟨⟩
  decide

theorem stopsAt_groupsBehind {rest : List Char} (h : Closes rest) (gs : List UInt16) :
    StopsAt (isDigitOf 16) (groupsBehind gs ++ rest) := by
  cases gs with
  | nil => exact stopsAt_closes h
  | cons g gs =>
    rintro c ⟨⟩
    decide

/-- A group is read unless it is the start of a dotted pair. -/
theorem groupsAhead_group (n : Nat) (first : Bool) (g : UInt16) {rest : List Char}
    (ho : octets (groupChars g ++ rest) = none) (hr : StopsAt (isDigitOf 16) rest) :
    groupsAhead (n+1) first ((if first then [] else [':']) ++ groupChars g ++ rest) =
      let (gs, isDotted, rest) := groupsAhead n false rest
      (g::gs, isDotted, rest) := by
  cases first <;> simp [groupsAhead, mark, ho, digitsAhead_group g hr]

theorem groupsAhead_behind (gs : List UInt16) {n : Nat} {rest : List Char}
    (hn : gs.length ≤ n) (h : Closes rest) (hdot : '.' ∉ rest) :
    groupsAhead n false (groupsBehind gs ++ rest) = (gs, false, rest) := by
  induction gs generalizing n with
  | nil => exact groupsAhead_closes h n false
  | cons g gs ih =>
    obtain ⟨n, rfl⟩ := Nat.exists_eq_add_one.mpr (Nat.lt_of_lt_of_le (Nat.succ_pos _) hn)
    have ho : octets (groupChars g ++ (groupsBehind gs ++ rest)) = none :=
      octets_undotted (by simp [undotted_groupChars, undotted_groupsBehind, hdot])
    have hg := groupsAhead_group n false g ho (stopsAt_groupsBehind h gs)
    rw [ih (by simpa using hn)] at hg
    simpa [groupsBehind] using hg

/-- The groups ahead are all read, up to the end or a double colon. -/
theorem groupsAhead_grouped (gs : List UInt16) {n : Nat} {rest : List Char}
    (hn : gs.length ≤ n) (h : Closes rest) (hdot : '.' ∉ rest) :
    groupsAhead n true ((grouped gs).toList ++ rest) = (gs, false, rest) := by
  cases gs with
  | nil => exact groupsAhead_closes h n true
  | cons g gs =>
    obtain ⟨n, rfl⟩ := Nat.exists_eq_add_one.mpr (Nat.lt_of_lt_of_le (Nat.succ_pos _) hn)
    have ho : octets (groupChars g ++ (groupsBehind gs ++ rest)) = none :=
      octets_undotted (by simp [undotted_groupChars, undotted_groupsBehind, hdot])
    have hg := groupsAhead_group n true g ho (stopsAt_groupsBehind h gs)
    rw [groupsAhead_behind gs (by simpa using hn) h hdot] at hg
    simpa [grouped_cons] using hg

theorem undotted_grouped (gs : List UInt16) : '.' ∉ (grouped gs).toList := by
  cases gs with
  | nil => simp [grouped]
  | cons g gs => simp [grouped_cons, undotted_groupChars, undotted_groupsBehind]

/-! ## Zeros -/

/-- What stands for the longest run is a run of zeros. -/
theorem zeroRun_spec (start : Nat) (gs : List UInt16) :
    ∃ front back, gs = front ++ List.replicate (zeroRun start gs).2 0 ++ back ∧
      (zeroRun start gs).1 = start+front.length := by
  induction gs generalizing start with
  | nil => exact ⟨[], [], rfl, rfl⟩
  | cons g gs ih =>
    rw [zeroRun]
    split
    · refine ⟨[], (g::gs).dropWhile (· == 0), ?_, rfl⟩
      have hzeros : (g::gs).takeWhile (· == 0) =
          List.replicate ((g::gs).takeWhile (· == 0)).length 0 :=
        List.eq_replicate_iff.mpr ⟨rfl, fun b hb => by simpa using List.mem_takeWhile_imp hb⟩
      rw [List.nil_append, ← hzeros, List.takeWhile_append_dropWhile]
    · obtain ⟨front, back, hgs, hstart⟩ := ih (start+1)
      refine ⟨g::front, back, ?_, ?_⟩
      · rw [List.cons_append, List.cons_append, ← hgs]
      · simp [hstart]; omega

/-! ## Long addresses -/

theorem ofGroups_toList (gs : Vector UInt16 8) : ofGroups gs.toList = some (.v6 gs) := by
  simp [ofGroups, Vector.toList]

theorem groupsAround_full (gs : Vector UInt16 8) :
    groupsAround (grouped gs.toList).toList = some (.v6 gs, []) := by
  have h : groupsAhead 8 true ((grouped gs.toList).toList ++ []) = (gs.toList, false, []) :=
    groupsAhead_grouped gs.toList (by simp) (.inl rfl) (by simp)
  rw [List.append_nil] at h
  simp [groupsAround, h, ofGroups_toList]

/-- The double colon stands for the groups that are missing. -/
theorem groupsAround_zeros (gs : Vector UInt16 8) {front back : List UInt16} {zeros : Nat}
    (hz : 1 < zeros) (hgs : gs.toList = front ++ List.replicate zeros 0 ++ back) :
    groupsAround ((grouped front).toList ++ ':' :: ':' :: (grouped back).toList) =
      some (.v6 gs, []) := by
  have hlen : front.length + zeros + back.length = 8 := by
    have h := congrArg List.length hgs
    simp only [Vector.length_toList, List.length_append, List.length_replicate] at h
    exact h.symm
  have hfront : groupsAhead 8 true ((grouped front).toList ++ ':' :: ':' :: (grouped back).toList) =
      (front, false, ':' :: ':' :: (grouped back).toList) :=
    groupsAhead_grouped front (by omega) (.inr ⟨_, rfl⟩) (by simp [undotted_grouped])
  have hback : groupsAhead (7-front.length) true ((grouped back).toList ++ []) =
      (back, false, []) :=
    groupsAhead_grouped back (by omega) (.inl rfl) (by simp)
  rw [List.append_nil] at hback
  have hzeros : 8-front.length-back.length = zeros := by omega
  have hne : front.length ≠ 8 := by omega
  have hall : front ++ (List.replicate zeros 0 ++ back) = gs.toList := by
    rw [← List.append_assoc, hgs]
  simp [groupsAround, hfront, hne, mark_cons, hback, hzeros, hall, ofGroups_toList]

theorem pairGroup_halves (x : UInt16) : pairGroup (x.toNat/256).toUInt8 x.toUInt8 = x := by
  have hx := x.toNat_lt
  rw [← UInt16.toNat_inj]
  simp [pairGroup]
  omega

/-- The text of two groups in dotted form. -/
def dottedPair (x y : UInt16) : String :=
  dotted (x.toNat/256).toUInt8 x.toUInt8 (y.toNat/256).toUInt8 y.toUInt8

theorem octets_dottedPair (x y : UInt16) :
    octets (dottedPair x y).toList =
      some (((x.toNat/256).toUInt8, x.toUInt8, (y.toNat/256).toUInt8, y.toUInt8), []) := by
  rw [← List.append_nil (dottedPair x y).toList]
  exact octets_dotted _ _ _ _ stopsAt_nil

/-- What an address that embeds a short one starts with. -/
def mappedHead : List Char := [':', ':', 'f', 'f', 'f', 'f', ':']

theorem groupsAround_mapped (gs : Vector UInt16 8) {x y : UInt16}
    (hgs : gs.toList = [0, 0, 0, 0, 0, 0xFFFF, x, y]) :
    groupsAround (mappedHead ++ (dottedPair x y).toList) = some (.v6 gs, []) := by
  let pair := ':' :: (dottedPair x y).toList
  have hmask : groupChars 0xFFFF = ['f', 'f', 'f', 'f'] := by decide +kernel
  have ho : octets (groupChars 0xFFFF ++ pair) = none := by
    rw [hmask]
    rfl
  have hcolon : StopsAt (isDigitOf 16) pair := by
    rintro c ⟨⟩
    decide
  have hpair : groupsAhead 6 false pair = ([x, y], true, []) := by
    simp [pair, groupsAhead, mark_cons, octets_dottedPair, pairGroup_halves]
  have hback := groupsAhead_group 6 true 0xFFFF ho hcolon
  rw [hpair, hmask] at hback
  have hfront : groupsAhead 8 true (mappedHead ++ (dottedPair x y).toList) =
      ([], false, mappedHead ++ (dottedPair x y).toList) :=
    groupsAhead_closes (.inr ⟨_, rfl⟩) 8 true
  simp only [if_true, List.nil_append, List.cons_append, pair] at hback
  simp only [mappedHead, List.cons_append, List.nil_append] at hfront ⊢
  simp [groupsAround, hfront, mark_cons, hback, ← hgs, ofGroups_toList]

/-! ## Addresses -/

theorem ahead_long {gs : Vector UInt16 8} {cs : List Char} (ho : octets cs = none)
    (h : groupsAround cs = some (.v6 gs, [])) : ahead cs = some (.v6 gs, []) := by
  rw [ahead, ho, h]

theorem ahead_text (a : Address) : ahead a.text.toList = some (a, []) := by
  cases a with
  | v4 a b c d =>
    have h := octets_dotted a b c d stopsAt_nil
    rw [List.append_nil] at h
    rw [ahead, text, h]
  | v6 gs =>
    rw [text]
    split
    · rename_i x y hgs
      rw [← dottedPair, String.toList_append]
      exact ahead_long rfl (groupsAround_mapped gs hgs)
    · obtain ⟨front, back, hgs, hstart⟩ := zeroRun_spec 0 gs.toList
      generalize zeroRun 0 gs.toList = run at *
      obtain ⟨start, zeros⟩ := run
      obtain rfl : start = front.length := by simpa using hstart
      dsimp only at hgs ⊢
      split
      · rename_i hz
        have hfront : gs.toList.take front.length = front := by simp [hgs]
        have hback : gs.toList.drop (front.length+zeros) = back := by simp [hgs, ← List.drop_drop]
        have htext : (grouped front ++ "::" ++ grouped back).toList =
            (grouped front).toList ++ ':' :: ':' :: (grouped back).toList := by
          simp
        rw [hfront, hback, htext]
        exact ahead_long (octets_undotted (by simp [undotted_grouped]))
          (groupsAround_zeros gs hz hgs)
      · exact ahead_long (octets_undotted (undotted_grouped _)) (groupsAround_full gs)

/-- The text of an address reads as that address, and nothing is left over. -/
theorem parse?_text (a : Address) : parse? a.text = some a := by
  rw [parse?, ahead_text]

end LightBridge.Address
