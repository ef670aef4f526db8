import LightBridge.Json.Reader
import LightBridge.Proofs.Text.Digits
import Mathlib.Data.List.DropRight

/-!
# The texts of values

Which characters are the text of a value, with blanks wherever they may stand.
A value that does not matter is skipped whatever its text; what is left is the
rest behind it, up to the blanks there.
-/

set_option autoImplicit false

namespace LightBridge.Json

/-! ## Blanks -/

def Blank (cs : List Char) : Prop := ∀ c ∈ cs, isBlank c = true

theorem skipBlank_append {bs : List Char} (h : Blank bs) (cs : List Char) :
    skipBlank (bs ++ cs) = skipBlank cs := List.dropWhile_append_of_pos h

theorem skipBlank_cons {c : Char} (h : isBlank c = false) (cs : List Char) :
    skipBlank (c::cs) = c::cs := List.dropWhile_cons_of_neg (by simp [h])

theorem skipBlank_skipBlank (cs : List Char) : skipBlank (skipBlank cs) = skipBlank cs :=
  List.dropWhile_idempotent _ _

/-! ## Numbers -/

def IsDigits (ds : List Char) : Prop := ds ≠ [] ∧ ∀ d ∈ ds, isDigit d = true

/-- A number has no zeros ahead. -/
inductive IsWhole : List Char → Prop
  | zero : IsWhole ['0']
  | positive {d : Char} {ds : List Char} (hd : isDigit d = true) (h0 : d ≠ '0')
      (hds : ∀ d ∈ ds, isDigit d = true) : IsWhole (d::ds)

inductive IsFraction : List Char → Prop
  | absent : IsFraction []
  | present {ds : List Char} (h : IsDigits ds) : IsFraction ('.'::ds)

inductive IsExponent : List Char → Prop
  | absent : IsExponent []
  | present {mark : Char} {sign ds : List Char} (hm : mark = 'e' ∨ mark = 'E')
      (hs : sign = [] ∨ sign = ['+'] ∨ sign = ['-']) (h : IsDigits ds) :
      IsExponent (mark :: (sign ++ ds))

/-- A number without its sign. -/
inductive IsNumber : List Char → Prop
  | parts {whole fraction exponent : List Char} (hw : IsWhole whole) (hf : IsFraction fraction)
      (he : IsExponent exponent) : IsNumber (whole ++ (fraction ++ exponent))

theorem isDigits_decimalDigits (n : Nat) : IsDigits (Text.decimalDigits n) := by
  have hdigit : ∀ d < 10, isDigit (Text.digit d) = true := by decide
  rw [Text.decimalDigits_eq]
  exact ⟨Text.digits_ne_nil 10 n, Text.forall_mem_digits (by decide) hdigit n⟩

theorem head_decimalDigits {n : Nat} (h : n ≠ 0) : (Text.decimalDigits n).head? ≠ some '0' := by
  rw [Text.decimalDigits_eq]
  exact Text.head_digits (by decide) (by decide) h

theorem isWhole_decimalDigits (n : Nat) : IsWhole (Text.decimalDigits n) := by
  obtain ⟨hne, hall⟩ := isDigits_decimalDigits n
  rcases Nat.eq_zero_or_pos n with rfl | hn
  · rw [Text.decimalDigits_eq, Text.digits_zero (by decide)]
    exact .zero
  · have hhead := head_decimalDigits hn.ne'
    obtain ⟨d, ds, hds⟩ := List.exists_cons_of_ne_nil hne
    rw [hds] at hall hhead ⊢
    rw [List.forall_mem_cons] at hall
    exact .positive hall.1 (by simpa using hhead) hall.2

/-- A number goes on as long as these characters do. -/
def isNumeral (c : Char) : Bool := isDigit c || c == '.' || c == 'e' || c == 'E'

section
variable {rest : List Char}

theorem stopsAt_digit (h : StopsAt isNumeral rest) : StopsAt isDigit rest := by
  intro c hc
  have hn := h c hc
  simp only [isNumeral, Bool.or_eq_false_iff] at hn
  exact hn.1.1.1

theorem skipExponent_absent (h : StopsAt isNumeral rest) : skipExponent rest = .ok rest := by
  unfold skipExponent
  split
  · exact absurd (h 'e' rfl) (by decide)
  · exact absurd (h 'E' rfl) (by decide)
  · rfl

theorem IsDigits.exists_cons {ds : List Char} (h : IsDigits ds) :
    ∃ d more, ds = d::more ∧ d ≠ '+' ∧ d ≠ '-' := by
  obtain ⟨d, more, rfl⟩ := List.exists_cons_of_ne_nil h.1
  refine ⟨d, more, rfl, ?_, ?_⟩ <;>
  · rintro rfl
    exact absurd (h.2 _ List.mem_cons_self) (by decide)

theorem skipExponent_append {cs : List Char} (h : IsExponent cs) (hr : StopsAt isNumeral rest) :
    skipExponent (cs ++ rest) = .ok rest := by
  cases h with
  | absent => exact skipExponent_absent hr
  | @present mark sign ds hm hs hds =>
    have htake := takeWhile_run hds.2 (stopsAt_digit hr)
    have hdrop := dropWhile_run hds.2 (stopsAt_digit hr)
    obtain ⟨d, more, hcons, hplus, hminus⟩ := hds.exists_cons
    have hne := hds.1
    rw [hcons, List.cons_append] at htake hdrop
    rcases hm with rfl | rfl <;> rcases hs with rfl | rfl | rfl <;>
      simp [skipExponent, hcons, hplus, hminus, htake, hdrop]

theorem stopsAt_exponent {cs : List Char} (h : IsExponent cs) (hr : StopsAt isNumeral rest) :
    StopsAt isDigit (cs ++ rest) := by
  cases h with
  | absent => exact stopsAt_digit hr
  | present hm =>
    rintro c ⟨⟩
    rcases hm with rfl | rfl <;> decide

/-- What stands behind the digits of a number has no point if there is no fraction. -/
theorem exponent_ne_point {cs more : List Char} (h : IsExponent cs)
    (hr : StopsAt isNumeral rest) : cs ++ rest ≠ '.'::more := by
  intro heq
  cases h with
  | absent =>
    rw [List.nil_append] at heq
    subst heq
    exact absurd (hr '.' rfl) (by decide)
  | present hm => rcases hm with rfl | rfl <;> cases heq

theorem IsWhole.exists_cons {cs : List Char} (h : IsWhole cs) (hr : StopsAt isDigit rest) :
    ∃ d ds, cs = d::ds ∧ isDigit d = true ∧ (∀ c ∈ ds, isDigit c = true) ∧
      (d == '0' && (ds ++ rest).takeWhile isDigit != []) = false := by
  cases h with
  | zero =>
    have hzero : ([] ++ rest).takeWhile isDigit = [] := takeWhile_run (by simp) hr
    rw [List.nil_append] at hzero
    exact ⟨'0', [], rfl, by decide, by simp, by simp [hzero]⟩
  | @positive d ds hd h0 hds => exact ⟨d, ds, rfl, hd, hds, by simp [h0]⟩

theorem skipNumber_append {cs : List Char} (h : IsNumber cs) (hr : StopsAt isNumeral rest) :
    skipNumber (cs ++ rest) = .ok rest := by
  obtain ⟨hw, hf, he⟩ := h
  rename_i whole fraction exponent
  have hstop : StopsAt isDigit (fraction ++ (exponent ++ rest)) := by
    cases hf with
    | absent =>
      rw [List.nil_append]
      exact stopsAt_exponent he hr
    | present =>
      rintro c ⟨⟩
      decide
  obtain ⟨d, ds, rfl, hd, hds, hzero⟩ := hw.exists_cons hstop
  have hall : ∀ c ∈ d::ds, isDigit c = true := List.forall_mem_cons.mpr ⟨hd, hds⟩
  have hdrop := dropWhile_run hall hstop
  simp only [List.append_assoc, List.cons_append] at hdrop ⊢
  simp only [skipNumber, hd, hzero, hdrop, Bool.not_true, Bool.false_eq_true, if_false]
  cases hf with
  | absent =>
    simp only [List.nil_append]
    split
    · rename_i heq
      exact absurd heq (exponent_ne_point he hr)
    · exact skipExponent_append he hr
  | @present fs hfs =>
    have hstop' := stopsAt_exponent he hr
    simp [takeWhile_run hfs.2 hstop', dropWhile_run hfs.2 hstop', hfs.1,
      skipExponent_append he hr]

end

/-! ## Text -/

/-- What stands between the quotes of a text. Halves of characters may stand
alone. -/
inductive IsBody : List Char → Prop
  | nil : IsBody []
  | plain {c : Char} {cs : List Char} (hc : 0x20 ≤ c.toNat) (hquote : c ≠ '"')
      (hslash : c ≠ '\\') (h : IsBody cs) : IsBody (c::cs)
  | simple {e : Char} {cs : List Char} (he : (simpleEscape? e).isSome) (h : IsBody cs) :
      IsBody ('\\'::e::cs)
  | unicode {w x y z : Char} {cs : List Char}
      (hunit : ∀ c ∈ [w, x, y, z], (hexValue? c).isSome) (h : IsBody cs) :
      IsBody ('\\' :: 'u' :: w::x::y::z::cs)

theorem skipText_body {cs : List Char} (h : IsBody cs) (rest : List Char) :
    skipText (cs ++ '"'::rest) = .ok rest := by
  induction h with
  | nil => simp [skipText]
  | plain hc hquote hslash h ih =>
    rw [List.cons_append, skipText]
    · simpa [Nat.not_lt.mpr hc] using ih
    all_goals simp [hquote, hslash]
  | simple he h ih =>
    rw [List.cons_append, List.cons_append, skipText]
    · rw [Option.isSome_iff_exists] at he
      obtain ⟨c, hc⟩ := he
      simpa [hc] using ih
    · rintro rfl
      exact absurd he (by decide)
  | @unicode w x y z cs hunit h ih =>
    have hunit' : ∃ n, hexUnit (w::x::y::z::(cs ++ '"'::rest)) = .ok (n, cs ++ '"'::rest) := by
      simp only [List.forall_mem_cons, Option.isSome_iff_exists] at hunit
      obtain ⟨⟨a, ha⟩, ⟨b, hb⟩, ⟨c, hc⟩, ⟨d, hd⟩, _⟩ := hunit
      exact ⟨((a*16+b)*16+c)*16+d, by simp [hexUnit, ha, hb, hc, hd]⟩
    obtain ⟨n, hn⟩ := hunit'
    simp only [List.cons_append]
    rw [skipText]
    split <;> simp_all

/-! ## Values -/

/-- The text of a key, with the blanks around it. -/
inductive IsKey : List Char → Prop
  | padded {before body after : List Char} (hb : Blank before) (h : IsBody body)
      (ha : Blank after) : IsKey (before ++ '"' :: (body ++ '"' :: after))

def member (m : List Char × List Char) : List Char := m.1 ++ ':' :: m.2

/-- The text of a value, with the blanks around it. -/
inductive IsJson : List Char → Prop
  | null : IsJson ['n', 'u', 'l', 'l']
  | true : IsJson ['t', 'r', 'u', 'e']
  | false : IsJson ['f', 'a', 'l', 's', 'e']
  | number {cs : List Char} (h : IsNumber cs) : IsJson cs
  | negative {cs : List Char} (h : IsNumber cs) : IsJson ('-'::cs)
  | text {body : List Char} (h : IsBody body) : IsJson ('"' :: (body ++ ['"']))
  | list {blanks : List Char} {vs : List (List Char)} (hb : Blank blanks)
      (h : ∀ v ∈ vs, IsJson v) : IsJson ('[' :: (blanks ++ ([','].intercalate vs ++ [']'])))
  | record {blanks : List Char} {ms : List (List Char × List Char)} (hb : Blank blanks)
      (hkeys : ∀ m ∈ ms, IsKey m.1) (h : ∀ m ∈ ms, IsJson m.2) :
      IsJson ('\x7b' :: (blanks ++ ([','].intercalate (ms.map member) ++ ['\x7d'])))
  | padded {before cs after : List Char} (hb : Blank before) (h : IsJson cs)
      (ha : Blank after) : IsJson (before ++ (cs ++ after))

theorem IsNumber.exists_cons {cs : List Char} (h : IsNumber cs) :
    ∃ d more, cs = d::more ∧ isDigit d = true := by
  obtain ⟨hw, _, _⟩ := h
  cases hw with
  | zero => exact ⟨_, _, rfl, by decide⟩
  | positive hd => exact ⟨_, _, rfl, hd⟩

theorem isNumeral_blank {c : Char} (h : isBlank c = true) : isNumeral c = false := by
  simp only [isBlank, Bool.or_eq_true, beq_iff_eq] at h
  rcases h with ((rfl | rfl) | rfl) | rfl <;> decide

theorem isBlank_digit {d : Char} (h : isDigit d = true) : isBlank d = false := by
  cases hb : isBlank d with
  | false => rfl
  | true =>
    have hn := isNumeral_blank hb
    simp [isNumeral, h] at hn

theorem stopsAt_blanks {bs rest : List Char} (h : Blank bs) (hr : StopsAt isNumeral rest) :
    StopsAt isNumeral (bs ++ rest) := by
  cases bs with
  | nil => exact hr
  | cons b bs =>
    rintro _ ⟨⟩
    exact isNumeral_blank (h b List.mem_cons_self)

theorem IsKey.exists_start {key : List Char} (h : IsKey key) (rest : List Char) :
    ∃ more, skipBlank (key ++ rest) = '"'::more := by
  obtain ⟨hb, _, _⟩ := h
  simp only [List.append_assoc, skipBlank_append hb]
  exact ⟨_, rfl⟩

/-- A value starts with a character that closes nothing. -/
theorem IsJson.exists_start {t : List Char} (h : IsJson t) (rest : List Char) :
    ∃ c more, skipBlank (t ++ rest) = c::more ∧ c ≠ ']' ∧ c ≠ '\x7d' := by
  induction h generalizing rest with
  | null | true | false | negative | text | list | record =>
    exact ⟨_, _, rfl, by decide, by decide⟩
  | number h =>
    obtain ⟨d, more, rfl, hd⟩ := h.exists_cons
    refine ⟨d, more ++ rest, skipBlank_cons (isBlank_digit hd) _, ?_, ?_⟩ <;>
    · rintro rfl
      exact absurd hd (by decide)
  | padded hb h ha ih =>
    simp only [List.append_assoc, skipBlank_append hb]
    exact ih _

/-! ## Skipping values -/

theorem skipValue_blank (n : Nat) (cs : List Char) :
    skipValue n (skipBlank cs) = skipValue n cs := by
  cases n with
  | zero => rfl
  | succ n => rw [skipValue, skipValue, skipBlank_skipBlank]

theorem skipItems_blank (n : Nat) (cs : List Char) :
    skipItems n (skipBlank cs) = skipItems n cs := by
  cases n with
  | zero => rfl
  | succ n => rw [skipItems, skipItems, skipValue_blank]

theorem skipMembers_blank (n : Nat) (cs : List Char) :
    skipMembers n (skipBlank cs) = skipMembers n cs := by
  cases n with
  | zero => rfl
  | succ n => simp only [skipMembers, keyStart, skipBlank_skipBlank]

/-- A value of this text is skipped, with as many steps as it may take. -/
def Skips (t : List Char) : Prop :=
  ∀ n rest, 2*t.length ≤ n → StopsAt isNumeral rest →
    ∃ rest', skipValue n (t ++ rest) = .ok rest' ∧ skipBlank rest' = skipBlank rest

theorem stopsAt_cons {c : Char} (h : isNumeral c = false) (rest : List Char) :
    StopsAt isNumeral (c::rest) := by
  rintro _ ⟨⟩
  exact h

/-! ## Lists and records -/

/-- Reads on behind an item or a member. -/
def behindPart (close : Char) (next : List Char → Except Issue (List Char)) (cs : List Char) :
    Except Issue (List Char) :=
  match skipBlank cs with
  | [] => .error .truncated
  | c::r => if c = close then .ok r else if c = ',' then next r else .error .malformed

theorem skipItems_succ (n : Nat) (cs : List Char) :
    skipItems (n+1) cs =
      match skipValue n cs with
      | .error e => .error e
      | .ok r => behindPart ']' (skipItems n) r := by
  rw [skipItems]
  cases skipValue n cs with
  | error e => rfl
  | ok r =>
    simp only [behindPart]
    grind

/-- A key is skipped with its colon. -/
theorem skipMembers_succ {key : List Char} (h : IsKey key) (n : Nat) (cs : List Char) :
    skipMembers (n+1) (key ++ ':' :: cs) =
      match skipValue n cs with
      | .error e => .error e
      | .ok r => behindPart '\x7d' (skipMembers n) r := by
  obtain ⟨hb, hbody, ha⟩ := h
  rename_i before body after
  have hstart : keyStart (before ++ '"' :: (body ++ '"' :: after) ++ ':' :: cs) =
      .ok (body ++ '"' :: (after ++ ':' :: cs)) := by
    simp [keyStart, skipBlank_append hb, skipBlank_cons (show isBlank '"' = false by decide)]
  have hcolon : readColon (after ++ ':' :: cs) = .ok cs := by
    simp [readColon, skipBlank_append ha, skipBlank_cons (show isBlank ':' = false by decide)]
  simp only [skipMembers, hstart, skipText_body hbody, hcolon]
  cases skipValue n cs with
  | error e => rfl
  | ok r =>
    simp only [behindPart]
    grind

section
variable {close : Char} {loop : Nat → List Char → Except Issue (List Char)}

/-- One turn of the loop takes a part, and the rest is read on from behind it. -/
def Turns (loop : Nat → List Char → Except Issue (List Char)) (close : Char)
    (part : List Char) : Prop :=
  ∀ n rest, 2*part.length ≤ n → StopsAt isNumeral rest →
    ∃ rest', loop (n+1) (part ++ rest) = behindPart close (loop n) rest' ∧
      skipBlank rest' = skipBlank rest

theorem loop_parts (hblank : isBlank close = false) (hnumeral : isNumeral close = false)
    (hcomma : ',' ≠ close) {part : List Char} {parts : List (List Char)}
    (h : ∀ p ∈ part::parts, Turns loop close p) {n : Nat}
    (hn : 2*([','].intercalate (part::parts)).length < n) (rest : List Char) :
    loop n ([','].intercalate (part::parts) ++ close::rest) = .ok rest := by
  obtain ⟨n, rfl⟩ := Nat.exists_eq_add_one.mpr (show 0 < n by omega)
  have hpart := h part List.mem_cons_self
  induction parts generalizing part n with
  | nil =>
    obtain ⟨rest', hloop, hrest⟩ := hpart n (close::rest) (by simpa using Nat.lt_succ_iff.mp hn)
      (stopsAt_cons hnumeral rest)
    rw [skipBlank_cons hblank] at hrest
    simp [hloop, behindPart, hrest]
  | cons next parts ih =>
    rw [List.intercalate_cons_cons] at hn ⊢
    simp only [List.length_append, List.length_singleton] at hn
    obtain ⟨rest', hloop, hrest⟩ := hpart n
      (',' :: ([','].intercalate (next::parts) ++ close::rest)) (by omega)
      (stopsAt_cons (by decide) _)
    rw [skipBlank_cons (by decide)] at hrest
    obtain ⟨n, rfl⟩ := Nat.exists_eq_add_one.mpr (show 0 < n by omega)
    have hmore := ih (fun p hp => h p (List.mem_cons_of_mem part hp)) n (by omega)
      (h next (by simp))
    simp [hloop, behindPart, hrest, hcomma, hmore]

end

theorem Skips.turns {v : List Char} (h : Skips v) : Turns skipItems ']' v := by
  intro n rest hn hr
  obtain ⟨rest', hskip, hrest⟩ := h n rest hn hr
  exact ⟨rest', by rw [skipItems_succ, hskip], hrest⟩

theorem Skips.member_turns {m : List Char × List Char} (hkey : IsKey m.1) (h : Skips m.2) :
    Turns skipMembers '\x7d' (member m) := by
  intro n rest hn hr
  have hle : 2*m.2.length ≤ n := by simp [member] at hn; omega
  obtain ⟨rest', hskip, hrest⟩ := h n rest hle hr
  refine ⟨rest', ?_, hrest⟩
  rw [member, List.append_assoc, List.cons_append, skipMembers_succ hkey, hskip]

theorem skipValue_digit {d : Char} (h : isDigit d = true) (n : Nat) (cs : List Char) :
    skipValue (n+1) (d::cs) = skipNumber (d::cs) := by
  rw [skipValue, skipBlank_cons (isBlank_digit h)]
  split
  case h_9 => simp_all
  all_goals simp_all [isDigit]

theorem skipValue_emptyList {cs rest : List Char} (h : skipBlank cs = ']'::rest) (n : Nat) :
    skipValue (n+1) ('['::cs) = .ok rest := by
  rw [skipValue, skipBlank_cons (by decide)]
  simp only [h]

theorem skipValue_list {c : Char} {cs more : List Char} (h : skipBlank cs = c::more)
    (hc : c ≠ ']') (n : Nat) : skipValue (n+1) ('['::cs) = skipItems n cs := by
  rw [skipValue, skipBlank_cons (by decide), ← skipItems_blank n cs]
  simp only [h]
  split <;> simp_all

theorem skipValue_emptyRecord {cs rest : List Char} (h : skipBlank cs = '\x7d'::rest) (n : Nat) :
    skipValue (n+1) ('\x7b'::cs) = .ok rest := by
  rw [skipValue, skipBlank_cons (by decide)]
  simp only [h]

theorem skipValue_record {c : Char} {cs more : List Char} (h : skipBlank cs = c::more)
    (hc : c ≠ '\x7d') (n : Nat) : skipValue (n+1) ('\x7b'::cs) = skipMembers n cs := by
  rw [skipValue, skipBlank_cons (by decide), ← skipMembers_blank n cs]
  simp only [h]
  split <;> simp_all

/-- The first character says how the rest of a value is skipped. -/
theorem skips_cons {c : Char} {cs : List Char}
    (h : ∀ n rest, 2*cs.length < n → StopsAt isNumeral rest →
      skipValue (n+1) (c :: (cs ++ rest)) = .ok rest) : Skips (c::cs) := by
  intro n rest hn hr
  rw [List.length_cons] at hn
  obtain ⟨n, rfl⟩ := Nat.exists_eq_add_one.mpr (show 0 < n by omega)
  exact ⟨rest, h n rest (by omega) hr, rfl⟩

theorem skips_word {c : Char} {ws : List Char}
    (h : ∀ n cs, skipValue (n+1) (c::cs) = word ws cs) : Skips (c::ws) := by
  have hword : ∀ (ws rest : List Char), word ws (ws ++ rest) = .ok rest := by
    intro ws rest
    induction ws with
    | nil => rfl
    | cons w ws ih => simp [word, ih]
  exact skips_cons fun n rest _ _ => (h n _).trans (hword ws rest)

theorem skips_list {blanks : List Char} {vs : List (List Char)} (hb : Blank blanks)
    (hvs : ∀ v ∈ vs, IsJson v) (h : ∀ v ∈ vs, Skips v) :
    Skips ('[' :: (blanks ++ ([','].intercalate vs ++ [']']))) := by
  refine skips_cons fun n rest hn _ => ?_
  simp only [List.append_assoc, List.singleton_append]
  cases vs with
  | nil => exact skipValue_emptyList (skipBlank_append hb _) n
  | cons v vs =>
    obtain ⟨c, more, hstart, hc, _⟩ := (hvs v List.mem_cons_self).exists_start
      (vs.flatMap (',' :: ·) ++ ']'::rest)
    rw [← List.append_assoc, ← intercalate_cons, ← skipBlank_append hb] at hstart
    rw [skipValue_list hstart hc, ← skipItems_blank, skipBlank_append hb, skipItems_blank]
    exact loop_parts (by decide) (by decide) (by decide) (fun p hp => (h p hp).turns)
      (by simp at hn ⊢; omega) rest

theorem skips_record {blanks : List Char} {ms : List (List Char × List Char)} (hb : Blank blanks)
    (hkeys : ∀ m ∈ ms, IsKey m.1) (h : ∀ m ∈ ms, Skips m.2) :
    Skips ('\x7b' :: (blanks ++ ([','].intercalate (ms.map member) ++ ['\x7d']))) := by
  refine skips_cons fun n rest hn _ => ?_
  simp only [List.append_assoc, List.singleton_append]
  cases ms with
  | nil => exact skipValue_emptyRecord (skipBlank_append hb _) n
  | cons m ms =>
    have hturns : ∀ p ∈ (m::ms).map member, Turns skipMembers '\x7d' p :=
      List.forall_mem_map.mpr fun x hx => (h x hx).member_turns (hkeys x hx)
    obtain ⟨more, hstart⟩ := (hkeys m List.mem_cons_self).exists_start
      (':' :: m.2 ++ ((ms.map member).flatMap (',' :: ·) ++ '\x7d'::rest))
    rw [← List.append_assoc, ← member, ← List.append_assoc, ← intercalate_cons, ← List.map_cons,
      ← skipBlank_append hb] at hstart
    rw [skipValue_record hstart (by decide), ← skipMembers_blank, skipBlank_append hb,
      skipMembers_blank]
    exact loop_parts (by decide) (by decide) (by decide) hturns (by simp at hn ⊢; omega) rest

/-- Every value is skipped, whatever its text. -/
theorem IsJson.skips {t : List Char} (h : IsJson t) : Skips t := by
  induction h with
  | null | true | false => exact skips_word fun n cs => rfl
  | number h =>
    obtain ⟨d, more, rfl, hd⟩ := h.exists_cons
    exact skips_cons fun n rest _ hr => (skipValue_digit hd n _).trans (skipNumber_append h hr)
  | negative h => exact skips_cons fun n rest _ hr => skipNumber_append h hr
  | text h =>
    refine skips_cons fun n rest _ _ => ?_
    rw [List.append_assoc]
    exact skipText_body h rest
  | list hb h ih => exact skips_list hb h ih
  | record hb hkeys _ ih => exact skips_record hb hkeys ih
  | @padded before cs after hb h ha ih =>
    intro n rest hn hr
    obtain ⟨rest', hskip, hrest⟩ := ih n (after ++ rest) (by simp at hn; omega)
      (stopsAt_blanks ha hr)
    refine ⟨rest', ?_, hrest.trans (skipBlank_append ha rest)⟩
    rw [← skipValue_blank] at hskip ⊢
    rwa [List.append_assoc, List.append_assoc, skipBlank_append hb]

/-- A member that does not matter is skipped behind its key. -/
theorem IsJson.skipField {t : List Char} (h : IsJson t) {rest : List Char}
    (hr : StopsAt isNumeral rest) :
    ∃ rest', skipField (':' :: (t ++ rest)) = .ok rest' ∧ skipBlank rest' = skipBlank rest := by
  have hn : 2*t.length ≤ 2*(t ++ rest).length+2 := by simp; omega
  exact h.skips _ rest hn hr

end LightBridge.Json
