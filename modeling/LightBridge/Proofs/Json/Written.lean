import LightBridge.Json.Value
import LightBridge.Proofs.Json.Grammar
import LightBridge.Proofs.Number.Text

/-!
# Written values read back

The text that is written for a text or for a natural number reads as that text
or number, and nothing of the rest is taken.
-/

set_option autoImplicit false

namespace LightBridge.Json

open Text

/-! ## Text -/

theorem hexValue_digit : ∀ d < 16, hexValue? (digit d) = some d := by decide

theorem hexUnit_hex4 {n : Nat} (h : n < 0x10000) (rest : List Char) :
    hexUnit (hex4 n ++ rest) = .ok (n, rest) := by
  have hd : ∀ m, hexValue? (digit (m%16)) = some (m%16) :=
    fun m => hexValue_digit _ (Nat.mod_lt m (by decide))
  simp only [hex4, List.map_cons, List.map_nil, List.cons_append, List.nil_append, hexUnit, hd]
  rw [Except.ok.injEq, Prod.mk.injEq]
  exact ⟨by omega, rfl⟩

theorem unicodeEscape_hex4 {c : Char} (h : c.toNat < 0x20) (rest : List Char) :
    unicodeEscape (hex4 c.toNat ++ rest) = .ok (c, rest) := by
  have hlow : isLowHalf c.toNat = false := by simp [isLowHalf]; omega
  have hhigh : isHighHalf c.toNat = false := by simp [isHighHalf]; omega
  rw [unicodeEscape, hexUnit_hex4 (by omega)]
  simp [hlow, hhigh, Char.ofNat_toNat]

/-- A character is written as it is, with a letter for it, or with its number. -/
inductive Escape (c : Char) : List Char → Prop
  | plain (hc : 0x20 ≤ c.toNat) (hquote : c ≠ '"') (hslash : c ≠ '\\') : Escape c [c]
  | simple {e : Char} (he : simpleEscape? e = some c) : Escape c ['\\', e]
  | unicode (hc : c.toNat < 0x20) : Escape c ('\\' :: 'u' :: hex4 c.toNat)

theorem escape_escaped (c : Char) : Escape c (escaped c) := by
  simp only [escaped, Bool.or_eq_true, beq_iff_eq]
  repeat' split
  case isTrue h =>
    rcases h with rfl | rfl <;> exact .simple rfl
  case isTrue h => exact .simple (h ▸ rfl)
  case isTrue h => exact .simple (h ▸ rfl)
  case isTrue h => exact .simple (h ▸ rfl)
  case isTrue h => exact .simple (h ▸ rfl)
  case isTrue h => exact .simple (h ▸ rfl)
  case isTrue h => exact .unicode h
  case isFalse h _ _ _ _ _ hc =>
    rw [not_or] at h
    exact .plain (Nat.not_lt.mp hc) h.1 h.2

theorem Escape.textBody {c : Char} {cs s more rest : List Char} (h : Escape c cs)
    (hmore : textBody more = .ok (s, rest)) : textBody (cs ++ more) = .ok (c::s, rest) := by
  cases h with
  | plain hc hquote hslash =>
    rw [List.singleton_append, Json.textBody]
    · simp [Nat.not_lt.mpr hc, hmore]
    all_goals simp [hquote, hslash]
  | simple he =>
    rw [List.cons_append, List.singleton_append, Json.textBody]
    · simp [he, hmore]
    · rintro rfl
      exact absurd he (by simp [simpleEscape?])
  | unicode hc =>
    simp only [List.cons_append]
    rw [Json.textBody]
    have hu := unicodeEscape_hex4 hc more
    split <;> simp_all

theorem Escape.isBody {c : Char} {cs more : List Char} (h : Escape c cs) (hmore : IsBody more) :
    IsBody (cs ++ more) := by
  cases h with
  | plain hc hquote hslash => exact .plain hc hquote hslash hmore
  | simple he => exact .simple (by simp [he]) hmore
  | unicode hc =>
    have hunit : ∀ d ∈ hex4 c.toNat, (hexValue? d).isSome := by
      simp [hex4, hexValue_digit, Nat.mod_lt]
    exact .unicode hunit hmore

theorem textBody_escaped (s rest : List Char) :
    textBody (s.flatMap escaped ++ '"'::rest) = .ok (s, rest) := by
  induction s with
  | nil => simp [textBody]
  | cons c s ih =>
    rw [List.flatMap_cons, List.append_assoc]
    exact (escape_escaped c).textBody ih

theorem valueStart_cons {c : Char} (h : isBlank c = false) (cs : List Char) :
    valueStart (c::cs) = .ok (c::cs) := by
  rw [valueStart, skipBlank_cons h]

/-- A reader takes a value of this text and leaves the rest. -/
def Reads {α : Type} (read : List Char → Scan α) (t : List Char) (a : α) : Prop :=
  ∀ rest, StopsAt isNumeral rest → read (t ++ rest) = .ok (a, rest)

theorem reads_text (s : String) : Reads readText (textLiteral s) s := by
  intro rest _
  have hbody := textBody_escaped s.toList rest
  simp [readText, textLiteral, valueStart_cons (show isBlank '"' = false by decide), hbody,
    Except.map]

/-! ## Numbers -/

def decimalValue (significand : Nat) (ds : List Char) : Nat :=
  ds.foldl (fun n d => n*10+digitValue d) significand

theorem le_decimalValue (significand : Nat) (ds : List Char) :
    significand ≤ decimalValue significand ds := by
  induction ds generalizing significand with
  | nil => exact Nat.le_refl _
  | cons d ds ih => exact Nat.le_trans (by omega) (ih (significand*10+digitValue d))

theorem absorb_decimalValue {significand : Nat} {ds : List Char}
    (h : decimalValue significand ds ≤ maxSignificand) :
    absorb significand ds = (decimalValue significand ds, 0) := by
  induction ds generalizing significand with
  | nil => rfl
  | cons d ds ih =>
    have hnext := Nat.le_trans (le_decimalValue (significand*10+digitValue d) ds) h
    rw [absorb, if_neg (Nat.not_lt.mpr hnext), ih h]
    rfl

theorem decimalValue_decimalDigits (n : Nat) : decimalValue 0 (decimalDigits n) = n := by
  have hdigit : ∀ d < 10, digitValue (digit d) = d := by decide
  rw [decimalDigits_eq]
  exact foldl_digits (by decide) hdigit n

theorem number_whole {cs rest : List Char} (h : IsWhole cs) (hr : StopsAt isNumeral rest)
    (hmax : decimalValue 0 cs ≤ maxSignificand) :
    number false (cs ++ rest) = .ok (.whole (decimalValue 0 cs), rest) := by
  obtain ⟨d, ds, rfl, hd, hds, hzero⟩ := h.exists_cons (stopsAt_digit hr)
  have hall : ∀ c ∈ d::ds, isDigit c = true := by simpa using ⟨hd, hds⟩
  have htake := takeWhile_run hall (stopsAt_digit hr)
  have hdrop := dropWhile_run hall (stopsAt_digit hr)
  rw [List.cons_append] at htake hdrop ⊢
  simp only [number, hd, hzero, htake, hdrop, absorb_decimalValue hmax, Bool.not_true,
    Bool.false_eq_true, if_false]
  split
  · exact absurd (hr '.' rfl) (by decide)
  · exact absurd (hr 'e' rfl) (by decide)
  · exact absurd (hr 'E' rfl) (by decide)
  · simp [wholeNumber, Except.map]

theorem reads_number {n : Nat} (hn : n ≤ maxSignificand) :
    Reads readNumber (decimalDigits n) (.whole n) := by
  intro rest hr
  have hwhole := isWhole_decimalDigits n
  have hnumber := number_whole hwhole hr (by rwa [decimalValue_decimalDigits])
  rw [decimalValue_decimalDigits] at hnumber
  obtain ⟨d, ds, hcons, hd, _⟩ := hwhole.exists_cons (stopsAt_digit hr)
  rw [hcons, List.cons_append] at hnumber ⊢
  rw [readNumber, valueStart_cons (isBlank_digit hd)]
  split
  · simp_all
  · rename_i heq
    cases heq
    exact absurd hd (by decide)
  · rename_i cs _ heq
    cases heq
    simp [hd, hnumber]

theorem reads_integer {n most : Nat} (hmost : most ≤ maxSignificand) (hn : n ≤ most) :
    Reads (readInteger 0 most) (decimalDigits n) n := by
  intro rest hr
  simp [readInteger, reads_number (Nat.le_trans hn hmost) rest hr, hn]

/-! ## Readers -/

theorem integer_chars (n : Nat) : (Value.integer n).chars = decimalDigits n := by
  simp [Value.chars, Text.integer, natural]

/-- A value that starts with this character is there, and no list ends at it. -/
structure Starts (c : Char) : Prop where
  blank : isBlank c = false
  null : c ≠ 'n'
  close : c ≠ ']'

theorem starts_digit {d : Char} (h : isDigit d = true) : Starts d := by
  refine ⟨isBlank_digit h, ?_, ?_⟩ <;>
  · rintro rfl
    exact absurd h (by decide)

theorem exists_starts_integer (n : Nat) :
    ∃ c cs, (Value.integer n).chars = c::cs ∧ Starts c := by
  obtain ⟨d, ds, hcons, hd, _⟩ := (isWhole_decimalDigits n).exists_cons
    (stopsAt_nil : StopsAt isDigit [])
  exact ⟨d, ds, (integer_chars n).trans hcons, starts_digit hd⟩

section
variable {α : Type} {read : List Char → Scan α} {t : List Char} {a : α}

theorem reads_option (h : Reads read t a) (hstart : ∃ c cs, t = c::cs ∧ Starts c) :
    Reads (readOption read) t (some a) := by
  intro rest hr
  have hread := h rest hr
  obtain ⟨c, cs, rfl, hc⟩ := hstart
  rw [List.cons_append] at hread ⊢
  rw [readOption, skipBlank_cons hc.blank]
  split
  · rename_i heq
    exact absurd (List.cons.inj heq).1 hc.null
  · simp [hread, Except.map]

theorem readItem_first (missing : Except Issue α) (h : Reads read t a)
    (hstart : ∃ c cs, t = c::cs ∧ Starts c) {rest : List Char} (hr : StopsAt isNumeral rest) :
    readItem missing read true (t ++ rest) = .ok (a, rest) := by
  have hread := h rest hr
  obtain ⟨c, cs, rfl, hc⟩ := hstart
  rw [List.cons_append] at hread ⊢
  rw [readItem, skipBlank_cons hc.blank]
  simp [hread, hc.close]

theorem readItem_next (missing : Except Issue α) (h : Reads read t a)
    (hstart : ∃ c cs, t = c::cs ∧ Starts c) {rest : List Char} (hr : StopsAt isNumeral rest) :
    readItem missing read false (',' :: (t ++ rest)) = .ok (a, rest) := by
  have hread := h rest hr
  obtain ⟨c, cs, rfl, hc⟩ := hstart
  rw [List.cons_append] at hread ⊢
  rw [readItem, skipBlank_cons (by decide)]
  simp [hread, hc.close, skipBlank_cons hc.blank]

/-- The value of a member that was not seen before is read behind the colon. -/
theorem readField_unseen (h : Reads read t a) {rest : List Char} (hr : StopsAt isNumeral rest) :
    readField false read (':' :: (t ++ rest)) = .ok (a, rest) := by
  have hcolon : readColon (':' :: (t ++ rest)) = .ok (t ++ rest) := by
    simp [readColon, skipBlank_cons (show isBlank ':' = false by decide)]
  simp [readField, hcolon, h rest hr]

end

/-! ## Records -/

/-- The text of a member with this key. -/
def memberText (m : String × List Char) : List Char := textLiteral m.1 ++ ':' :: m.2

def recordText (ms : List (String × List Char)) : List Char :=
  '\x7b' :: ([','].intercalate (ms.map memberText) ++ ['\x7d'])

theorem memberChars_eq (ms : List (String × Value)) :
    memberChars ms = [','].intercalate (ms.map fun m => memberText (m.1, m.2.chars)) := by
  induction ms with
  | nil => rfl
  | cons m ms ih =>
    obtain ⟨k, v⟩ := m
    cases ms with
    | nil => simp [memberChars, memberText]
    | cons next ms => simp_all [memberChars, memberText]

theorem record_chars (ms : List (String × Value)) :
    (Value.record ms).chars = recordText (ms.map fun m => (m.1, m.2.chars)) := by
  rw [Value.chars, memberChars_eq, recordText, List.map_map]
  rfl

/-- Each part but the first has a comma. -/
theorem length_parts (parts : List (List Char)) :
    parts.length ≤ ([','].intercalate parts).length+1 := by
  cases parts with
  | nil => simp
  | cons part parts =>
    have hcommas : parts.length ≤ (parts.flatMap (',' :: ·)).length := by
      induction parts with
      | nil => simp
      | cons next parts ih => simp at ih ⊢; omega
    rw [intercalate_cons]
    simp at hcommas ⊢
    omega

/-- Behind a member stands a comma or the brace. -/
theorem parts_start (parts : List (List Char)) (rest : List Char) :
    ∃ c more, parts.flatMap (',' :: ·) ++ '\x7d'::rest = c::more ∧ (c = ',' ∨ c = '\x7d') := by
  cases parts with
  | nil => exact ⟨_, _, rfl, .inr rfl⟩
  | cons part parts => exact ⟨_, _, rfl, .inl rfl⟩

theorem stopsAt_parts (parts : List (List Char)) (rest : List Char) :
    StopsAt isNumeral (parts.flatMap (',' :: ·) ++ '\x7d'::rest) := by
  obtain ⟨c, more, h, rfl | rfl⟩ := parts_start parts rest <;>
  · rw [h]
    exact stopsAt_cons (by decide) _

theorem skipBlank_parts (parts : List (List Char)) (rest : List Char) :
    skipBlank (parts.flatMap (',' :: ·) ++ '\x7d'::rest) =
      parts.flatMap (',' :: ·) ++ '\x7d'::rest := by
  obtain ⟨c, more, h, rfl | rfl⟩ := parts_start parts rest <;>
  · rw [h]
    exact skipBlank_cons (by decide) _

section
variable {σ : Type} {member : String → σ → List Char → Scan σ}

/-- A member takes a draft further. -/
def Takes (member : String → σ → List Char → Scan σ) (d : σ) (m : String × List Char)
    (d' : σ) : Prop :=
  ∀ rest, StopsAt isNumeral rest →
    ∃ rest', member m.1 d (':' :: (m.2 ++ rest)) = .ok (d', rest') ∧
      skipBlank rest' = skipBlank rest

/-- Members take a draft further one after another. -/
inductive Drafts (member : String → σ → List Char → Scan σ) :
    σ → List (String × List Char) → σ → Prop
  | nil (d : σ) : Drafts member d [] d
  | cons {d d' d'' : σ} {m : String × List Char} {ms : List (String × List Char)}
      (h : Takes member d m d') (hs : Drafts member d' ms d'') : Drafts member d (m::ms) d''

/-- A member is read at the start of a record, and behind a comma. -/
theorem readMembers_member {d d' : σ} {m : String × List Char} (h : Takes member d m d')
    {more : List Char} (hr : StopsAt isNumeral more) (n : Nat) :
    ∃ rest, skipBlank rest = skipBlank more ∧
      readMembers member (n+1) true d (memberText m ++ more) = readMembers member n false d' rest ∧
      ∀ cs, skipBlank cs = ',' :: (memberText m ++ more) →
        readMembers member (n+1) false d cs = readMembers member n false d' rest := by
  obtain ⟨rest, hmember, hrest⟩ := h more hr
  have htext : memberText m ++ more =
      '"' :: (m.1.toList.flatMap escaped ++ '"' :: ':' :: (m.2 ++ more)) := by
    simp [memberText, textLiteral]
  have hbody := textBody_escaped m.1.toList (':' :: (m.2 ++ more))
  have hquote : ∀ cs, skipBlank ('"'::cs) = '"'::cs := skipBlank_cons (by decide)
  refine ⟨rest, hrest, ?_, fun cs hcs => ?_⟩
  · rw [htext, readMembers]
    simp [hquote, hbody, hmember]
  · rw [htext] at hcs
    simp [readMembers, hcs, keyStart, hquote, hbody, hmember]

/-- The members that follow another one, each behind a comma. -/
theorem readMembers_more {d d' : σ} {ms : List (String × List Char)} (h : Drafts member d ms d')
    {n : Nat} (hn : ms.length < n) {cs : List Char} (rest : List Char)
    (hcs : skipBlank cs = (ms.map memberText).flatMap (',' :: ·) ++ '\x7d'::rest) :
    readMembers member n false d cs = .ok (d', rest) := by
  induction h generalizing n cs with
  | nil d =>
    obtain ⟨n, rfl⟩ := Nat.exists_eq_add_one.mpr (show 0 < n by omega)
    have hclose : skipBlank cs = '\x7d'::rest := hcs
    simp [readMembers, hclose]
  | @cons d d1 d2 m ms hm hs ih =>
    obtain ⟨n, rfl⟩ := Nat.exists_eq_add_one.mpr (show 0 < n by omega)
    have hstop := stopsAt_parts (ms.map memberText) rest
    obtain ⟨rest', hrest, _, hmore⟩ := readMembers_member hm hstop n
    rw [hmore cs (by simpa using hcs)]
    exact ih (by simpa using hn) (hrest.trans (skipBlank_parts _ rest))

theorem readMembers_all {d d' : σ} {ms : List (String × List Char)} (h : Drafts member d ms d')
    {n : Nat} (hn : ms.length < n) (rest : List Char) :
    readMembers member n true d ([','].intercalate (ms.map memberText) ++ '\x7d'::rest) =
      .ok (d', rest) := by
  obtain ⟨n, rfl⟩ := Nat.exists_eq_add_one.mpr (show 0 < n by omega)
  cases h with
  | nil => simp [readMembers, skipBlank_cons (show isBlank '\x7d' = false by decide)]
  | @cons _ d1 _ m ms hm hs =>
    have hstop := stopsAt_parts (ms.map memberText) rest
    obtain ⟨rest', hrest, hfirst, _⟩ := readMembers_member hm hstop n
    rw [List.map_cons, intercalate_cons, List.append_assoc, hfirst]
    exact readMembers_more hs (by simpa using hn) rest (hrest.trans (skipBlank_parts _ rest))

end

/-! ## Values -/

theorem isBody_escaped (s : List Char) : IsBody (s.flatMap escaped) := by
  induction s with
  | nil => exact .nil
  | cons c s ih =>
    rw [List.flatMap_cons]
    exact (escape_escaped c).isBody ih

theorem isJson_textLiteral (s : String) : IsJson (textLiteral s) := by
  simpa [textLiteral] using IsJson.text (isBody_escaped s.toList)

theorem isKey_textLiteral (s : String) : IsKey (textLiteral s) := by
  have hnil : Blank [] := List.forall_mem_nil _
  simpa [textLiteral] using IsKey.padded hnil (isBody_escaped s.toList) hnil

theorem isNumber_decimalDigits (n : Nat) : IsNumber (decimalDigits n) := by
  simpa using IsNumber.parts (isWhole_decimalDigits n) .absent .absent

theorem listChars_eq (vs : List Value) : listChars vs = [','].intercalate (vs.map Value.chars) := by
  induction vs with
  | nil => rfl
  | cons v vs ih =>
    cases vs with
    | nil => simp [listChars]
    | cons next vs => simp_all [listChars]

/-- Every value is written as JSON. -/
theorem isJson_chars (v : Value) : IsJson v.chars := by
  match v with
  | .null => exact .null
  | .bool true => exact .true
  | .bool false => exact .false
  | .integer (.ofNat n) =>
    simpa [Value.chars, Text.integer, natural] using IsJson.number (isNumber_decimalDigits n)
  | .integer (.negSucc n) =>
    simpa [Value.chars, Text.integer, natural] using IsJson.negative (isNumber_decimalDigits (n+1))
  | .single x =>
    rw [Value.chars]
    split
    · exact Number.text_isJson x
    · exact .null
  | .text s => exact isJson_textLiteral s
  | .list vs =>
    have hall : ∀ w ∈ vs, IsJson w.chars := fun w _ => isJson_chars w
    rw [Value.chars, listChars_eq]
    have hlist : IsJson ('[' :: ([] ++ ([','].intercalate (vs.map Value.chars) ++ [']']))) :=
      .list (List.forall_mem_nil _) (List.forall_mem_map.mpr hall)
    exact hlist
  | .record ms =>
    have hall : ∀ m ∈ ms, IsJson m.2.chars := fun m _ => isJson_chars m.2
    let parts := ms.map fun m => (textLiteral m.1, m.2.chars)
    have hrecord : IsJson ('\x7b' :: ([] ++ ([','].intercalate (parts.map member) ++ ['\x7d']))) :=
      .record (List.forall_mem_nil _) (List.forall_mem_map.mpr fun m _ => isKey_textLiteral m.1)
        (List.forall_mem_map.mpr hall)
    have hparts : parts.map member = (ms.map fun m => (m.1, m.2.chars)).map memberText := by
      simp only [parts, List.map_map]
      rfl
    rw [record_chars, recordText, ← hparts]
    exact hrecord
  decreasing_by
    · have hlt := List.sizeOf_lt_of_mem ‹_ ∈ _›
      simp only [Value.list.sizeOf_spec]
      omega
    · have hlt := List.sizeOf_lt_of_mem ‹_ ∈ _›
      have hpair : sizeOf m = 1 + sizeOf m.1 + sizeOf m.2 := rfl
      simp only [Value.record.sizeOf_spec]
      omega

end LightBridge.Json
