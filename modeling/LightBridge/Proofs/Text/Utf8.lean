import LightBridge.Text.Utf8
import Mathlib.Data.List.DropRight

/-!
# Texts as bytes

Every text has one encoding, and the bytes that are decoded are the encodings:
a character of each length is told by its first byte, and the ranges of the
second byte leave out what could be written shorter, surrogates, and numbers
beyond the last character.
-/

set_option autoImplicit false

namespace LightBridge.Text

/-- The bytes of a text. -/
def utf8Bytes (cs : List Char) : List UInt8 := cs.flatMap String.utf8EncodeChar

theorem utf8Bytes_cons (c : Char) (cs : List Char) :
    utf8Bytes (c::cs) = String.utf8EncodeChar c ++ utf8Bytes cs := rfl

theorem utf8Bytes_append (cs ds : List Char) :
    utf8Bytes (cs ++ ds) = utf8Bytes cs ++ utf8Bytes ds :=
  List.flatMap_append

theorem utf8ByteSize_ofList (cs : List Char) :
    (String.ofList cs).utf8ByteSize = (utf8Bytes cs).length := by
  simp [utf8Bytes, String.ofList, String.utf8ByteSize, List.utf8Encode]

/-! ## One character -/

/-- The bytes are those of the character, by the first byte and the ranges of
the others. -/
inductive Coded : Char → List UInt8 → Prop where
  | one {a : UInt8} (first : a.toNat < 0x80) : Coded (Char.ofNat a.toNat) [a]
  | two {a b : UInt8} (first : within 0xC2 0xDF a = true) (tail : isTail b = true) :
    Coded (Char.ofNat (a.toNat%32*64+low6 b)) [a, b]
  | three {a b c : UInt8} (first : within 0xE0 0xEF a = true) (next : second a b = true)
      (tail : isTail c = true) :
    Coded (Char.ofNat (a.toNat%16*4096+low6 b*64+low6 c)) [a, b, c]
  | four {a b c d : UInt8} (first : within 0xF0 0xF4 a = true) (next : second a b = true)
      (tail : isTail c = true) (last : isTail d = true) :
    Coded (Char.ofNat (a.toNat%8*262144+low6 b*4096+low6 c*64+low6 d)) [a, b, c, d]

theorem within_iff {lo hi b : UInt8} :
    within lo hi b = true ↔ lo.toNat ≤ b.toNat ∧ b.toNat ≤ hi.toNat := by
  simp [within, UInt8.le_iff_toNat_le]

theorem isTail_iff {b : UInt8} : isTail b = true ↔ 0x80 ≤ b.toNat ∧ b.toNat ≤ 0xBF := within_iff

/-- Only four first bytes narrow the range of the second one. -/
theorem second_iff {a b : UInt8} :
    second a b = true ↔ (0x80 ≤ b.toNat ∧ b.toNat ≤ 0xBF) ∧
      (a.toNat = 0xE0 → 0xA0 ≤ b.toNat) ∧ (a.toNat = 0xED → b.toNat ≤ 0x9F) ∧
      (a.toNat = 0xF0 → 0x90 ≤ b.toNat) ∧ (a.toNat = 0xF4 → b.toNat ≤ 0x8F) := by
  have heq : ∀ n : UInt8, (a == n) = true ↔ a.toNat = n.toNat := fun n => by
    rw [beq_iff_eq, UInt8.toNat_inj]
  have hb := b.toNat_lt
  simp only [second, heq]
  split_ifs <;> simp_all [within_iff, isTail_iff] <;> omega

theorem ofNat_eq {n : Nat} {a : UInt8} (h : n%256 = a.toNat) : UInt8.ofNat n = a := by
  rw [← UInt8.toNat_inj, UInt8.toNat_ofNat', h]

theorem toNat_ofNat {n : Nat} (h : n.isValidChar) : (Char.ofNat n).val.toNat = n := by
  rw [Char.ofNat, dif_pos h]
  rfl

theorem Coded.of_number {c : Char} {n : Nat} {bs : List UInt8} (h : Coded (Char.ofNat n) bs)
    (hn : n = c.toNat) : Coded c bs := by
  rwa [hn, Char.ofNat_toNat] at h

/-- The encoding of a character has one of the four forms. -/
theorem coded_encode (c : Char) : Coded c (String.utf8EncodeChar c) := by
  have hc : c.toNat < 0xD800 ∨ 0xDFFF < c.toNat ∧ c.toNat < 0x110000 := c.valid
  have hbyte : ∀ n, (UInt8.ofNat n).toNat = n%256 := fun n => UInt8.toNat_ofNat'
  simp only [String.utf8EncodeChar, Char.toNat_val]
  generalize hv : c.toNat = v at hc
  split_ifs with h1 h2 h3
  · refine (Coded.one ?_).of_number ?_ <;> rw [hbyte] <;> omega
  · refine (Coded.two ?_ ?_).of_number ?_ <;>
      simp only [within_iff, isTail_iff, low6, hbyte, UInt8.reduceToNat] <;> omega
  · refine (Coded.three ?_ ?_ ?_).of_number ?_ <;>
      simp only [within_iff, isTail_iff, second_iff, low6, hbyte, UInt8.reduceToNat] <;> omega
  · refine (Coded.four ?_ ?_ ?_ ?_).of_number ?_ <;>
      simp only [within_iff, isTail_iff, second_iff, low6, hbyte, UInt8.reduceToNat] <;> omega

/-- Each form is that of the encoding: a longer one has no number that a shorter
one could hold. -/
theorem Coded.eq_encode {c : Char} {bs : List UInt8} (h : Coded c bs) :
    bs = String.utf8EncodeChar c := by
  cases h with
  | @one a first =>
    have hv : (Char.ofNat a.toNat).val.toNat = a.toNat := toNat_ofNat (.inl (by omega))
    simp only [String.utf8EncodeChar, hv]
    rw [if_pos (by omega), ofNat_eq (a := a) (by omega)]
  | @two a b first tail =>
    simp only [within_iff, isTail_iff, UInt8.reduceToNat] at first tail
    have hv := toNat_ofNat (n := a.toNat%32*64+low6 b) (.inl (by unfold low6; omega))
    simp only [String.utf8EncodeChar, hv]
    unfold low6
    rw [if_neg (by omega), if_pos (by omega), ofNat_eq (a := a) (by omega),
      ofNat_eq (a := b) (by omega)]
  | @three a b c first next tail =>
    simp only [within_iff, isTail_iff, second_iff, UInt8.reduceToNat] at first next tail
    have hv := toNat_ofNat (n := a.toNat%16*4096+low6 b*64+low6 c) (by unfold low6; omega)
    simp only [String.utf8EncodeChar, hv]
    unfold low6
    rw [if_neg (by omega), if_neg (by omega), if_pos (by omega), ofNat_eq (a := a) (by omega),
      ofNat_eq (a := b) (by omega), ofNat_eq (a := c) (by omega)]
  | @four a b c d first next tail last =>
    simp only [within_iff, isTail_iff, second_iff, UInt8.reduceToNat] at first next tail last
    have hv := toNat_ofNat (n := a.toNat%8*262144+low6 b*4096+low6 c*64+low6 d)
      (by unfold low6; omega)
    simp only [String.utf8EncodeChar, hv]
    unfold low6
    rw [if_neg (by omega), if_neg (by omega), if_neg (by omega), ofNat_eq (a := a) (by omega),
      ofNat_eq (a := b) (by omega), ofNat_eq (a := c) (by omega), ofNat_eq (a := d) (by omega)]

/-! ## Texts -/

theorem not_lt_of_within {lo hi a : UInt8} (h : within lo hi a = true) (hl : 0x80 ≤ lo.toNat) :
    ¬ a < 0x80 := by
  rw [within_iff] at h
  exact fun hlt => Nat.lt_irrefl _ ((hl.trans h.1).trans_lt (UInt8.lt_iff_toNat_lt.mp hlt))

/-- The ranges of first bytes are apart. -/
theorem not_within_below {lo hi l r a : UInt8} (h : within lo hi a = true)
    (hl : r.toNat < lo.toNat) : ¬ within l r a = true := by
  rw [within_iff] at h ⊢
  omega

theorem Coded.decode {c : Char} {bs : List UInt8} (h : Coded c bs) (offset : Nat)
    (rest : List UInt8) :
    decodeFrom offset (bs ++ rest) = (c :: ·) <$> decodeFrom (offset+bs.length) rest := by
  cases h with
  | one first =>
    rw [List.singleton_append, decodeFrom.eq_def]
    simp only [UInt8.lt_iff_toNat_lt, UInt8.reduceToNat, if_pos first]
    rfl
  | two first tail =>
    have hlarge := not_lt_of_within first (by decide)
    rw [List.cons_append, List.singleton_append, decodeFrom.eq_def]
    simp only [if_neg hlarge, if_pos first, if_pos tail]
    rfl
  | three first next tail =>
    have hlarge := not_lt_of_within first (by decide)
    have htwo := not_within_below (l := 0xC2) (r := 0xDF) first (by decide)
    rw [List.cons_append, List.cons_append, List.singleton_append, decodeFrom.eq_def]
    simp only [if_neg hlarge, if_neg htwo, if_pos first, if_pos next, if_pos tail]
    rfl
  | four first next tail last =>
    have hlarge := not_lt_of_within first (by decide)
    have htwo := not_within_below (l := 0xC2) (r := 0xDF) first (by decide)
    have hthree := not_within_below (l := 0xE0) (r := 0xEF) first (by decide)
    rw [List.cons_append, List.cons_append, List.cons_append, List.singleton_append,
      decodeFrom.eq_def]
    simp only [if_neg hlarge, if_neg htwo, if_neg hthree, if_pos first, if_pos next, if_pos tail,
      if_pos last]
    rfl

theorem decodeFrom_utf8Bytes (offset : Nat) (cs : List Char) :
    decodeFrom offset (utf8Bytes cs) = .ok cs := by
  induction cs generalizing offset with
  | nil => rfl
  | cons c cs ih =>
    rw [utf8Bytes_cons, (coded_encode c).decode, ih]
    rfl

/-- What is put before a text that is decoded is the encoding of a character. -/
theorem eq_utf8Bytes_of_coded {c : Char} {bs rest : List UInt8} {cs : List Char}
    {decoded : Except Utf8Fault (List Char)} (hc : Coded c bs)
    (ih : ∀ {ds}, decoded = .ok ds → rest = utf8Bytes ds)
    (h : (c :: ·) <$> decoded = .ok cs) : bs ++ rest = utf8Bytes cs := by
  cases decoded with
  | error fault => cases h
  | ok ds =>
    cases h
    rw [utf8Bytes_cons, ← hc.eq_encode, ih rfl]

theorem eq_utf8Bytes_of_decodeFrom {offset : Nat} {bs : List UInt8} {cs : List Char}
    (h : decodeFrom offset bs = .ok cs) : bs = utf8Bytes cs := by
  fun_induction decodeFrom offset bs generalizing cs with
  | case1 =>
    cases h
    rfl
  | case2 _ _ _ first ih =>
    exact eq_utf8Bytes_of_coded (.one (UInt8.lt_iff_toNat_lt.mp first)) ih h
  | case4 _ _ _ first _ _ tail ih => exact eq_utf8Bytes_of_coded (.two first tail) ih h
  | case8 _ _ _ _ first _ next _ _ tail ih =>
    exact eq_utf8Bytes_of_coded (.three first next tail) ih h
  | case14 _ _ _ _ _ first _ next _ tail _ _ last ih =>
    exact eq_utf8Bytes_of_coded (.four first next tail last) ih h
  | _ => cases h

/-- What is decoded are the encodings, each as its text. -/
theorem decodeUtf8_eq_ok_iff {bs : List UInt8} {cs : List Char} :
    decodeUtf8 bs = .ok cs ↔ bs = utf8Bytes cs :=
  ⟨eq_utf8Bytes_of_decodeFrom, fun h => h ▸ decodeFrom_utf8Bytes 0 cs⟩

end LightBridge.Text
