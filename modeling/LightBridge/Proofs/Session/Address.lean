import LightBridge.Address
import LightBridge.Proofs.Session.History

/-!
# The address of a bridge

A bridge is known by the text of its address, and a packet carries the six
bytes. The text may be in either case, as upper case makes it the one that the
bytes are printed as, and no other bytes are printed so. Session bytes, a
confirmation and an echo from another address, and what is no packet at all, are
strays, which leave the session as it is.
-/

set_option autoImplicit false

namespace LightBridge

namespace Text

/-- The bytes that pairs of digits spell, in either case. -/
def spelled? : List Char → Option (List UInt8)
  | [] => some []
  | [_] => none
  | hi::lo::cs =>
    match Address.digitValue? 16 hi, Address.digitValue? 16 lo, spelled? cs with
    | some h, some l, some bs => some ((16*h+l).toUInt8::bs)
    | _, _, _ => none

theorem toNat_lt_of_digit {c : Char} {d : Nat} (h : Address.digitValue? 16 c = some d) :
    c.toNat < 128 := by
  have bound : ∀ last : Char, last.toNat < 128 → c ≤ last → c.toNat < 128 :=
    fun last hl hc => Nat.lt_of_le_of_lt hc hl
  simp only [Address.digitValue?] at h
  by_cases h1 : ('0' ≤ c && c ≤ '9') = true
  · exact bound '9' (by decide) (by simpa using (Bool.and_eq_true_iff.mp h1).2)
  by_cases h2 : ('a' ≤ c && c ≤ 'f') = true
  · exact bound 'f' (by decide) (by simpa using (Bool.and_eq_true_iff.mp h2).2)
  by_cases h3 : ('A' ≤ c && c ≤ 'F') = true
  · exact bound 'F' (by decide) (by simpa using (Bool.and_eq_true_iff.mp h3).2)
  simp [h1, h2, h3] at h

/-- A digit in upper case is the one that its value is printed as. -/
theorem upperChar_digit {c : Char} {d : Nat} (h : Address.digitValue? 16 c = some d) :
    d < 16 ∧ upperChar c = [(digit d).toUpper] := by
  have hall : ∀ n < 128, ∀ d ∈ Address.digitValue? 16 (Char.ofNat n),
      d < 16 ∧ upperChar (Char.ofNat n) = [(digit d).toUpper] := by decide +kernel
  have hc := hall c.toNat (toNat_lt_of_digit h) d
  rw [Char.ofNat_toNat] at hc
  exact hc h

theorem digitValue_digit : ∀ d < 16, Address.digitValue? 16 (digit d).toUpper = some d := by
  decide +kernel

theorem bytePair_pair {h l : Nat} (hh : h < 16) (hl : l < 16) :
    bytePair (16*h+l).toUInt8 = [(digit h).toUpper, (digit l).toUpper] := by
  have hn : (16*h+l).toUInt8.toNat = 16*h+l := Nat.mod_eq_of_lt (by omega)
  have hd : (16*h+l)/16 = h := by omega
  have hm : (16*h+l)%16 = l := by omega
  rw [bytePair, hn, hd, hm]

theorem flatMap_of_spelled (cs : List Char) {bs : List UInt8} (h : spelled? cs = some bs) :
    cs.flatMap upperChar = bs.flatMap bytePair := by
  fun_induction spelled? cs generalizing bs with
  | case1 =>
    cases h
    rfl
  | case2 c => cases h
  | case3 hi lo cs x l rest hrest hlo hhi ih =>
    cases h
    obtain ⟨hx, hhi⟩ := upperChar_digit hhi
    obtain ⟨hl, hlo⟩ := upperChar_digit hlo
    rw [List.flatMap_cons, List.flatMap_cons, List.flatMap_cons, hhi, hlo, bytePair_pair hx hl,
      ih hrest]
    rfl
  | case4 => cases h

/-- The upper-case text of an address is what its bytes are printed as. -/
theorem upper_of_spelled {id : String} {bs : List UInt8} (h : spelled? id.toList = some bs) :
    upper id = compactHex bs := by
  rw [upper, compactHex, flatMap_of_spelled _ h]

theorem spelled_pairs (bs : List UInt8) : spelled? (bs.flatMap bytePair) = some bs := by
  induction bs with
  | nil => rfl
  | cons b bs ih =>
    have hb := b.toNat_lt
    have hh := digitValue_digit (b.toNat/16) (by omega)
    have hl := digitValue_digit (b.toNat%16) (by omega)
    have hn : 16*(b.toNat/16)+b.toNat%16 = b.toNat := by omega
    simp [bytePair, spelled?, hh, hl, ih, hn]

/-- No two addresses are printed alike. -/
theorem compactHex_inj {as bs : List UInt8} (h : compactHex as = compactHex bs) : as = bs := by
  have ha := spelled_pairs as
  rw [String.ofList_injective h, spelled_pairs] at ha
  exact (Option.some.inj ha).symm

end Text

namespace Packet

/-- A packet that is malformed or comes from another address. -/
def isStray (address bs : List UInt8) : Bool :=
  match parse bs with
  | .error _ => true
  | .ok (.sessionId _ _ _) => (bs.drop 7).take 6 != address
  | .ok (.registered _) => (bs.drop 5).take 6 != address
  | .ok (.echo _) => (bs.drop 5).take 6 != address
  | .ok (.acknowledged _ _) => false

theorem ofLength_ok {bs : List UInt8} {least : Nat} {what : String} {p q : Packet}
    (h : ofLength bs least what p = .ok q) : p = q := by
  unfold ofLength at h
  split at h
  · cases h
  · exact Except.ok.inj h

/-- A packet names its sender by the bytes that its kind has for it. -/
theorem parse_sender {bs : List UInt8} {p : Packet} (h : parse bs = .ok p) :
    (∀ sender sid1 sid2, p = .sessionId sender sid1 sid2 → sender = mac bs 7) ∧
    (∀ sender, p = .registered sender → sender = mac bs 5) ∧
    ∀ sender, p = .echo sender → sender = mac bs 5 := by
  unfold parse at h
  split at h
  · -- one branch for each kind, in the order of the parser
    split_ifs at h
    · simp [← ofLength_ok h]
    · simp [← ofLength_ok h]
    · simp [← ofLength_ok h]
    · simp [← ofLength_ok h]
  · cases h

end Packet

namespace Session

variable {s : Session} {address : List UInt8}

/-- A stray changes nothing and is not answered. -/
theorem take_stray (hb : s.bridge = Text.compactHex address) (now : Nat) {bs : List UInt8}
    (h : Packet.isStray address bs = true) : s.take now (.packet bs) = (s, none) := by
  have foreign : ∀ start, (bs.drop start).take 6 ≠ address → Packet.mac bs start ≠ s.bridge := by
    intro start hne he
    exact hne (Text.compactHex_inj (he.trans hb))
  unfold Packet.isStray at h
  cases hp : Packet.parse bs with
  | error fault => simp [take, receive, hp]
  | ok p =>
    obtain ⟨hs, hr, he⟩ := Packet.parse_sender hp
    rw [hp] at h
    cases p with
    | sessionId sender sid1 sid2 =>
      have hm := foreign 7 (by simpa using h)
      simp [take, receive, hp, apply, hs _ _ _ rfl, hm]
    | registered sender =>
      have hm := foreign 5 (by simpa using h)
      simp [take, receive, hp, apply, hr _ rfl, hm]
    | echo sender =>
      have hm := foreign 5 (by simpa using h)
      simp [take, receive, hp, apply, he _ rfl, hm]
    | acknowledged sequence status => cases h

end Session

end LightBridge
