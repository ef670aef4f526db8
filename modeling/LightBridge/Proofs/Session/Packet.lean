import LightBridge.Proofs.Session.Address
import LightBridge.Receiver

/-!
# What is understood as a packet

Four kinds of packets are understood, each told by its first byte. A packet is
as long as it announces and long enough for its kind, so every field lies within
it. What follows is not looked at, and a packet that fills more than the buffer
of the receive loop has all its fields in what is left of it.
-/

set_option autoImplicit false

namespace LightBridge

/-! ## The text of an address -/

namespace Text

def upperDigits : List Char :=
  ['0', '1', '2', '3', '4', '5', '6', '7', '8', '9', 'A', 'B', 'C', 'D', 'E', 'F']

/-- The text has two upper-case digits for each byte, and reads as these bytes. -/
structure Spells (text : String) (bytes : List UInt8) : Prop where
  length : text.toList.length = 2*bytes.length
  upper : ∀ c ∈ text.toList, c ∈ upperDigits
  read : spelled? text.toList = some bytes

theorem digit_upper : ∀ d < 16, (digit d).toUpper ∈ upperDigits := by decide

theorem length_pairs (bytes : List UInt8) : (bytes.flatMap bytePair).length = 2*bytes.length := by
  induction bytes with
  | nil => rfl
  | cons b bytes ih =>
    rw [List.flatMap_cons, List.length_append, ih]
    simp only [bytePair, List.length_cons, List.length_nil]
    omega

theorem compactHex_spells (bytes : List UInt8) : Spells (compactHex bytes) bytes := by
  have hlist : (compactHex bytes).toList = bytes.flatMap bytePair := by simp [compactHex]
  constructor
  · rw [hlist]
    exact length_pairs bytes
  · rw [hlist]
    intro c hc
    obtain ⟨b, _, hc⟩ := List.mem_flatMap.mp hc
    have hb := b.toNat_lt
    rcases List.mem_pair.mp hc with rfl | rfl
    · exact digit_upper _ (by omega)
    · exact digit_upper _ (by omega)
  · rw [hlist]
    exact spelled_pairs bytes

end Text

namespace Packet

/-! ## The four formats -/

inductive Kind where
  | sessionId
  | registered
  | echo
  | acknowledged
  deriving DecidableEq, Repr

namespace Kind

def lead : Kind → UInt8
  | sessionId => 0x28
  | registered => 0x80
  | echo => 0xD8
  | acknowledged => 0x88

def least : Kind → Nat
  | sessionId => 21
  | registered => 11
  | echo => 11
  | acknowledged => 8

/-- The fields of a packet, each at its place. -/
def read (k : Kind) (bs : List UInt8) (h : k.least ≤ bs.length) : Packet :=
  match k, h with
  | .sessionId, h =>
    have h : 20 < bs.length := h
    .sessionId (Text.compactHex [bs[7], bs[8], bs[9], bs[10], bs[11], bs[12]]) bs[19] bs[20]
  | .registered, h =>
    have h : 10 < bs.length := h
    .registered (Text.compactHex [bs[5], bs[6], bs[7], bs[8], bs[9], bs[10]])
  | .echo, h =>
    have h : 10 < bs.length := h
    .echo (Text.compactHex [bs[5], bs[6], bs[7], bs[8], bs[9], bs[10]])
  | .acknowledged, h =>
    have h : 7 < bs.length := h
    .acknowledged bs[6] bs[7]

end Kind

/-- The bytes are a packet of the kind: byte 0 tells the kind, three zeros follow,
and byte 4 announces no more than there is. -/
structure Formed (k : Kind) (bs : List UInt8) : Prop where
  framed : 5 ≤ bs.length
  lead : bs[0] = k.lead
  zeros : bs[1] = 0 ∧ bs[2] = 0 ∧ bs[3] = 0
  complete : max (bs[4].toNat+5) k.least ≤ bs.length

theorem Formed.enough {k : Kind} {bs : List UInt8} (h : Formed k bs) : k.least ≤ bs.length :=
  le_trans (le_max_right _ _) h.complete

theorem six_bytes {bs : List UInt8} {start : Nat} (h : start+6 ≤ bs.length) :
    (bs.drop start).take 6 =
      [bs[start], bs[start+1], bs[start+2], bs[start+3], bs[start+4], bs[start+5]] := by
  rw [List.drop_eq_getElem_cons (by omega), List.drop_eq_getElem_cons (by omega),
    List.drop_eq_getElem_cons (by omega), List.drop_eq_getElem_cons (by omega),
    List.drop_eq_getElem_cons (by omega), List.drop_eq_getElem_cons (by omega)]
  rfl

theorem byte_eq {bs : List UInt8} {i : Nat} (h : i < bs.length) : byte bs i = bs[i] := by
  simp [byte, h]

theorem ofLength_enough {bs : List UInt8} {least : Nat}
    (h : max ((byte bs 4).toNat+5) least ≤ bs.length) (what : String) (p : Packet) :
    ofLength bs least what p = .ok p :=
  if_neg (Nat.not_lt.mpr h)

theorem length_of_ofLength {bs : List UInt8} {least : Nat} {what : String} {p q : Packet}
    (h : ofLength bs least what p = .ok q) : max ((byte bs 4).toNat+5) least ≤ bs.length := by
  unfold ofLength at h
  split at h
  · cases h
  · omega

theorem Formed.shape {k : Kind} {bs : List UInt8} (h : Formed k bs) :
    ∃ n rest, bs = k.lead::0::0::0::n::rest := by
  obtain ⟨hframed, hlead, ⟨h1, h2, h3⟩, -⟩ := h
  match bs, hframed with
  | _::_::_::_::n::rest, _ => exact ⟨n, rest, by simp_all⟩

theorem parse_formed {k : Kind} {bs : List UInt8} (h : Formed k bs) :
    parse bs = .ok (k.read bs h.enough) := by
  have hlong := h.enough
  have hframed := h.framed
  have hbyte : byte bs 4 = bs[4] := byte_eq hframed
  have hcomplete : max ((byte bs 4).toNat+5) k.least ≤ bs.length := hbyte ▸ h.complete
  obtain ⟨n, rest, hbs⟩ := h.shape
  cases k with
  | sessionId =>
    have hl : 21 ≤ bs.length := hlong
    have hparse : parse bs = ofLength bs Kind.sessionId.least "session ids"
        (.sessionId (mac bs 7) (byte bs 19) (byte bs 20)) := by rw [hbs]; rfl
    rw [hparse, ofLength_enough hcomplete, mac, six_bytes (by omega), byte_eq (by omega),
      byte_eq (by omega)]
    rfl
  | registered =>
    have hl : 11 ≤ bs.length := hlong
    have hparse : parse bs = ofLength bs Kind.registered.least "registration confirmation"
        (.registered (mac bs 5)) := by rw [hbs]; rfl
    rw [hparse, ofLength_enough hcomplete, mac, six_bytes (by omega)]
    rfl
  | echo =>
    have hl : 11 ≤ bs.length := hlong
    have hparse : parse bs = ofLength bs Kind.echo.least "keep alive" (.echo (mac bs 5)) := by
      rw [hbs]; rfl
    rw [hparse, ofLength_enough hcomplete, mac, six_bytes (by omega)]
    rfl
  | acknowledged =>
    have hl : 8 ≤ bs.length := hlong
    have hparse : parse bs = ofLength bs Kind.acknowledged.least "command confirmation"
        (.acknowledged (byte bs 6) (byte bs 7)) := by rw [hbs]; rfl
    rw [hparse, ofLength_enough hcomplete, byte_eq (by omega), byte_eq (by omega)]
    rfl

theorem formed_of_parse {bs : List UInt8} {p : Packet} (h : parse bs = .ok p) :
    ∃ k, Formed k bs := by
  unfold parse at h
  split at h
  case h_2 => cases h
  case h_1 lead n rest =>
    have formed : ∀ k : Kind, lead = k.lead →
        max (n.toNat+5) k.least ≤ (lead::0::0::0::n::rest).length →
        Formed k (lead::0::0::0::n::rest) :=
      fun k hlead hcomplete => ⟨by simp, hlead, ⟨rfl, rfl, rfl⟩, hcomplete⟩
    split_ifs at h with h28 h80 hD8 h88
    · exact ⟨.sessionId, formed _ h28 (length_of_ofLength h)⟩
    · exact ⟨.registered, formed _ h80 (length_of_ofLength h)⟩
    · exact ⟨.echo, formed _ hD8 (length_of_ofLength h)⟩
    · exact ⟨.acknowledged, formed _ h88 (length_of_ofLength h)⟩

/-! ## What follows a packet -/

variable {k : Kind} {bs : List UInt8}

/-- More bytes make no other packet: the announced length and every field lie
before them. -/
theorem Formed.append (h : Formed k bs) (more : List UInt8) : Formed k (bs ++ more) := by
  have hlong : bs.length ≤ (bs ++ more).length := by simp
  obtain ⟨hf, hlead, ⟨h1, h2, h3⟩, hcomplete⟩ := h
  refine ⟨hf.trans hlong, ?_, ⟨?_, ?_, ?_⟩, ?_⟩
  · rwa [List.getElem_append_left]
  · rwa [List.getElem_append_left]
  · rwa [List.getElem_append_left]
  · rwa [List.getElem_append_left]
  · rw [List.getElem_append_left]
    exact hcomplete.trans hlong

/-- No announced length exceeds 260 bytes. -/
theorem Formed.take (h : Formed k bs) {n : Nat} (hn : 260 ≤ n) : Formed k (bs.take n) := by
  obtain ⟨hf, hlead, ⟨h1, h2, h3⟩, hcomplete⟩ := h
  have hbyte := bs[4].toNat_lt
  have hleast : k.least ≤ 260 := by cases k <;> decide
  have hlength : (bs.take n).length = min n bs.length := List.length_take
  refine ⟨by omega, ?_, ⟨?_, ?_, ?_⟩, ?_⟩
  · rwa [List.getElem_take]
  · rwa [List.getElem_take]
  · rwa [List.getElem_take]
  · rwa [List.getElem_take]
  · rw [List.getElem_take]
    omega

theorem Kind.read_append (h : k.least ≤ bs.length) (more : List UInt8)
    (hm : k.least ≤ (bs ++ more).length) : k.read (bs ++ more) hm = k.read bs h := by
  cases k <;> grind [read, least]

theorem parse_append (h : Formed k bs) (more : List UInt8) : parse (bs ++ more) = parse bs := by
  rw [parse_formed (h.append more), parse_formed h, Kind.read_append h.enough]

theorem parse_cut (h : Formed k bs) : parse (Receiver.cut bs) = parse bs := by
  have hcut : Formed k (Receiver.cut bs) := h.take (by decide)
  have happend := parse_append hcut (bs.drop Receiver.bufferSize)
  rw [Receiver.cut, List.take_append_drop] at happend
  exact happend.symm

/-! ## Layouts -/

theorem parse_layouts (address : Vector UInt8 6) (sid1 sid2 : UInt8) :
    parse (sessionIdBytes address.toList sid1 sid2) =
      .ok (.sessionId (Text.compactHex address.toList) sid1 sid2) ∧
    parse (registeredBytes address.toList) = .ok (.registered (Text.compactHex address.toList)) ∧
    parse (echoBytes address.toList) = .ok (.echo (Text.compactHex address.toList)) := by
  obtain ⟨⟨bs⟩, hbs⟩ := address
  match bs, hbs with
  | [_, _, _, _, _, _], _ => exact ⟨rfl, rfl, rfl⟩

/-- Bytes are understood if and only if they are a packet of some kind, which is
then read from within them: addresses as upper-case digits, whatever the packet
was built with as it was. Neither more bytes nor the cut to the buffer change
what is read. -/
theorem parse_exact (bs : List UInt8) :
    ((∃ p, parse bs = .ok p) ↔ ∃ k, Formed k bs) ∧
    (∀ k, ∀ h : Formed k bs, parse bs = .ok (k.read bs h.enough)) ∧
    (∀ address, Text.Spells (Text.compactHex address) address) ∧
    (∀ (address : Vector UInt8 6) (sid1 sid2 : UInt8),
      parse (sessionIdBytes address.toList sid1 sid2) =
        .ok (.sessionId (Text.compactHex address.toList) sid1 sid2) ∧
      parse (registeredBytes address.toList) =
        .ok (.registered (Text.compactHex address.toList)) ∧
      parse (echoBytes address.toList) = .ok (.echo (Text.compactHex address.toList))) ∧
    (∀ sequence status,
      parse (acknowledgedBytes sequence status) = .ok (.acknowledged sequence status)) ∧
    ∀ p, parse bs = .ok p →
      (∀ more, parse (bs ++ more) = .ok p) ∧ parse (Receiver.cut bs) = .ok p := by
  refine ⟨⟨?_, ?_⟩, fun k h => parse_formed h, Text.compactHex_spells, parse_layouts,
    fun _ _ => rfl, ?_⟩
  · rintro ⟨p, h⟩
    exact formed_of_parse h
  · rintro ⟨k, h⟩
    exact ⟨_, parse_formed h⟩
  · intro p h
    obtain ⟨k, hk⟩ := formed_of_parse h
    exact ⟨fun more => (parse_append hk more).trans h, (parse_cut hk).trans h⟩

/-- The session bytes are read from a datagram that the buffer does not hold. -/
theorem parse_oversized :
    parse (Receiver.cut (sessionIdBytes [0xF0, 0xFE, 0x6B, 1, 2, 3] 0x5A 0x0C ++
      List.replicate 2000 0xFF)) = .ok (.sessionId "F0FE6B010203" 0x5A 0x0C) := by
  have hbuilt : parse (sessionIdBytes [0xF0, 0xFE, 0x6B, 1, 2, 3] 0x5A 0x0C) =
    .ok (.sessionId "F0FE6B010203" 0x5A 0x0C) := by rfl
  obtain ⟨-, -, -, -, -, hlong⟩ :=
    parse_exact (sessionIdBytes [0xF0, 0xFE, 0x6B, 1, 2, 3] 0x5A 0x0C)
  obtain ⟨-, -, -, -, -, hcut⟩ :=
    parse_exact (sessionIdBytes [0xF0, 0xFE, 0x6B, 1, 2, 3] 0x5A 0x0C ++ List.replicate 2000 0xFF)
  exact (hcut _ ((hlong _ hbuilt).1 _)).2

end Packet

end LightBridge
