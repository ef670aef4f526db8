import LightBridge.Config.Json
import LightBridge.Proofs.Address.Spelling
import LightBridge.Proofs.Json.Written

/-!
# Saved configurations

A configuration that was saved reads back as it was, valid or not. The members
may have come into another order by then, and others may have joined them whose
names mean nothing here.
-/

set_option autoImplicit false

namespace LightBridge

open Json

namespace Config

/-! ## Reading the values -/

theorem reads_natural {n most : Nat} (hmost : most ≤ maxSignificand) (hn : n ≤ most) :
    Reads (readNatural most) (Value.integer n).chars n := by
  intro rest hr
  rw [integer_chars, readNatural, reads_integer hmost hn rest hr]
  rfl

theorem reads_byte (x : UInt8) : Reads readByte (Value.integer x.toNat).chars x := by
  intro rest hr
  rw [readByte, reads_natural (by decide) (Nat.le_of_lt_succ x.toNat_lt) rest hr]
  simp [Except.map]

theorem reads_port (x : UInt16) : Reads readPort (Value.integer x.toNat).chars x := by
  intro rest hr
  rw [readPort, reads_natural (by decide) (Nat.le_of_lt_succ x.toNat_lt) rest hr]
  simp [Except.map]

theorem reads_long (x : UInt64) : Reads readLong (Value.integer x.toNat).chars x := by
  intro rest hr
  rw [readLong, reads_natural (by decide) (Nat.le_sub_one_of_lt x.toNat_lt) rest hr]
  simp [Except.map]

theorem reads_host (a : Address) : Reads readHost (Value.text a.text).chars a := by
  intro rest hr
  rw [Value.chars, readHost, reads_text a.text rest hr]
  simp [Address.parse?_text]

theorem reads_id (s : String) : Reads (readOption readText) (Value.text s).chars (some s) :=
  reads_option (reads_text s) ⟨_, _, rfl, by decide, by decide, by decide⟩

theorem reads_protocol (p : Protocol) :
    Reads readProtocol (Value.text (protocolText p)).chars p := by
  intro rest hr
  have hname := reads_text (protocolText p) rest hr
  simp only [Value.chars, textLiteral, List.cons_append] at hname ⊢
  rw [readProtocol, skipBlank_cons (by decide)]
  simp only [readProtocolName, hname]
  cases p <;> rfl

theorem reads_password (pw : UInt8 × UInt8) :
    Reads readPassword (Value.list [.integer pw.1.toNat, .integer pw.2.toNat]).chars pw := by
  intro rest _
  have hsecond : StopsAt isNumeral (']'::rest) := stopsAt_cons (by decide) rest
  have hfirst : StopsAt isNumeral (',' :: ((Value.integer pw.2.toNat).chars ++ ']'::rest)) :=
    stopsAt_cons (by decide) _
  have htext : (Value.list [.integer pw.1.toNat, .integer pw.2.toNat]).chars ++ rest =
      '[' :: ((Value.integer pw.1.toNat).chars ++
        ',' :: ((Value.integer pw.2.toNat).chars ++ ']'::rest)) := by
    simp [Value.chars, listChars]
  rw [htext, readPassword, valueStart_cons (by decide)]
  simp only [readItem_first _ (reads_byte pw.1) (exists_starts_integer _) hfirst,
    readItem_next _ (reads_byte pw.2) (exists_starts_integer _) hsecond]
  rw [closeList, skipBlank_cons (by decide)]
  rfl

/-! ## The members -/

def members (c : Config) : List (String × Value) :=
  [("host", .text c.host.text)] ++
  optional "id" (c.id.map .text) ++
  [("protocol", .text (protocolText c.protocol))] ++
  optional "port" (c.port.map fun p => .integer p.toNat) ++
  [("password", .list [.integer c.password.1.toNat, .integer c.password.2.toNat]),
    ("repeat", .integer c.copies.toNat),
    ("delayMs", .integer c.delay.toNat),
    ("refreshSecs", .integer c.refresh.toNat)]

theorem toJson_members (c : Config) : c.toJson = .record c.members := rfl

theorem mem_optional {key : String} {v : Option Value} {m : String × Value} :
    m ∈ optional key v ↔ ∃ x, v = some x ∧ m = (key, x) := by
  cases v <;> simp [optional]

/-- The names that mean something. -/
def memberNames : List String :=
  ["host", "id", "protocol", "port", "password", "repeat", "delayMs", "refreshSecs"]

theorem members_sublist (c : Config) : (c.members.map (·.1)).Sublist memberNames := by
  have hoptional : ∀ (key : String) (v : Option Value),
      ((optional key v).map (·.1)).Sublist [key] := by
    intro key v
    cases v <;> simp [optional]
  simp only [members, List.map_append]
  exact ((((List.Sublist.refl ["host"]).append (hoptional "id" _)).append
    (List.Sublist.refl ["protocol"])).append (hoptional "port" _)).append
    (List.Sublist.refl ["password", "repeat", "delayMs", "refreshSecs"])

theorem members_names {c : Config} {m : String × Value} (hm : m ∈ c.members) :
    m.1 ∈ memberNames := c.members_sublist.subset (List.mem_map_of_mem hm)

theorem members_nodup (c : Config) : (c.members.map (·.1)).Nodup :=
  c.members_sublist.nodup (by decide)

/-- What the members of these names say of a configuration. -/
def Draft.partly (c : Config) (seen : List String) : Draft where
  host := if "host" ∈ seen then some c.host else none
  id := if "id" ∈ seen then some c.id else none
  protocol := if "protocol" ∈ seen then some c.protocol else none
  port := if "port" ∈ seen then some c.port else none
  password := if "password" ∈ seen then some c.password else none
  copies := if "repeat" ∈ seen then some c.copies else none
  delay := if "delayMs" ∈ seen then some c.delay else none
  refresh := if "refreshSecs" ∈ seen then some c.refresh else none

/-- A saved member says what is saved; its name decides which part of it. -/
theorem member_takes {c : Config} {seen : List String} {m : String × Value} (hm : m ∈ c.members)
    (hseen : m.1 ∉ seen) :
    Takes Draft.member (.partly c seen) (m.1, m.2.chars) (.partly c (m.1::seen)) := by
  intro rest hr
  refine ⟨rest, ?_, rfl⟩
  simp only [members, List.mem_append, List.mem_cons, List.not_mem_nil, or_false, mem_optional,
    Option.map_eq_some_iff] at hm
  rcases hm with (((rfl | ⟨_, ⟨id, hid, rfl⟩, rfl⟩) | rfl) | ⟨_, ⟨port, hport, rfl⟩, rfl⟩) |
    rfl | rfl | rfl | rfl
  · have hread := readField_unseen (reads_host c.host) hr
    simp [Draft.member, Draft.partly, hseen, hread, Except.map]
  · have hread := readField_unseen (reads_id id) hr
    simp [Draft.member, Draft.partly, hseen, hread, Except.map, hid]
  · have hread := readField_unseen (reads_protocol c.protocol) hr
    simp [Draft.member, Draft.partly, hseen, hread, Except.map]
  · have hread := readField_unseen (reads_option (reads_port port) (exists_starts_integer _)) hr
    simp [Draft.member, Draft.partly, hseen, hread, Except.map, hport]
  · have hread := readField_unseen (reads_password c.password) hr
    simp [Draft.member, Draft.partly, hseen, hread, Except.map]
  · have hread := readField_unseen (reads_byte c.copies) hr
    simp [Draft.member, Draft.partly, hseen, hread, Except.map]
  · have hread := readField_unseen (reads_long c.delay) hr
    simp [Draft.member, Draft.partly, hseen, hread, Except.map]
  · have hread := readField_unseen (reads_long c.refresh) hr
    simp [Draft.member, Draft.partly, hseen, hread, Except.map]

/-- A member of another name changes nothing. -/
theorem other_takes (c : Config) (seen : List String) {m : String × List Char}
    (hm : m.1 ∉ memberNames) (h : IsJson m.2) :
    Takes Draft.member (.partly c seen) m (.partly c (m.1::seen)) := by
  intro rest hr
  obtain ⟨rest', hskip, hrest⟩ := h.skipField hr
  have hne : ∀ name ∈ memberNames, m.1 ≠ name := fun name hn heq => hm (heq ▸ hn)
  have hmem : ∀ name ∈ memberNames, (name ∈ m.1::seen) = (name ∈ seen) :=
    fun name hn => by simp [(hne name hn).symm]
  simp only [memberNames, List.forall_mem_cons] at hne hmem
  have hsame : Draft.partly c (m.1::seen) = .partly c seen := by simp only [Draft.partly, hmem]
  exact ⟨rest', by simp [hsame, Draft.member, hne, hskip, Except.map], hrest⟩

/-- The members as they are saved. -/
def savedMembers (c : Config) : List (String × List Char) :=
  c.members.map fun m => (m.1, m.2.chars)

/-- Members tell what is saved, if none of a name that means something comes twice. -/
theorem drafts_partly {c : Config} {ms : List (String × List Char)}
    (h : ∀ m ∈ ms, m ∈ c.savedMembers ∨ m.1 ∉ memberNames ∧ IsJson m.2)
    (honce : ms.Pairwise fun m m' => m.1 = m'.1 → m.1 ∉ memberNames) {seen : List String}
    (hseen : ∀ m ∈ ms, m.1 ∈ seen → m.1 ∉ memberNames) :
    Drafts Draft.member (.partly c seen) ms (.partly c ((ms.map (·.1)).reverse ++ seen)) := by
  induction ms generalizing seen with
  | nil => exact .nil _
  | cons m ms ih =>
    rw [List.forall_mem_cons] at h hseen
    rw [List.pairwise_cons] at honce
    have htakes : Takes Draft.member (.partly c seen) m (.partly c (m.1::seen)) := by
      rcases h.1 with hsaved | ⟨hother, hjson⟩
      · obtain ⟨x, hx, rfl⟩ := List.mem_map.mp hsaved
        exact member_takes hx fun hs => hseen.1 hs (members_names hx)
      · exact other_takes c seen hother hjson
    have hseen' : ∀ x ∈ ms, x.1 ∈ m.1::seen → x.1 ∉ memberNames := by
      intro x hx hs
      rcases List.mem_cons.mp hs with heq | hs
      · rw [heq]
        exact honce.1 x hx heq.symm
      · exact hseen.2 x hx hs
    have hmore := ih h.2 honce.2 hseen'
    rw [List.map_cons, List.reverse_cons, List.append_assoc, List.singleton_append]
    exact .cons htakes hmore

/-- Nothing is lost once all members are read; what was not saved has its default. -/
theorem finish_partly {c : Config} {seen : List String} (h : ∀ m ∈ c.members, m.1 ∈ seen) :
    (Draft.partly c seen).finish = .ok c := by
  have hid : (if "id" ∈ seen then some c.id else none).getD none = c.id := by
    split
    · rfl
    · rename_i hn
      cases hid : c.id with
      | none => rfl
      | some id => exact absurd (h ("id", .text id) (by simp [members, optional, hid])) hn
  have hport : (if "port" ∈ seen then some c.port else none).getD none = c.port := by
    split
    · rfl
    · rename_i hn
      cases hport : c.port with
      | none => rfl
      | some port =>
        exact absurd (h ("port", .integer port.toNat) (by simp [members, optional, hport])) hn
  simp only [members, List.forall_mem_append, List.forall_mem_cons] at h
  simp [Draft.finish, Draft.partly, h, hid, hport]

/-- The members that a record adds leave each name that means something with the
one member that was saved. -/
theorem named_once {c : Config} {ms extras : List (String × List Char)}
    (hextras : ∀ m ∈ extras, m.1 ∉ memberNames) (hms : ms.Perm (c.savedMembers ++ extras)) :
    ms.Pairwise fun m m' => m.1 = m'.1 → m.1 ∉ memberNames := by
  have hsymm : ∀ {m m' : String × List Char}, (m.1 = m'.1 → m.1 ∉ memberNames) →
      m'.1 = m.1 → m'.1 ∉ memberNames := fun h heq => heq ▸ h heq.symm
  rw [hms.pairwise_iff hsymm, List.pairwise_append]
  refine ⟨?_, ?_, ?_⟩
  · have hnodup : c.savedMembers.Pairwise fun m m' => m.1 ≠ m'.1 := by
      rw [savedMembers, List.pairwise_map]
      exact List.pairwise_map.mp c.members_nodup
    exact hnodup.imp fun hne heq => absurd heq hne
  · exact List.pairwise_of_forall_mem_list fun m hm m' _ _ => hextras m hm
  · intro m _ m' hm' heq
    rw [heq]
    exact hextras m' hm'

/-- A record reads as what is made of its members one after the other. -/
theorem ofJson_drafts {c : Config} {ms : List (String × List Char)} {d : Draft}
    (h : Drafts Draft.member .empty ms d) (hfinish : d.finish = .ok c) :
    ofJson (String.ofList (recordText ms)) = .ok c := by
  have hlen : ms.length < ([','].intercalate (ms.map memberText) ++ ['\x7d']).length+1 := by
    have hparts := length_parts (ms.map memberText)
    simp at hparts ⊢
    omega
  have hmembers : readMembersOf ([','].intercalate (ms.map memberText) ++ ['\x7d']) =
      .ok (c, []) := by
    rw [readMembersOf, readMembers_all h hlen []]
    simp only [hfinish]
    rfl
  rw [ofJson, readDocument, String.toList_ofList, readRecord, recordText,
    valueStart_cons (by decide)]
  simp only [hmembers]
  rfl

theorem ofJson_recordText {c : Config} {ms extras : List (String × List Char)}
    (hextras : ∀ m ∈ extras, m.1 ∉ memberNames ∧ IsJson m.2)
    (hms : ms.Perm (c.savedMembers ++ extras)) :
    ofJson (String.ofList (recordText ms)) = .ok c := by
  have hall : ∀ m ∈ ms, m ∈ c.savedMembers ∨ m.1 ∉ memberNames ∧ IsJson m.2 := by
    intro m hm
    rcases List.mem_append.mp (hms.mem_iff.mp hm) with hs | he
    · exact .inl hs
    · exact .inr (hextras m he)
  have honce := named_once (fun m hm => (hextras m hm).1) hms
  have hdrafts : Drafts Draft.member (.partly c []) ms (.partly c ((ms.map (·.1)).reverse ++ [])) :=
    drafts_partly hall honce (by simp)
  refine ofJson_drafts hdrafts (finish_partly fun m hm => ?_)
  have hsaved : (m.1, m.2.chars) ∈ ms :=
    hms.mem_iff.mpr (List.mem_append_left _ (List.mem_map_of_mem hm))
  simpa using ⟨_, hsaved⟩

/-- A configuration reads back from the text that it is saved as. So it does from
any record of the saved members, in any order, and others whose names mean
nothing here, be they written from values or given as text. -/
theorem saved_reads_back (c : Config) :
    ofJson c.toJson.render = .ok c ∧
    (∀ ms extras : List (String × Value), (∀ m ∈ extras, m.1 ∉ memberNames) →
      ms.Perm (c.members ++ extras) → ofJson (Value.record ms).render = .ok c) ∧
    ∀ ms extras : List (String × List Char), (∀ m ∈ extras, m.1 ∉ memberNames ∧ IsJson m.2) →
      ms.Perm (c.savedMembers ++ extras) → ofJson (String.ofList (recordText ms)) = .ok c := by
  have hvalues : ∀ ms extras : List (String × Value), (∀ m ∈ extras, m.1 ∉ memberNames) →
      ms.Perm (c.members ++ extras) → ofJson (Value.record ms).render = .ok c := by
    intro ms extras hextras hms
    let chars := fun m : String × Value => (m.1, m.2.chars)
    have hjson : ∀ m ∈ extras.map chars, m.1 ∉ memberNames ∧ IsJson m.2 :=
      List.forall_mem_map.mpr fun m hm => ⟨hextras m hm, isJson_chars m.2⟩
    have hperm : (ms.map chars).Perm (c.savedMembers ++ extras.map chars) := by
      have h := hms.map chars
      rwa [List.map_append] at h
    rw [Value.render, record_chars]
    exact ofJson_recordText hjson hperm
  refine ⟨?_, hvalues, fun ms extras => ofJson_recordText⟩
  rw [toJson_members]
  exact hvalues c.members [] (List.forall_mem_nil _) (by rw [List.append_nil])

/-- A configuration that no connection accepts, of a bridge with an odd id. -/
def odd : Config :=
  ⟨.v6 ⟨#[0xFE80, 0, 0, 0, 1, 0, 0, 0], rfl⟩, some "\"\n", .v6, none, (1, 255), 0, 201, 0⟩

/-- Its members in reverse, after one that means nothing here. -/
def oddText : String :=
  "\x7b\"hosts\":[null, -0.5],\"refreshSecs\":0,\"delayMs\":201,\"repeat\":0," ++
    "\"password\":[1,255],\"protocol\":\"V6\",\"id\":\"\\\"\\n\",\"host\":\"fe80::1:0:0:0\"\x7d"

theorem odd_reads_back : ofJson oddText = .ok odd := by
  have hfraction : IsFraction ['.', '5'] := .present ⟨by simp, by simp [isDigit]⟩
  have hnumber : IsNumber ['0', '.', '5'] := .parts .zero hfraction .absent
  have hitem : IsJson ([' '] ++ (['-', '0', '.', '5'] ++ [])) :=
    .padded (by simp [Blank, Json.isBlank]) (.negative hnumber) (List.forall_mem_nil _)
  have hitems : ∀ v ∈ [['n', 'u', 'l', 'l'], [' ', '-', '0', '.', '5']], IsJson v := by
    simpa using ⟨IsJson.null, hitem⟩
  have hlist : IsJson "[null, -0.5]".toList := .list (List.forall_mem_nil _) hitems
  have hextras : ∀ m ∈ [("hosts", "[null, -0.5]".toList)], m.1 ∉ memberNames ∧ IsJson m.2 := by
    simpa using ⟨by decide, hlist⟩
  have hread := (saved_reads_back odd).2.2 _ _ hextras (List.reverse_perm _)
  have htext : String.ofList (recordText (odd.savedMembers ++
      [("hosts", "[null, -0.5]".toList)]).reverse) = oddText := by decide +kernel
  exact (congrArg ofJson htext.symm).trans hread

end Config
end LightBridge
