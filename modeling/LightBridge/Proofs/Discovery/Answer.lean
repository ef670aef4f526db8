import LightBridge.Discovery.Answer
import LightBridge.Proofs.Text.Utf8
import Mathlib.Data.List.DropRight

/-!
# The grammar of answers

An answer is a text, apart from the padding at its end. Its id stands between
the first comma and the next one or the end, and has twelve bytes. What is named
after a second comma, up to the next one or the end, is a model. All other bytes
are refused, either as no text or with the text that they are.
-/

set_option autoImplicit false

namespace LightBridge

namespace Text

/-! ## Fields -/

/-- The field ends at the first separator, or where the text ends. -/
structure UpTo (separator : Char) (text field rest : List Char) : Prop where
  whole : text = field ++ rest
  free : separator ∉ field
  ending : rest = [] ∨ ∃ more, rest = separator::more

theorem fields_free {separator : Char} {field : List Char} (h : separator ∉ field) :
    fields separator field = [field] := by
  induction field with
  | nil => rfl
  | cons c field ih =>
    rw [List.mem_cons, not_or] at h
    rw [fields, if_neg (Ne.symm h.1), ih h.2]

theorem fields_separated {separator : Char} {field : List Char} (h : separator ∉ field)
    (more : List Char) :
    fields separator (field ++ separator::more) = field :: fields separator more := by
  induction field with
  | nil => exact if_pos rfl
  | cons c field ih =>
    rw [List.mem_cons, not_or] at h
    rw [List.cons_append, fields, if_neg (Ne.symm h.1), ih h.2]

/-- The fields behind a separator, if there is one. -/
def fieldsBehind (separator : Char) : List Char → List (List Char)
  | [] => []
  | _::more => fields separator more

theorem UpTo.fields_eq {separator : Char} {text field rest : List Char}
    (h : UpTo separator text field rest) :
    fields separator text = field :: fieldsBehind separator rest := by
  rw [h.whole]
  rcases h.ending with rfl | ⟨more, rfl⟩
  · rw [List.append_nil, fields_free h.free, fieldsBehind]
  · rw [fields_separated h.free, fieldsBehind]

theorem UpTo.unique {separator : Char} {text field rest field' rest' : List Char}
    (h : UpTo separator text field rest) (h' : UpTo separator text field' rest') :
    field = field' :=
  List.head_eq_of_cons_eq (h.fields_eq.symm.trans h'.fields_eq)

theorem exists_upTo (separator : Char) (text : List Char) :
    ∃ field rest, UpTo separator text field rest := by
  induction text with
  | nil => exact ⟨[], [], rfl, List.not_mem_nil, .inl rfl⟩
  | cons c text ih =>
    by_cases hc : c = separator
    · exact ⟨[], c::text, rfl, List.not_mem_nil, .inr ⟨text, by rw [hc]⟩⟩
    · obtain ⟨field, rest, h⟩ := ih
      exact ⟨c::field, rest, by rw [h.whole, List.cons_append],
        List.not_mem_cons_of_ne_of_not_mem (Ne.symm hc) h.free, h.ending⟩

/-! ## Padding -/

/-- The text is followed by nothing but characters of the class, and does not
end in one. -/
structure Trims (p : Char → Bool) (cs text : List Char) : Prop where
  padded : ∃ padding, cs = text ++ padding ∧ ∀ c ∈ padding, p c = true
  last : ∀ c ∈ text.getLast?, p c = false

variable {p : Char → Bool}

theorem dropTrailing_trims (p : Char → Bool) (cs : List Char) : Trims p cs (dropTrailing p cs) := by
  constructor
  · exact ⟨cs.rtakeWhile p, List.rdropWhile_append_rtakeWhile.symm,
      fun _ => List.mem_rtakeWhile_imp⟩
  · intro c hc
    obtain ⟨hne, rfl⟩ := List.mem_getLast?_eq_getLast hc
    exact Bool.eq_false_iff.mpr (List.rdropWhile_last_not p cs hne)

theorem dropTrailing_padded {padding : List Char} (h : ∀ c ∈ padding, p c = true)
    (cs : List Char) : dropTrailing p (cs ++ padding) = dropTrailing p cs := by
  rw [dropTrailing, List.reverse_append, List.dropWhile_append_of_pos (by simpa using h),
    dropTrailing]

theorem dropTrailing_self {cs : List Char} (h : ∀ c ∈ cs.getLast?, p c = false) :
    dropTrailing p cs = cs :=
  List.rdropWhile_eq_self_iff.mpr fun hne =>
    Bool.eq_false_iff.mp (h _ (List.getLast_mem_getLast? hne))

/-- Only the last piece is trimmed, unless nothing is left of it. -/
theorem dropTrailing_append {ds : List Char} (h : ∃ c ∈ ds, p c = false) (cs : List Char) :
    dropTrailing p (cs ++ ds) = cs ++ dropTrailing p ds := by
  obtain ⟨c, hm, hc⟩ := h
  have hleft : (ds.reverse.dropWhile p).isEmpty = false := by
    rw [List.isEmpty_eq_false_iff, Ne, List.dropWhile_eq_nil_iff]
    exact fun hall => by simp [hall c (List.mem_reverse.mpr hm)] at hc
  rw [dropTrailing, List.reverse_append, List.dropWhile_append, hleft]
  simp [dropTrailing]

end Text

namespace Discovered

open Text

/-- The part between the first comma and the next one or the end, and what is
left from there on. -/
def Names (text id rest : List Char) : Prop :=
  ∃ address tail, UpTo ',' text address (','::tail) ∧ UpTo ',' tail id rest

/-- A second comma is followed by a text that is not empty, up to the next comma
or the end. -/
def NamesModel (rest : List Char) : Prop :=
  ∃ tail model more, rest = ','::tail ∧ UpTo ',' tail model more ∧ model ≠ []

/-- The protocol that is read off what follows an id. -/
def Speaks (rest : List Char) (protocol : Protocol) : Prop :=
  NamesModel rest ∧ protocol = .v6 ∨ ¬ NamesModel rest ∧ protocol = .v3

/-! ## What is read -/

theorem exists_names {text : List Char} (h : ',' ∈ text) : ∃ id rest, Names text id rest := by
  obtain ⟨address, rest, ha⟩ := exists_upTo ',' text
  rcases ha.ending with rfl | ⟨tail, rfl⟩
  · rw [ha.whole, List.append_nil] at h
    exact absurd h ha.free
  · obtain ⟨id, rest, hi⟩ := exists_upTo ',' tail
    exact ⟨id, rest, address, tail, ha, hi⟩

theorem speaks_nil : Speaks [] .v3 := by
  refine .inr ⟨?_, rfl⟩
  rintro ⟨tail, model, more, he, -⟩
  cases he

theorem speaks_protocolOf {tail id rest : List Char} (h : UpTo ',' tail id rest) :
    Speaks rest (protocolOf (fieldsBehind ',' rest)) := by
  rcases h.ending with rfl | ⟨more, rfl⟩
  · exact speaks_nil
  · obtain ⟨model, others, hm⟩ := exists_upTo ',' more
    rw [fieldsBehind, hm.fields_eq]
    cases model with
    | cons c model =>
      exact .inl ⟨⟨more, c::model, others, rfl, hm, List.cons_ne_nil c model⟩, rfl⟩
    | nil =>
      refine .inr ⟨?_, rfl⟩
      rintro ⟨tail', model', others', he, hm', hne⟩
      obtain rfl : more = tail' := List.tail_eq_of_cons_eq he
      exact hne (hm.unique hm').symm

theorem ofText_named {text id rest : List Char} (h : Names text id rest) (source : Address) :
    ∃ protocol, Speaks rest protocol ∧ ofText text source =
      if (utf8Bytes id).length = 12 then .ok ⟨source, String.ofList id, protocol⟩
      else .error (refuse text) := by
  obtain ⟨address, tail, ha, hi⟩ := h
  have hfields : fields ',' text = address :: id :: fieldsBehind ',' rest := by
    rw [ha.fields_eq, fieldsBehind, hi.fields_eq]
  refine ⟨_, speaks_protocolOf hi, ?_⟩
  simp only [ofText, hfields, utf8ByteSize_ofList, idSize]

theorem ofText_unnamed {text : List Char} (h : ',' ∉ text) (source : Address) :
    ofText text source = .error (refuse text) := by
  rw [ofText, fields_free h]

theorem Speaks.unique {rest : List Char} {p q : Protocol} (hp : Speaks rest p)
    (hq : Speaks rest q) : p = q := by
  rcases hp with ⟨hm, rfl⟩ | ⟨hm, rfl⟩ <;> rcases hq with ⟨hn, rfl⟩ | ⟨hn, rfl⟩
  · rfl
  · exact absurd hm hn
  · exact absurd hn hm
  · rfl

/-- The text is an answer of the bridge at that address. -/
structure Reads (text : List Char) (source : Address) (bridge : Discovered) : Prop where
  address : bridge.address = source
  named : ∃ rest, Names text bridge.id.toList rest ∧ Speaks rest bridge.protocol
  size : (utf8Bytes bridge.id.toList).length = 12

variable {text : List Char} {source : Address}

theorem Names.reads {id rest : List Char} (h : Names text id rest) {protocol : Protocol}
    (hs : Speaks rest protocol) (hsize : (utf8Bytes id).length = 12) (source : Address) :
    Reads text source ⟨source, String.ofList id, protocol⟩ :=
  ⟨rfl, ⟨rest, by simpa using h, hs⟩, by simpa using hsize⟩

theorem exists_reads_iff :
    (∃ bridge, Reads text source bridge) ↔
      ∃ id rest, Names text id rest ∧ (utf8Bytes id).length = 12 := by
  constructor
  · rintro ⟨bridge, h⟩
    obtain ⟨rest, hn, -⟩ := h.named
    exact ⟨_, rest, hn, h.size⟩
  · rintro ⟨id, rest, hn, hsize⟩
    obtain ⟨protocol, hs, -⟩ := ofText_named hn source
    exact ⟨_, hn.reads hs hsize source⟩

theorem Reads.ofText_eq {bridge : Discovered} (h : Reads text source bridge) :
    ofText text source = .ok bridge := by
  obtain ⟨address, id, protocol⟩ := bridge
  obtain ⟨rfl, ⟨rest, hn, hs⟩, hsize⟩ := h
  obtain ⟨protocol', hs', ht⟩ := ofText_named hn address
  rw [ht, if_pos hsize, hs'.unique hs, String.ofList_toList]

theorem ofText_refused (h : ¬ ∃ bridge, Reads text source bridge) :
    ofText text source = .error (refuse text) := by
  by_cases hcomma : ',' ∈ text
  · obtain ⟨id, rest, hn⟩ := exists_names hcomma
    obtain ⟨protocol, -, ht⟩ := ofText_named hn source
    rw [ht, if_neg fun hsize => h (exists_reads_iff.mpr ⟨id, rest, hn, hsize⟩)]
  · exact ofText_unnamed hcomma source

theorem ofText_eq_ok_iff {bridge : Discovered} :
    ofText text source = .ok bridge ↔ Reads text source bridge := by
  refine ⟨fun h => ?_, Reads.ofText_eq⟩
  by_cases hread : ∃ bridge, Reads text source bridge
  · obtain ⟨bridge', h'⟩ := hread
    rw [h'.ofText_eq] at h
    cases h
    exact h'
  · rw [ofText_refused hread] at h
    cases h

/-! ## Datagrams -/

theorem parse_utf8Bytes (cs : List Char) (source : Address) :
    parse (utf8Bytes cs) source = ofText (dropTrailing isPadding cs) source := by
  rw [parse, decodeUtf8_eq_ok_iff.mpr rfl]

theorem parse_not_utf8 {bs : List UInt8} (source : Address) :
    (∃ fault, parse bs source = .error (.utf8 fault)) ↔ ¬ ∃ cs, bs = utf8Bytes cs := by
  constructor
  · rintro ⟨fault, h⟩ ⟨cs, rfl⟩
    rw [parse_utf8Bytes] at h
    by_cases hread : ∃ bridge, Reads (dropTrailing isPadding cs) source bridge
    · obtain ⟨bridge, hb⟩ := hread
      rw [hb.ofText_eq] at h
      cases h
    · rw [ofText_refused hread] at h
      cases h
  · intro h
    cases hd : decodeUtf8 bs with
    | ok cs => exact absurd ⟨cs, decodeUtf8_eq_ok_iff.mp hd⟩ h
    | error fault => exact ⟨fault, by rw [parse, hd]⟩

theorem parse_padded {padding : List Char} (h : ∀ c ∈ padding, isPadding c = true)
    (cs : List Char) (source : Address) :
    parse (utf8Bytes cs ++ utf8Bytes padding) source = parse (utf8Bytes cs) source := by
  rw [← utf8Bytes_append, parse_utf8Bytes, parse_utf8Bytes, dropTrailing_padded h]

section Layout

variable {address id : List Char} (ha : ',' ∉ address) (hi : ',' ∉ id)
include ha hi

theorem names_laid {rest : List Char} (hr : rest = [] ∨ ∃ more, rest = ','::more) :
    Names (address ++ ','::(id ++ rest)) id rest :=
  ⟨address, id ++ rest, ⟨rfl, ha, .inr ⟨_, rfl⟩⟩, ⟨rfl, hi, hr⟩⟩

variable (hsize : (utf8Bytes id).length = 12)
include hsize

theorem parse_unmodelled (hlast : ∀ c ∈ id.getLast?, isPadding c = false) (source : Address) :
    parse (utf8Bytes (address ++ ','::id)) source = .ok ⟨source, String.ofList id, .v3⟩ := by
  have hne : id ≠ [] := by
    rintro rfl
    cases hsize
  have hself : dropTrailing isPadding (address ++ ','::id) = address ++ ','::id := by
    apply dropTrailing_self
    rwa [List.getLast?_append_cons, List.getLast?_cons_of_ne_nil hne]
  have hnames : Names (address ++ ','::(id ++ [])) id [] := names_laid ha hi (.inl rfl)
  rw [parse_utf8Bytes, hself]
  rw [List.append_nil] at hnames
  exact (hnames.reads speaks_nil hsize source).ofText_eq

theorem parse_modelled {model : List Char} (hm : ',' ∉ model)
    (hseen : ∃ c ∈ model, isPadding c = false) (source : Address) :
    parse (utf8Bytes (address ++ ','::(id ++ ','::model))) source =
      .ok ⟨source, String.ofList id, .v6⟩ := by
  have htrim : dropTrailing isPadding (address ++ ','::(id ++ ','::model)) =
      address ++ ','::(id ++ ','::dropTrailing isPadding model) := by
    simpa using dropTrailing_append hseen (address ++ ','::(id ++ [',']))
  obtain ⟨padding, hpadded, hpadding⟩ := (dropTrailing_trims isPadding model).padded
  have hfree : ',' ∉ dropTrailing isPadding model := by
    rw [hpadded, List.mem_append, not_or] at hm
    exact hm.1
  have hne : dropTrailing isPadding model ≠ [] := by
    intro hnil
    rw [hnil, List.nil_append] at hpadded
    obtain ⟨c, hc, hp⟩ := hseen
    rw [hpadding c (hpadded ▸ hc)] at hp
    cases hp
  have hspeaks : Speaks (','::dropTrailing isPadding model) .v6 :=
    .inl ⟨⟨_, _, [], rfl, ⟨(List.append_nil _).symm, hfree, .inl rfl⟩, hne⟩, rfl⟩
  rw [parse_utf8Bytes, htrim]
  exact ((names_laid ha hi (.inr ⟨_, rfl⟩)).reads hspeaks hsize source).ofText_eq

end Layout

/-- Bytes that are no text are refused as such. A text counts without its
padding: it is read if and only if it names an id of twelve bytes, as the bridge
of that id at the address it came from, with sessions exactly if it names a
model, and is otherwise refused as it is. What is laid out so is read back, and
more padding makes no difference. -/
theorem parse_grammar (source : Address) :
    (∀ bs, (∃ fault, parse bs source = .error (.utf8 fault)) ↔ ¬ ∃ cs, bs = utf8Bytes cs) ∧
    (∀ cs, ∃ text, Trims isPadding cs text ∧
      (∀ bridge, parse (utf8Bytes cs) source = .ok bridge ↔ Reads text source bridge) ∧
      ((∃ bridge, Reads text source bridge) ↔
        ∃ id rest, Names text id rest ∧ (utf8Bytes id).length = 12) ∧
      ((¬ ∃ bridge, Reads text source bridge) →
        parse (utf8Bytes cs) source = .error (refuse text))) ∧
    (∀ address id, ',' ∉ address → ',' ∉ id → (utf8Bytes id).length = 12 →
      (∀ c ∈ id.getLast?, isPadding c = false) →
      parse (utf8Bytes (address ++ ','::id)) source = .ok ⟨source, String.ofList id, .v3⟩ ∧
      ∀ model, ',' ∉ model → (∃ c ∈ model, isPadding c = false) →
        parse (utf8Bytes (address ++ ','::(id ++ ','::model))) source =
          .ok ⟨source, String.ofList id, .v6⟩) ∧
    ∀ cs padding, (∀ c ∈ padding, isPadding c = true) →
      parse (utf8Bytes cs ++ utf8Bytes padding) source = parse (utf8Bytes cs) source := by
  refine ⟨fun bs => parse_not_utf8 source, fun cs => ?_, ?_,
    fun cs padding hp => parse_padded hp cs source⟩
  · refine ⟨dropTrailing isPadding cs, dropTrailing_trims isPadding cs, ?_, exists_reads_iff, ?_⟩
    · rw [parse_utf8Bytes]
      exact fun bridge => ofText_eq_ok_iff
    · rw [parse_utf8Bytes]
      exact ofText_refused
  · intro address id ha hi hsize hlast
    exact ⟨parse_unmodelled ha hi hsize hlast source,
      fun model hm hseen => parse_modelled ha hi hsize hm hseen source⟩

/-- Twelve bytes are nine characters here, and the padding is of several kinds. -/
theorem parse_umlauts :
    parse (utf8Bytes "10.1.1.27,BRÜCKE-ÄÖ,HF".toList ++ utf8Bytes ['\n', '\x00', '\u3000'])
      (.v4 10 1 1 27) = .ok ⟨.v4 10 1 1 27, "BRÜCKE-ÄÖ", .v6⟩ := by
  obtain ⟨-, -, hlaid, hpadded⟩ := parse_grammar (.v4 10 1 1 27)
  have hlast : ∀ c ∈ "BRÜCKE-ÄÖ".toList.getLast?, isPadding c = false := by
    intro c hc
    obtain rfl : 'Ö' = c := Option.some_inj.mp hc
    decide
  rw [hpadded _ _ (List.all_eq_true.mp (by decide))]
  exact (hlaid "10.1.1.27".toList "BRÜCKE-ÄÖ".toList (by decide) (by decide) (by decide) hlast).2
    "HF".toList (by decide) ⟨'H', by decide⟩

end Discovered

end LightBridge
