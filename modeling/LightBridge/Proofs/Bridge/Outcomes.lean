import LightBridge.Proofs.Bridge.Online

/-!
# Following outcomes

Of the outcomes that concern a bridge, the last one says whether it is online;
each change has its log line; and an outcome that finds the bridge calls for a
keep-alive of its session, unless another one did so within the second before.
All this goes by the upper-cased id. An outcome finds the bridge that was
configured if the two ids are the same up to the case of ASCII letters.
-/

set_option autoImplicit false

namespace LightBridge

namespace Presence

/-! ## Outcomes of a bridge -/

def finds (id : String) : Outcome → Bool
  | .found bridge => sameId bridge.id id
  | .notFound => false

/-- An outcome concerns a bridge unless it found another one. -/
def concerns (id : String) : Outcome → Bool
  | .found bridge => sameId bridge.id id
  | .notFound => true

/-- The last of the outcomes that concern the bridge found it. -/
def LastFound (id : String) (outcomes : List Outcome) : Prop :=
  ∃ bridge, (outcomes.filter (concerns id)).getLast? = some (.found bridge)

theorem lastFound_nil (id : String) : ¬ LastFound id [] := by
  rintro ⟨bridge, h⟩
  cases h

theorem lastFound_concat {id : String} {outcomes : List Outcome} {outcome : Outcome} :
    LastFound id (outcomes ++ [outcome]) ↔
      finds id outcome = true ∨ concerns id outcome = false ∧ LastFound id outcomes := by
  cases outcome with
  | notFound => simp [LastFound, concerns, finds]
  | found bridge => cases h : sameId bridge.id id <;> simp [LastFound, concerns, finds, h]

/-- Another outcome leaves it as it was; the rest is up to the last one. -/
theorem sees_lastFound (id : String) (outcomes : List Outcome) :
    outcomes.foldl (sees id) false = true ↔ LastFound id outcomes := by
  induction outcomes using List.reverseRecOn with
  | nil => exact iff_of_false Bool.false_ne_true (lastFound_nil id)
  | append_singleton outcomes outcome ih =>
    rw [List.foldl_append, lastFound_concat, ← ih, List.foldl_cons, List.foldl_nil]
    cases outcome with
    | notFound => simp [sees, finds, concerns]
    | found bridge => cases h : sameId bridge.id id <;> simp [sees, finds, concerns, h]

/-! ## The log lines -/

/-- The log line of the change that an outcome brings about. -/
def line (id : String) : Outcome → Notice
  | .found bridge => .online id bridge.address
  | .notFound => .offline id

/-- Log lines that say online and offline in turn, of a bridge that is online or
not before the first of them. -/
def InTurn (id : String) : Bool → List Notice → Prop
  | _, [] => True
  | false, n::ns => (∃ address, n = .online id address) ∧ InTurn id true ns
  | true, n::ns => n = .offline id ∧ InTurn id false ns

variable (id : String) (hasSession : Bool)

theorem note_line (wall : Nat) (p : Presence) (outcome : Outcome) :
    let noted := p.note id hasSession wall outcome
    noted.2.1 = if noted.1.online = p.online then [] else [line id outcome] := by
  cases outcome with
  | notFound => cases h : p.online <;> simp [note, line, h]
  | found bridge =>
    cases hid : sameId bridge.id id with
    | false => simp [note, hid]
    | true =>
      simp only [note, hid, if_true]
      cases h : p.online <;> split <;> simp [line]

theorem lines_concat (xs : List (Nat × Outcome)) (x : Nat × Outcome) (p : Presence) :
    p.lines id hasSession (xs ++ [x]) = p.lines id hasSession xs ++
      if (p.learn id hasSession (xs ++ [x])).online = (p.learn id hasSession xs).online then []
      else [line id x.2] := by
  rw [lines_append, learn_append]
  rw [lines, lines, List.append_nil, note_line]
  rfl

theorem lines_inTurn (xs : List (Nat × Outcome)) (p : Presence) :
    InTurn id p.online (p.lines id hasSession xs) := by
  induction xs generalizing p with
  | nil => cases p.online <;> trivial
  | cons x xs ih =>
    have hrest := ih (p.note id hasSession x.1 x.2).1
    rw [lines, note_line]
    rw [note_online] at hrest ⊢
    obtain ⟨wall, outcome⟩ := x
    -- Only a change has a line, and it depends on the change which one.
    cases outcome with
    | notFound => cases h : p.online <;> simpa [sees, h, line, InTurn] using hrest
    | found bridge =>
      cases hid : sameId bridge.id id <;> cases h : p.online <;>
        simpa [sees, hid, h, line, InTurn] using hrest

/-! ## The keep-alives -/

/-- An outcome that finds a bridge with a session calls for a keep-alive that is
due. -/
theorem note_call (wall : Nat) (p : Presence) (outcome : Outcome) :
    let noted := p.note id hasSession wall outcome
    noted.2.2 = (finds id outcome && hasSession && p.keepAliveDue wall) ∧
      noted.1.asked = if noted.2.2 then some wall else p.asked := by
  cases outcome with
  | notFound => simp [note, finds]
  | found bridge =>
    cases hid : sameId bridge.id id with
    | false => simp [note, finds, hid]
    | true =>
      simp only [note, finds, hid, if_true, Bool.true_and]
      split <;> simp_all

theorem asked_last (xs : List (Nat × Outcome)) :
    (unknown.learn id hasSession xs).asked =
      (unknown.calls id hasSession xs).getLast?.map (·.1) := by
  induction xs using List.reverseRecOn with
  | nil => rfl
  | append_singleton xs x ih =>
    rw [calls_append, learn_append]
    simp only [learn, calls, (note_call id hasSession _ _ _).2, List.append_nil]
    split
    · simp
    · simpa using ih

/-- The second that a keep-alive waits for goes by the last one, and so by all. -/
theorem due_iff {wall : Nat} {xs : List (Nat × Outcome)}
    (h : (unknown.calls id hasSession xs).Pairwise fun x y => x.1 + throttle ≤ y.1) :
    (unknown.learn id hasSession xs).keepAliveDue wall = true ↔
      ∀ x ∈ unknown.calls id hasSession xs, x.1 + throttle ≤ wall := by
  have hpos : 0 < throttle := by decide
  rw [keepAliveDue, asked_last]
  cases hcalls : unknown.calls id hasSession xs using List.reverseRecOn with
  | nil => simp
  | append_singleton calls last =>
    rw [hcalls, List.pairwise_append] at h
    simp only [List.getLast?_append, List.getLast?_singleton, Option.some_or, Option.map_some,
      decide_eq_true_eq, List.forall_mem_append, List.forall_mem_singleton]
    constructor
    · intro hdue
      refine ⟨fun x hx => ?_, by omega⟩
      have hlast := h.2.2 x hx last (by simp)
      omega
    · rintro ⟨_, hlast⟩
      omega

theorem calls_concat (xs : List (Nat × Outcome)) (x : Nat × Outcome) (p : Presence) :
    p.calls id hasSession (xs ++ [x]) = p.calls id hasSession xs ++
      if finds id x.2 && hasSession && (p.learn id hasSession xs).keepAliveDue x.1 then [x]
      else [] := by
  rw [calls_append]
  simp only [calls, List.append_nil, (note_call id hasSession _ _ _).1]

theorem calls_spaced (xs : List (Nat × Outcome)) :
    (unknown.calls id hasSession xs).Pairwise fun x y => x.1 + throttle ≤ y.1 := by
  induction xs using List.reverseRecOn with
  | nil => exact List.Pairwise.nil
  | append_singleton xs x ih =>
    rw [calls_concat]
    split
    · rename_i hcall
      rw [Bool.and_eq_true] at hcall
      have hdue := (due_iff id hasSession ih).mp hcall.2
      exact List.pairwise_append.mpr ⟨ih, List.pairwise_singleton _ _, by simpa using hdue⟩
    · simpa using ih

theorem calls_found {xs : List (Nat × Outcome)} {x : Nat × Outcome}
    (h : x ∈ unknown.calls id hasSession xs) : finds id x.2 = true ∧ hasSession = true := by
  induction xs using List.reverseRecOn with
  | nil => cases h
  | append_singleton xs last ih =>
    rw [calls_concat, List.mem_append] at h
    rcases h with h | h
    · exact ih h
    · split at h
      · rename_i hcall
        obtain rfl := List.mem_singleton.mp h
        simp only [Bool.and_eq_true] at hcall
        exact hcall.1
      · cases h

/-! ## The same id -/

theorem sameId_iff {a b : String} :
    sameId a b = true ↔ a.toList.map Char.toLower = b.toList.map Char.toLower :=
  beq_iff_eq

theorem sameId_congr {a b : String} (h : sameId a b = true) (s : String) :
    sameId s a = sameId s b := by
  rw [sameId, sameId, sameId_iff.mp h]

theorem finds_congr {a b : String} (h : sameId a b = true) : finds a = finds b := by
  funext outcome
  cases outcome with
  | found bridge => exact sameId_congr h bridge.id
  | notFound => rfl

theorem concerns_congr {a b : String} (h : sameId a b = true) : concerns a = concerns b := by
  funext outcome
  cases outcome with
  | found bridge => exact sameId_congr h bridge.id
  | notFound => rfl

end Presence

namespace Text

theorem upperChar_toLower {c : Char} (h : c.toNat < 0x80) :
    (upperChar c).map Char.toLower = [c.toLower] := by
  have hall : ∀ n < 0x80, (Char.ofNat n).toUpper.toLower = (Char.ofNat n).toLower := by
    decide +kernel
  have hc := hall c.toNat h
  rw [Char.ofNat_toNat] at hc
  simp [upperChar, h, hc]

theorem upper_sameId {s : String} (h : ∀ c ∈ s.toList, c.toNat < 0x80) :
    Presence.sameId s (upper s) = true := by
  rw [Presence.sameId_iff, upper, String.toList_ofList, List.map_flatMap,
    List.flatMap_congr fun c hc => upperChar_toLower (h c hc)]
  exact List.map_eq_flatMap

end Text

namespace Bridge

/-! ## Following -/

/-- Takes tidings as if discovery had told them. -/
def learn (xs : List (Nat × Outcome)) (b : Bridge) : Bridge :=
  { b with station := (b.station.learn xs).1 }

/-- The log lines of tidings that say that the bridge is reached or lost. -/
def lines (xs : List (Nat × Outcome)) (b : Bridge) : List Notice :=
  (b.station.learn xs).2.filter Notice.tellsReach

/-- The tidings that call for a keep-alive of the session. -/
def calls (xs : List (Nat × Outcome)) (b : Bridge) : List (Nat × Outcome) :=
  b.station.known.elim [] fun k => k.2.calls k.1 b.hasSession xs

/-- What a bridge makes of tidings where those that concern `id` decide. -/
structure Follows (b : Bridge) (id : String) (xs : List (Nat × Outcome)) : Prop where
  online : (b.learn xs).isOnline = true ↔ Presence.LastFound id (xs.map (·.2))
  inTurn : ∀ name, b.id = some name → Presence.InTurn name false (b.lines xs)
  /-- A change has one line, and nothing else has one. -/
  change : ∀ x name, b.id = some name → b.lines (xs ++ [x]) = b.lines xs ++
    if (b.learn (xs ++ [x])).isOnline = (b.learn xs).isOnline then []
    else [Presence.line name x.2]
  /-- The session gets the keep-alives that are called for, and no other one. -/
  session : (b.learn xs).station.link =
    (b.calls xs).foldl (fun link x => (link.keepAlive x.1).1) b.station.link
  found : ∀ x ∈ b.calls xs, Presence.finds id x.2 = true
  generation : b.calls xs ≠ [] → b.protocol = .v6
  spaced : (b.calls xs).Pairwise fun x y => x.1 + Presence.throttle ≤ y.1
  /-- A keep-alive that may be called for is. -/
  call : ∀ x, b.calls (xs ++ [x]) = b.calls xs ++
    if Presence.finds id x.2 = true ∧ b.protocol = .v6 ∧
      ∀ y ∈ b.calls xs, y.1 + Presence.throttle ≤ x.1 then [x] else []

section
variable {c : Config} {b : Bridge} {notices : List Notice} {id : String}

theorem connect_known (h : connect c = .ok (b, notices)) (hid : c.bridgeId = some id) :
    b.id = some id ∧ b.station.known = some (id, .unknown) ∧
      (b.hasSession = true ↔ b.protocol = .v6) := by
  rw [connect_eq h]
  refine ⟨hid, ?_, ?_⟩
  · simp [startStation, Station.start, Station.known, Lookup.start, hid]
  · simp only [hasSession, startStation, Station.start, Link.start, startSession, hid]
    cases c.effectiveProtocol <;> simp

theorem learn_follows (h : connect c = .ok (b, notices)) (hid : c.bridgeId = some id)
    (xs : List (Nat × Outcome)) : b.Follows id xs := by
  obtain ⟨hname, hknown, hsession⟩ := connect_known h hid
  obtain ⟨l, hl, hk⟩ := Option.map_eq_some_iff.mp hknown
  obtain ⟨hb, hp⟩ := Prod.mk.inj hk
  have hlearn := fun xs => Station.learn_eq xs hl
  rw [hb, hp] at hlearn
  have hcalls : ∀ xs, b.calls xs = Presence.unknown.calls id b.hasSession xs := by
    simp [calls, hknown]
  have honline : ∀ xs, (b.learn xs).isOnline =
      (Presence.unknown.learn id b.hasSession xs).online := by
    intro xs
    rw [learn, (hlearn xs).1]
    rfl
  have hlines : ∀ xs, b.lines xs = Presence.unknown.lines id b.hasSession xs :=
    fun xs => (hlearn xs).2
  have heq : ∀ name, b.id = some name → name = id :=
    fun name hn => Option.some.inj (hn.symm.trans hname)
  constructor
  case online =>
    rw [honline, Presence.learn_online]
    exact Presence.sees_lastFound id _
  case inTurn =>
    intro name hn
    rw [heq name hn, hlines]
    exact Presence.lines_inTurn id _ xs .unknown
  case change =>
    intro x name hn
    rw [heq name hn, hlines, hlines, honline, honline]
    exact Presence.lines_concat id _ xs x .unknown
  case session =>
    rw [learn, (hlearn xs).1, hcalls]
    rfl
  case found =>
    intro x hx
    rw [hcalls] at hx
    exact (Presence.calls_found id _ hx).1
  case generation =>
    intro hne
    obtain ⟨x, hx⟩ := List.exists_mem_of_ne_nil _ hne
    rw [hcalls] at hx
    exact hsession.mp (Presence.calls_found id _ hx).2
  case spaced =>
    rw [hcalls]
    exact Presence.calls_spaced id _ xs
  case call =>
    intro x
    rw [hcalls, hcalls, Presence.calls_concat]
    simp only [Bool.and_eq_true, hsession,
      Presence.due_iff id _ (Presence.calls_spaced id _ xs), and_assoc]

theorem Follows.of_sameId {given : String} {xs : List (Nat × Outcome)} (h : b.Follows id xs)
    (hsame : Presence.sameId given id = true) : b.Follows given xs :=
  { h with
    online := by
      rw [Presence.LastFound, Presence.concerns_congr hsame]
      exact h.online
    found := by
      rw [Presence.finds_congr hsame]
      exact h.found
    call := by
      rw [Presence.finds_congr hsame]
      exact h.call }

/-- A bridge that is found by the id it was configured with is online only if
this is its own id. -/
theorem sameId_of_follows {given : String} (h : ∀ xs, b.Follows id xs)
    (hgiven : ∀ xs, b.Follows given xs) : Presence.sameId given id = true := by
  let bridge : Discovered := ⟨.v4 127 0 0 1, given, .v3⟩
  have hself : Presence.LastFound given [.found bridge] :=
    ⟨bridge, by simp [Presence.concerns, Presence.sameId_iff, bridge]⟩
  have hfound : Presence.LastFound id ([] ++ [.found bridge]) :=
    (h [(0, .found bridge)]).online.mp ((hgiven [(0, .found bridge)]).online.mpr hself)
  rcases Presence.lastFound_concat.mp hfound with hsame | ⟨_, hnil⟩
  · exact hsame
  · exact absurd hnil (Presence.lastFound_nil id)

theorem after_learn (h : connect c = .ok (b, notices)) (hid : c.bridgeId = some id)
    (as : List (Nat × Action)) :
    (b.after as).station.known = (b.learn (b.station.tidings as)).station.known ∧
      b.station.reachLines as = b.lines (b.station.tidings as) := by
  obtain ⟨_, hknown, _⟩ := connect_known h hid
  obtain ⟨l, hl, _⟩ := Option.map_eq_some_iff.mp hknown
  obtain ⟨hlearn, hlines⟩ := Station.learn_eq (b.station.tidings as) hl
  obtain ⟨_, hk, hm⟩ := b.station.after_learns as
  constructor
  · rw [after, hk, learn, hlearn]
    simp [Station.known, hl]
  · rw [hm, lines, hlines]
    simp [Station.known, hl]

end

/-- A bridge with a usable id follows the outcomes that concern this id, in upper
case, and so those that concern the id it was configured with if upper case
changes no more of it than ASCII letters. What a run shows of it is what it
makes of the outcomes of the run. -/
theorem outcomes_followed {c : Config} {b : Bridge} {notices : List Notice} {given id : String}
    (h : connect c = .ok (b, notices)) (hgiven : c.id = some given) (hid : c.bridgeId = some id) :
    (∀ xs, b.Follows id xs) ∧
    ((∀ xs, b.Follows given xs) ↔ Presence.sameId given id = true) ∧
    ((∀ ch ∈ given.toList, ch.toNat < 0x80) → ∀ xs, b.Follows given xs) ∧
    ∀ as, (b.after as).isOnline = (b.learn (b.station.tidings as)).isOnline ∧
      (b.after as).station.known = (b.learn (b.station.tidings as)).station.known ∧
      b.station.reachLines as = b.lines (b.station.tidings as) := by
  have hfollows := learn_follows h hid
  have hupper : id = Text.upper given := by
    rw [Config.bridgeId, hgiven] at hid
    dsimp only at hid
    split at hid
    · exact (Option.some.inj hid).symm
    · cases hid
  refine ⟨hfollows, ⟨sameId_of_follows hfollows, fun hsame xs => (hfollows xs).of_sameId hsame⟩,
    fun hascii xs => (hfollows xs).of_sameId ?_, fun as => ?_⟩
  · rw [hupper]
    exact Text.upper_sameId hascii
  · obtain ⟨hknown, hlines⟩ := after_learn h hid as
    refine ⟨?_, hknown, hlines⟩
    have honline : ∀ b : Bridge, b.isOnline = b.station.known.all (·.2.online) := by
      simp [isOnline, Station.known, Option.all_map]
    rw [honline, honline, hknown]

end Bridge

def paired : Config := .create (.v4 127 0 0 1) (some "accf23f57ad4") .v6

/-- Over one second the bridge is found four times and another one once; then there
is none. -/
def pairedTidings : List (Nat × Outcome) :=
  let own : Outcome := .found ⟨.v4 127 0 0 1, "ACCF23F57AD4", .v6⟩
  let other : Outcome := .found ⟨.v4 127 0 0 2, "ACCF23F57AD5", .v3⟩
  [(0, own), (0, own), (400000, other), (999999, own), (1000000, own), (1500000, .notFound)]

/-- Its two keep-alives are a second apart. -/
theorem paired_followed :
    ∃ b notices, Bridge.connect paired = .ok (b, notices) ∧
      (∀ xs, b.Follows "accf23f57ad4" xs) ∧
      (b.calls pairedTidings).map (·.1) = [0, 1000000] ∧
      b.lines pairedTidings =
        [.online "ACCF23F57AD4" (.v4 127 0 0 1), .offline "ACCF23F57AD4"] := by
  have hconnect : Bridge.connect paired = .ok (_, _) := rfl
  have hid : paired.bridgeId = some "ACCF23F57AD4" := by decide +kernel
  have hgiven : paired.id = some "accf23f57ad4" := rfl
  obtain ⟨_, _, hascii, _⟩ := Bridge.outcomes_followed hconnect hgiven hid
  exact ⟨_, _, hconnect, hascii (by simp), by decide +kernel, by decide +kernel⟩

def accented : Config := .create (.v4 127 0 0 1) (some "accf23f57aé") .v3

/-- The bridge is looked up once, and answers with the id it was configured with. -/
def accentedVisit : List (Nat × Action) :=
  [(0, .refresh),
    (0, .arrive (.answer ⟨.v4 127 0 0 1, 48899⟩ "127.0.0.1,accf23f57aé,".toUTF8.toList))]

/-- Upper case changes the accented letter of a usable id, so the bridge stays
offline although the only outcome is that it was found. -/
theorem accented_unseen :
    ∃ b notices, Bridge.connect accented = .ok (b, notices) ∧ accented.bridgeId.isSome ∧
      b.station.findings accentedVisit = [.found ⟨.v4 127 0 0 1, "accf23f57aé", .v3⟩] ∧
      Presence.LastFound "accf23f57aé" (b.station.findings accentedVisit) ∧
      (b.after accentedVisit).isOnline = false := by
  have hconnect : Bridge.connect accented = .ok (_, _) := rfl
  have hfindings : (Bridge.startStation accented).findings accentedVisit =
      [.found ⟨.v4 127 0 0 1, "accf23f57aé", .v3⟩] := by decide +kernel
  refine ⟨_, _, hconnect, by decide +kernel, hfindings, ?_, by decide +kernel⟩
  have hlast : Presence.LastFound "accf23f57aé" [.found ⟨.v4 127 0 0 1, "accf23f57aé", .v3⟩] :=
    ⟨⟨.v4 127 0 0 1, "accf23f57aé", .v3⟩, by decide⟩
  rwa [← hfindings] at hlast

end LightBridge
