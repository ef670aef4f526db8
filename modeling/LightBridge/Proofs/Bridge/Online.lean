import LightBridge.Bridge
import LightBridge.Proofs.Station.Reach

/-!
# Reachability

Whether a bridge counts as reachable follows from the outcomes that its run
shows: it does if a round found it and no round since then found nothing. A
bridge without a usable id is never looked up and always counts as reachable;
that is decided by the id alone, whatever generation the bridge is of.
-/

set_option autoImplicit false

namespace LightBridge

/-! ## What outcomes say -/

namespace Presence

/-- Whether a bridge counts as reachable after an outcome. Finding another one
changes nothing. -/
def sees (id : String) (online : Bool) : Outcome → Bool
  | .found bridge => sameId bridge.id id || online
  | .notFound => false

/-- A round found the bridge, and none since then found nothing. -/
def Sighted (id : String) (outcomes : List Outcome) : Prop :=
  ∃ early bridge late, outcomes = early ++ .found bridge :: late ∧
    sameId bridge.id id = true ∧ .notFound ∉ late

theorem sighted_nil (id : String) : ¬ Sighted id [] := by
  rintro ⟨early, bridge, late, h, _⟩
  simp at h

/-- The last outcome decides, unless another bridge was found. -/
theorem sighted_concat {id : String} {outcomes : List Outcome} {outcome : Outcome} :
    Sighted id (outcomes ++ [outcome]) ↔
      match outcome with
      | .found bridge => sameId bridge.id id = true ∨ Sighted id outcomes
      | .notFound => False := by
  constructor
  · rintro ⟨early, bridge, late, h, hid, hn⟩
    cases late using List.reverseRecOn with
    | nil =>
      obtain ⟨_, rfl⟩ := List.append_singleton_inj.mp h
      exact .inl hid
    | append_singleton late last =>
      rw [← List.cons_append, ← List.append_assoc] at h
      obtain ⟨rfl, rfl⟩ := List.append_singleton_inj.mp h
      cases outcome with
      | found other => exact .inr ⟨early, bridge, late, rfl, hid, fun hm => hn (by simp [hm])⟩
      | notFound => exact hn (by simp)
  · intro h
    cases outcome with
    | notFound => exact h.elim
    | found bridge =>
      rcases h with hid | ⟨early, other, late, rfl, hid, hn⟩
      · exact ⟨outcomes, bridge, [], rfl, hid, List.not_mem_nil⟩
      · exact ⟨early, other, late ++ [.found bridge], by simp, hid, by simpa using hn⟩

theorem foldl_sees (id : String) (outcomes : List Outcome) :
    outcomes.foldl (sees id) false = true ↔ Sighted id outcomes := by
  induction outcomes using List.reverseRecOn with
  | nil => exact iff_of_false Bool.false_ne_true (sighted_nil id)
  | append_singleton outcomes outcome ih =>
    rw [List.foldl_append, sighted_concat, List.foldl_cons, List.foldl_nil]
    cases outcome with
    | found bridge => simp [sees, ih]
    | notFound => simp [sees]

theorem note_online (id : String) (hasSession : Bool) (wall : Nat) (p : Presence)
    (outcome : Outcome) :
    (p.note id hasSession wall outcome).1.online = sees id p.online outcome := by
  cases outcome with
  | notFound => rfl
  | found bridge =>
    cases hid : sameId bridge.id id with
    | false => simp [note, sees, hid]
    | true =>
      simp only [note, sees, hid, if_true, Bool.true_or]
      split <;> rfl

theorem learn_online (id : String) (hasSession : Bool) (xs : List (Nat × Outcome))
    (p : Presence) :
    (p.learn id hasSession xs).online = (xs.map (·.2)).foldl (sees id) p.online := by
  induction xs generalizing p with
  | nil => rfl
  | cons x xs ih => rw [learn, ih, note_online, List.map_cons, List.foldl_cons]

end Presence

/-! ## Runs of a station -/

namespace Station

/-- The bridge that is looked up, and whether it counts as reachable. -/
def sighting (s : Station) : Option (String × Bool) :=
  s.lookup.map fun l => (l.bridge, l.presence.online)

/-- The outcomes that a run shows, in their order. -/
def findings (as : List (Nat × Action)) (s : Station) : List Outcome :=
  (s.reports as).flatMap (·.trace.outcomes)

theorem tidings_outcomes (as : List (Nat × Action)) (s : Station) :
    (s.tidings as).map (·.2) = s.findings as := by
  induction as generalizing s with
  | nil => rfl
  | cons x as ih => simp [tidings, ih, findings, reports, Function.comp_def]

theorem after_sighting (as : List (Nat × Action)) (s : Station) :
    (s.after as).sighting =
      s.sighting.map fun x => (x.1, (s.findings as).foldl (Presence.sees x.1) x.2) := by
  have hsighting : ∀ s : Station, s.sighting = s.known.map fun k => (k.1, k.2.online) := by
    simp [sighting, known, Function.comp_def]
  obtain ⟨_, hk, _⟩ := s.after_learns as
  rw [hsighting, hk, hsighting]
  simp [Function.comp_def, Presence.learn_online, tidings_outcomes]

end Station

/-! ## Bridges -/

namespace Bridge

def after (as : List (Nat × Action)) (b : Bridge) : Bridge :=
  { b with station := b.station.after as }

theorem isOnline_eq (b : Bridge) : b.isOnline = b.station.sighting.all (·.2) := by
  simp [isOnline, Station.sighting, Option.all_map]

theorem connect_eq {c : Config} {b : Bridge} {notices : List Notice}
    (h : connect c = .ok (b, notices)) :
    b = ⟨c, c.effectiveProtocol, c.bridgeId, startStation c⟩ := by
  unfold connect at h
  split at h
  · cases h
  · cases h
    rfl

theorem startStation_sighting (c : Config) :
    (startStation c).sighting = c.bridgeId.map (·, false) := by
  simp [startStation, Station.start, Station.sighting, Lookup.start, Presence.unknown,
    Function.comp_def]

/-- In any run a bridge that has a usable id counts as reachable exactly if a
round found it and none since then found nothing. So it always does only if it
has no usable id; then it is of the oldest generation. -/
theorem online_iff_sighted {c : Config} {b : Bridge} {notices : List Notice}
    (h : connect c = .ok (b, notices)) :
    (∀ as, (b.after as).isOnline = true ↔
      ∀ id, c.bridgeId = some id → Presence.Sighted id (b.station.findings as)) ∧
    ((∀ as, (b.after as).isOnline = true) ↔ c.bridgeId = none) ∧
    (c.bridgeId = none → b.protocol = .v2) := by
  have hb := connect_eq h
  have honline : ∀ as, (b.after as).isOnline = true ↔
      ∀ id, c.bridgeId = some id → Presence.Sighted id (b.station.findings as) := by
    intro as
    have hf : (b.after as).station.sighting = _ := b.station.after_sighting as
    have hs : b.station.sighting = c.bridgeId.map (·, false) := by
      rw [hb]
      exact startStation_sighting c
    rw [isOnline_eq, hf, hs]
    cases c.bridgeId with
    | none => simp
    | some id => simp [← Presence.foldl_sees]
  refine ⟨honline, ?_, ?_⟩
  · constructor
    · intro hall
      cases hid : c.bridgeId with
      | none => rfl
      | some id => exact absurd ((honline []).mp (hall []) id hid) (Presence.sighted_nil id)
    · intro hid as
      exact (honline as).mpr fun id hsome => by simp [hid] at hsome
  · intro hid
    simp [hb, Config.effectiveProtocol, hid]

end Bridge

def anonymous : Config := .create (.v4 127 0 0 1) none .v2

def registered : Config := .create (.v4 127 0 0 1) (some "ACCF23F57AD4") .v2

/-- The bridge is looked up once, and answers. -/
def visit : List (Nat × Action) :=
  [(0, .refresh),
    (0, .arrive (.answer ⟨.v4 127 0 0 1, 48899⟩ "127.0.0.1,ACCF23F57AD4,".toUTF8.toList))]

/-- Of two bridges of the oldest generation, the one without an id counts as
reachable at all times, and the other from its answer on. -/
theorem visit_online :
    (∃ b notices, Bridge.connect anonymous = .ok (b, notices) ∧
      ∀ as, (b.after as).isOnline = true) ∧
    ∃ b notices, Bridge.connect registered = .ok (b, notices) ∧ b.protocol = .v2 ∧
      (b.after visit).isOnline = true ∧ ¬ ∀ as, (b.after as).isOnline = true := by
  have hnone : Bridge.connect anonymous = .ok (_, _) := rfl
  have hsome : Bridge.connect registered = .ok (_, _) := rfl
  obtain ⟨_, hall, _⟩ := Bridge.online_iff_sighted hnone
  obtain ⟨hseen, hall', _⟩ := Bridge.online_iff_sighted hsome
  refine ⟨⟨_, _, hnone, hall.mpr rfl⟩, _, _, hsome, by decide, (hseen visit).mpr ?_, ?_⟩
  · rintro id ⟨⟩
    have hf : (Bridge.startStation registered).findings visit =
        [.found ⟨.v4 127 0 0 1, "ACCF23F57AD4", .v3⟩] := by decide +kernel
    exact ⟨[], _, [], hf, by decide +kernel, List.not_mem_nil⟩
  · exact mt hall'.mp (by decide)

/-- A bridge of the oldest generation that has a usable id is not reachable
until it is found. -/
theorem registered_starts_offline :
    ¬ ∀ (c : Config) (b : Bridge) (notices : List Notice),
      Bridge.connect c = .ok (b, notices) → c.effectiveProtocol = .v2 →
      ∀ as, (b.after as).isOnline = true := by
  intro h
  have hon := h registered _ _ rfl (by decide) []
  exact absurd hon (by decide)

end LightBridge
