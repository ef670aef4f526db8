import LightBridge.Proofs.Station.Deed

/-!
# Deeds as acts

A deed is done to a station by acts of its link. An operation is the commands
of its plan, up to the first that the queue refuses. What the acts of a run are
to the queue and to the session is what the run is to them.
-/

set_option autoImplicit false

namespace LightBridge

/-! ## An operation -/

namespace Progress

def act? (wall : Nat) (b : Bulb) (p : Progress) : Move → Option Link.Act
  | .store _ => none
  | .send c _ => if p.refusal.isSome then none else some (.send wall b c)

def acts (wall : Nat) (b : Bulb) : List Move → Progress → List Link.Act
  | [], _ => []
  | m::ms, p => (p.act? wall b m).toList ++ acts wall b ms (p.move wall b m)

theorem move_link (wall : Nat) (b : Bulb) (p : Progress) (m : Move) :
    (p.move wall b m).link = Link.run (p.act? wall b m).toList p.link := by
  cases hr : p.refusal with
  | some fault =>
    rw [move_refused wall b (by simp [hr])]
    cases m <;> simp [act?, hr, Link.run]
  | none =>
    cases m with
    | store record => simp [move, hr, act?, Link.run]
    | send c record =>
      rcases hs : p.link.send wall b c with ⟨link, notices, result⟩
      cases result <;> simp [move, hr, hs, act?, Link.run, Link.act]

theorem foldl_link (wall : Nat) (b : Bulb) (ms : List Move) (p : Progress) :
    (ms.foldl (move wall b) p).link = Link.run (acts wall b ms p) p.link := by
  induction ms generalizing p with
  | nil => rfl
  | cons m ms ih => rw [List.foldl_cons, ih, move_link, acts, Link.run_append]

theorem offers_acts (wall : Nat) (b : Bulb) (ms : List Move) (p : Progress) :
    (offers wall b ms p).map (.enqueue (some b)) = Link.script (acts wall b ms p) p.link := by
  induction ms generalizing p with
  | nil => rfl
  | cons m ms ih =>
    rw [offers, acts, Link.script_append, List.map_append, ih, move_link]
    congr 1
    cases m with
    | store record => rfl
    | send c record =>
      cases hr : p.refusal with
      | some fault => simp [offer, act?, hr, Link.script]
      | none =>
        cases ho : p.link.offered wall b c <;>
          simp [offer, act?, hr, ho, Link.script, Link.calls, Link.offerCalls, Link.offer?]

/-- The acts of an operation send commands of its plan. -/
theorem acts_mem (wall : Nat) (b : Bulb) (ms : List Move) (p : Progress) {a : Link.Act}
    (h : a ∈ acts wall b ms p) : ∃ c record, .send c record ∈ ms ∧ a = .send wall b c := by
  induction ms generalizing p with
  | nil => cases h
  | cons m ms ih =>
    rcases List.mem_append.mp h with h | h
    · cases m with
      | store record => simp [act?] at h
      | send c record =>
        rw [act?] at h
        split at h
        · simp at h
        · exact ⟨c, record, by simp, by simpa using h⟩
    · obtain ⟨c, record, hm, ha⟩ := ih _ h
      exact ⟨c, record, List.mem_cons_of_mem _ hm, ha⟩

end Progress

/-! ## A deed, and a run -/

namespace Station

def acts (s : Station) : Deed → List Link.Act
  | .operate light operation =>
    match s.lights[light]? with
    | none => []
    | some l =>
      Progress.acts s.wall l.bulb (l.bulb.plan s.link.isValid l.state operation).all
        (.begin s.link l.state)
  | .session i => [.hear s.wall i]
  | .setDelay microseconds => [.setDelay microseconds]
  | .setCopies n => [.setCopies n]
  | .poll now => [.poll now]
  | .age _ => []

def actsIn : List Deed → Station → List Link.Act
  | [], _ => []
  | d::ds, s => s.acts d ++ actsIn ds (s.perform d)

theorem actsIn_append (ds es : List Deed) (s : Station) :
    s.actsIn (ds++es) = s.actsIn ds ++ (s.run ds).actsIn es := by
  induction ds generalizing s with
  | nil => rfl
  | cons d ds ih => simp [actsIn, run, ih]

theorem perform_link (s : Station) (d : Deed) : (s.perform d).link = s.link.run (s.acts d) := by
  cases d with
  | operate light operation =>
    cases hl : s.lights[light]? with
    | none => simp [perform, operate, acts, hl, Link.run]
    | some l =>
      obtain ⟨notices, h⟩ := l.operate_eq s.wall s.link operation
      simp only [perform, operate, acts, hl, h]
      exact Progress.foldl_link s.wall l.bulb _ _
  | session i => exact s.hear_link i
  | setDelay microseconds => rfl
  | setCopies n => rfl
  | poll now => rfl
  | age wall => rfl

theorem calls_acts (s : Station) (d : Deed) : s.calls d = s.link.script (s.acts d) := by
  cases d with
  | operate light operation =>
    cases hl : s.lights[light]? with
    | none => simp [calls, acts, hl, Link.script]
    | some l =>
      simp only [calls, acts, hl]
      exact Progress.offers_acts s.wall l.bulb _ _
  | session i => simpa [acts, Link.script] using s.session_calls i
  | setDelay microseconds => rfl
  | setCopies n => rfl
  | poll now => rfl
  | age wall => rfl

theorem run_link (ds : List Deed) (s : Station) : (s.run ds).link = s.link.run (s.actsIn ds) := by
  induction ds generalizing s with
  | nil => rfl
  | cons d ds ih => rw [run, ih, perform_link, actsIn, Link.run_append]

theorem script_acts (ds : List Deed) (s : Station) :
    s.script ds = s.link.script (s.actsIn ds) := by
  induction ds generalizing s with
  | nil => rfl
  | cons d ds ih => rw [script, ih, perform_link, actsIn, Link.script_append, calls_acts]

/-- The commands of a run are those of plans for lights of the station. -/
theorem send_mem (ds : List Deed) (s : Station) {wall : Nat} {b : Bulb} {c : Command}
    (h : .send wall b c ∈ s.actsIn ds) :
    (∃ l ∈ s.lights, l.bulb = b) ∧
    ∃ isValid state operation record,
      .send c record ∈ (b.plan isValid state operation).all := by
  induction ds generalizing s with
  | nil => cases h
  | cons d ds ih =>
    rcases List.mem_append.mp h with h | h
    · cases d with
      | operate light operation =>
        simp only [acts] at h
        split at h
        · cases h
        · rename_i l hl
          obtain ⟨c', record, hm, ha⟩ := Progress.acts_mem _ _ _ _ h
          cases ha
          exact ⟨⟨l, List.mem_of_getElem? hl, rfl⟩, _, _, _, record, hm⟩
      | _ => simp [acts] at h
    · obtain ⟨⟨l, hl, hb⟩, hc⟩ := ih (s.perform d) h
      refine ⟨?_, hc⟩
      have hm : b ∈ (s.perform d).lights.map Light.bulb := hb ▸ List.mem_map_of_mem hl
      rw [perform_bulbs] at hm
      exact List.mem_map.mp hm

end Station

/-! ## What the queue accepts -/

namespace Link

/-- The frames that the queue accepts in a run, with their bulbs. -/
def accepted (as : List Act) (l : Link) : List (Option Bulb × Frame) :=
  Queue.accepted (script as l) l.queue

/-- The frame of an act that the queue accepts. -/
def accepts? (l : Link) (a : Act) : Option (Option Bulb × Frame) :=
  (l.offer? a).filter fun o => (l.queue.enqueue o.2).2.isOk

theorem accepts_offer {l : Link} {a : Act} {o : Option Bulb × Frame}
    (h : l.accepts? a = some o) :
    l.offer? a = some o ∧ (l.queue.enqueue o.2).2 = .ok () := by
  obtain ⟨ho, hk⟩ := Option.filter_eq_some_iff.mp h
  refine ⟨ho, ?_⟩
  cases hr : (l.queue.enqueue o.2).2 with
  | ok u => rfl
  | error fault => simp [hr, Except.isOk, Except.toBool] at hk

theorem accepted_calls (l : Link) (a : Act) :
    Queue.accepted (l.calls a) l.queue = (l.accepts? a).toList := by
  have ho : Queue.accepted (l.offerCalls a) l.queue = (l.accepts? a).toList := by
    unfold offerCalls accepts?
    cases l.offer? a with
    | none => rfl
    | some o =>
      cases hk : (l.queue.enqueue o.2).2.isOk <;>
        simp [Queue.accepted, Queue.taken, Option.filter, hk]
  cases a with
  | hear wall i => exact ho
  | send wall b c => exact ho
  | setDelay microseconds => rfl
  | setCopies n => rfl
  | poll now => rfl

theorem accepted_cons (a : Act) (as : List Act) (l : Link) :
    l.accepted (a::as) = (l.accepts? a).toList ++ (l.act a).accepted as := by
  rw [accepted, script, Queue.accepted_append, accepted_calls, ← act_queue]
  rfl

/-- Each accepted frame was offered by an act of its own. -/
theorem accepted_place (as : List Act) (l : Link) {before after : List (Option Bulb × Frame)}
    {o : Option Bulb × Frame} (h : l.accepted as = before ++ o::after) :
    ∃ early a late, as = early ++ a::late ∧ l.accepted early = before ∧
      (l.run early).offer? a = some o ∧ ((l.run early).queue.enqueue o.2).2 = .ok () := by
  induction as generalizing l before with
  | nil => simp [accepted, script, Queue.accepted] at h
  | cons a as ih =>
    rw [accepted_cons] at h
    -- The frame of this act comes first, if it is accepted; the rest is of later acts.
    cases ha : l.accepts? a with
    | none =>
      rw [ha] at h
      obtain ⟨early, x, late, rfl, hb, hx⟩ := ih (l.act a) h
      exact ⟨a::early, x, late, rfl, by rw [accepted_cons, ha]; exact hb, hx⟩
    | some first =>
      rw [ha] at h
      cases before with
      | nil =>
        obtain ⟨rfl, _⟩ := List.cons.inj h
        exact ⟨[], a, as, rfl, rfl, accepts_offer ha⟩
      | cons p before =>
        obtain ⟨rfl, hrest⟩ := List.cons.inj h
        obtain ⟨early, x, late, rfl, hb, hx⟩ := ih (l.act a) hrest
        exact ⟨a::early, x, late, rfl, by rw [accepted_cons, ha, hb]; rfl, hx⟩

end Link

theorem Station.acceptedIn_acts (ds : List Deed) (s : Station) :
    s.acceptedIn ds = s.link.accepted (s.actsIn ds) := by
  rw [acceptedIn, script_acts, Link.accepted]

end LightBridge
