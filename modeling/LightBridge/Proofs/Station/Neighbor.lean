import LightBridge.Proofs.Light.Planned
import LightBridge.Proofs.Queue.Tally
import LightBridge.Proofs.Station.Mirror

/-!
# Neighbours in a queue

Each waiting frame was offered by a bulb or by the session. A bulb never uses
the categories of the session, and bulbs of one generation share no place, so
whatever one of them offers leaves the waiting frames of all others in place.
-/

set_option autoImplicit false

namespace LightBridge

/-! ## Categories of bulbs and of the session -/

namespace Category

def isSession : Category → Bool
  | session | keepAlive => true
  | _ => false

theorem number_of_bulb {c : Category} (h : c.isSession = false) : 3 ≤ c.number := by
  cases c with
  | session | keepAlive => cases h
  | _ => decide

end Category

/-- Whether a move stays out of the categories of the session. -/
def Move.sparesSession : Move → Bool
  | .send command _ => !command.category.any Category.isSession
  | .store _ => true

theorem Rgb.Planned.sparesSession {m : Move} (h : Rgb.Planned m) : m.sparesSession = true := by
  cases h with
  | dim up => cases up <;> rfl
  | _ => rfl

theorem White.Planned.sparesSession {zone : UInt8} {m : Move} (h : White.Planned zone m) :
    m.sparesSession = true := by
  cases h with
  | temperature up l => cases up <;> rfl
  | mode next => cases next <;> rfl
  | _ => rfl

theorem Rgbw.Planned.sparesSession {zone : UInt8} {m : Move} (h : Rgbw.Planned zone m) :
    m.sparesSession = true := by
  cases h <;> rfl

theorem SessionBulb.Planned.sparesSession {c : CommandSet} {m : Move}
    (h : SessionBulb.Planned c m) : m.sparesSession = true := by
  cases h <;> rfl

namespace Bulb

theorem plan_sparesSession (b : Bulb) (isValid : Bool) (s : LightState) (operation : Operation) :
    ∀ m ∈ (b.plan isValid s operation).all, m.sparesSession = true := by
  intro m hm
  obtain ⟨family, zone⟩ := b
  cases family with
  | v2Rgb => exact (Rgb.plan_planned s operation m hm).sparesSession
  | v3White => exact (White.plan_planned zone s operation m hm).sparesSession
  | v3Rgbw => exact (Rgbw.plan_planned zone s operation m hm).sparesSession
  | v6RgbCwWw | v6Rgbw | v6BridgeLamp =>
    exact ((SessionBulb.plan_planned _ _ isValid s operation).1 m hm).sparesSession

/-- A bulb of a bridge, as it is created there. -/
def Installed (protocol : Protocol) (b : Bulb) : Prop :=
  b.family.protocol = protocol ∧ b.family.hasZone b.zone = true

theorem installed_of_create {protocol : Protocol} {hasSession : Bool} {family : Family}
    {zone : UInt8} {b : Bulb} (h : create protocol hasSession family zone = .ok b) :
    b = ⟨family, zone⟩ ∧ b.Installed protocol := by
  unfold create onZone at h
  by_cases hp : family.protocol = protocol <;> by_cases hz : family.hasZone zone = true
  · simp only [hp, hz, if_true] at h
    split at h <;> cases h
    exact ⟨rfl, hp, hz⟩
  all_goals simp [hp, hz] at h

end Bulb

/-! ## Identities of a mark -/

/-- The identities under which the session, or a bulb, offers its frames. -/
def Owns : Option Bulb → Nat → Prop
  | none, identity => identity = 100 ∨ identity = 200
  | some b, identity => ∃ category, category.any Category.isSession = false ∧
    identity = b.identity category

/-- Different marks share no identity. -/
theorem owns_apart {protocol : Protocol} {mark other : Option Bulb}
    (hm : ∀ b ∈ mark, b.Installed protocol) (ho : ∀ b ∈ other, b.Installed protocol)
    (hne : other ≠ mark) {i j : Nat} (hi : Owns mark i) (hj : Owns other j) (h0 : i ≠ 0) :
    j ≠ i := by
  have number : ∀ (b : Bulb) (c : Category), c.isSession = false →
      300 ≤ b.identity (some c) := by
    intro b c hc
    have hn := Category.number_of_bulb hc
    rw [Bulb.identity_eq]
    omega
  cases mark with
  | none =>
    cases other with
    | none => exact absurd rfl hne
    | some d =>
      obtain ⟨category, hc, rfl⟩ := hj
      cases category with
      | none => exact h0.symm
      | some c =>
        have hn := number d c (by simpa using hc)
        rcases hi with rfl | rfl <;> omega
  | some b =>
    obtain ⟨category, hc, rfl⟩ := hi
    cases category with
    | none => exact absurd rfl h0
    | some c =>
      have hn := number b c (by simpa using hc)
      cases other with
      | none => rcases hj with rfl | rfl <;> omega
      | some d =>
        obtain ⟨category, hd, rfl⟩ := hj
        cases category with
        | none => exact h0.symm
        | some e =>
          have hb := hm b rfl
          have hd := ho d rfl
          exact Bulb.identity_apart hd.2 hb.2 (hd.1.trans hb.1.symm)
            (fun h => hne (congrArg some h)) e c

/-! ## The offers of a deed -/

namespace Station

/-- All lights are bulbs of a bridge of one generation. -/
def Installed (protocol : Protocol) (s : Station) : Prop :=
  ∀ l ∈ s.lights, l.bulb.Installed protocol

/-- The offers of a deed carry one mark and identities of its own. -/
theorem calls_owned (s : Station) (d : Deed) {mark : Option Bulb} {f : Frame}
    (h : .enqueue mark f ∈ s.calls d) :
    Owns mark f.identity ∧ ∀ b ∈ mark, ∃ l ∈ s.lights, l.bulb = b := by
  cases d with
  | operate light operation =>
    cases hl : s.lights[light]? with
    | none => simp [calls, hl] at h
    | some l =>
      simp only [calls, hl] at h
      obtain ⟨g, hg, he⟩ := List.mem_map.mp h
      cases he
      obtain ⟨header, command, record, hm, rfl⟩ := Progress.offers_frame _ _ _ _ hg
      have hs := l.bulb.plan_sparesSession _ _ operation _ hm
      have hc : command.category.any Category.isSession = false := by
        simpa [Move.sparesSession] using hs
      constructor
      · exact ⟨command.category, hc, rfl⟩
      · intro b hb
        cases hb
        exact ⟨l, List.mem_of_getElem? hl, rfl⟩
  | session i =>
    obtain ⟨g, hg, he⟩ := List.mem_map.mp h
    cases he
    rw [Option.mem_toList] at hg
    obtain ⟨session, _, hg⟩ := Option.bind_eq_some_iff.mp hg
    constructor
    · exact Session.take_identity _ _ _ hg
    · intro b hb
      cases hb
  | _ => simp [calls] at h

/-- Every offer of a run is the session's or a bulb's, under an identity of its own. -/
theorem script_owned {protocol : Protocol} {s : Station} (hs : s.Installed protocol)
    (ds : List Deed) {mark : Option Bulb} {f : Frame} (h : .enqueue mark f ∈ s.script ds) :
    Owns mark f.identity ∧ ∀ b ∈ mark, b.Installed protocol := by
  induction ds generalizing s with
  | nil => cases h
  | cons d ds ih =>
    rcases List.mem_append.mp h with h | h
    · obtain ⟨ho, hb⟩ := s.calls_owned d h
      refine ⟨ho, fun b hm => ?_⟩
      obtain ⟨l, hl, rfl⟩ := hb b hm
      exact hs l hl
    · exact ih (forall_bulbs (P := Bulb.Installed protocol) (s.perform_bulbs d) hs) h

theorem script_append (ds es : List Deed) (s : Station) :
    s.script (ds++es) = s.script ds ++ (s.run ds).script es := by
  induction ds generalizing s with
  | nil => rfl
  | cons d ds ih => simp only [List.cons_append, script, run, ih, List.append_assoc]

/-! ## The waiting frames of a run -/

/-- The waiting frames after a run, each with its mark. -/
def held (ds : List Deed) (s : Station) : List (Queue.Passage (Option Bulb)) :=
  (Queue.ledger (s.script ds) s.link.queue).filter Queue.Passage.isWaiting

theorem mem_ledger {s : Station} (hq : s.link.queue.Fresh) {ds : List Deed}
    {p : Queue.Passage (Option Bulb)} (h : p ∈ Queue.ledger (s.script ds) s.link.queue) :
    (p.mark, p.frame) ∈ s.acceptedIn ds := by
  have he := (Queue.ledger_tallies (s.script ds) hq).2.1
  rw [acceptedIn, ← Queue.acceptances_snd 0, ← he, List.map_map]
  exact List.mem_map_of_mem h

theorem held_filter (ds : List Deed) (s : Station) (mark : Option Bulb) :
    (s.held ds).filter (·.mark ≠ mark) =
      Queue.others mark (Queue.ledger (s.script ds) s.link.queue) := by
  rw [held, List.filter_filter]
  exact List.filter_congr fun p _ => Bool.and_comm _ _

/-- A deed whose offers carry one mark leaves the waiting frames of all others
in place. -/
theorem held_others {protocol : Protocol} {s : Station} (hq : s.link.queue.Fresh)
    (hs : s.Installed protocol) (ds : List Deed) (d : Deed) (mark : Option Bulb) {fs : List Frame}
    (hd : (s.run ds).calls d = fs.map (.enqueue mark)) :
    (s.held (ds++[d])).filter (·.mark ≠ mark) = (s.held ds).filter (·.mark ≠ mark) := by
  have hscript : s.script (ds++[d]) = s.script ds ++ fs.map (.enqueue mark) := by
    rw [script_append, script, script, List.append_nil, hd]
  have hledger : Queue.ledger (s.script (ds++[d])) s.link.queue =
      Queue.ledgerFrom (0 + (s.script ds).length) (Queue.ledger (s.script ds) s.link.queue)
        (fs.map (.enqueue mark)) (Queue.run (s.script ds) s.link.queue) := by
    rw [hscript]
    exact Queue.ledgerFrom_append 0 [] _ _ _
  rw [held_filter, held_filter, hledger]
  apply Queue.offers_others
  intro f hf p hp h0
  obtain ⟨hp, hm⟩ := List.mem_filter.mp hp
  have hmark : p.mark ≠ mark := by
    rw [Bool.and_eq_true, decide_eq_true_eq] at hm
    exact hm.2
  have hf : .enqueue mark f ∈ s.script (ds++[d]) := by
    rw [hscript]
    exact List.mem_append_right _ (List.mem_map_of_mem hf)
  have hf := script_owned hs (ds++[d]) hf
  have hp := script_owned hs ds (Queue.accepted_mem _ _ (mem_ledger hq hp))
  exact owns_apart hf.2 hp.2 hmark hf.1 hp.1 h0

theorem operate_calls {s : Station} {light : Nat} {l : Light} (hl : s.lights[light]? = some l)
    (ds : List Deed) (operation : Operation) :
    ∃ fs : List Frame,
      (s.run ds).calls (.operate light operation) = fs.map (.enqueue (some l.bulb)) := by
  have hb : ((s.run ds).lights.map Light.bulb)[light]? = some l.bulb := by
    rw [run_bulbs, List.getElem?_map, hl]
    rfl
  rw [List.getElem?_map, Option.map_eq_some_iff] at hb
  obtain ⟨m, hm, hb⟩ := hb
  exists m.offers (s.run ds).wall (s.run ds).link operation
  simp only [calls, hm, hb]

/-- An operation on a light leaves the waiting frames of the other bulbs and of
the session as they are, in their order, however it ends. A frame of the session
leaves the waiting frames of all bulbs as they are. -/
theorem neighbors_undisturbed {protocol : Protocol} {s : Station} (hq : s.link.queue.Fresh)
    (hl : ∀ l ∈ s.lights, Bulb.create protocol s.link.session.isSome l.bulb.family l.bulb.zone =
      .ok l.bulb) (ds : List Deed) :
    (s.held ds).map Queue.Passage.frame = (s.run ds).link.queue.waiting ∧
    ((s.held ds).map fun p => (p.mark, p.frame)).Sublist (s.acceptedIn ds) ∧
    (∀ light l operation, s.lights[light]? = some l →
      (s.held (ds ++ [.operate light operation])).filter (·.mark ≠ some l.bulb) =
        (s.held ds).filter (·.mark ≠ some l.bulb)) ∧
    ∀ input, (s.held (ds ++ [.session input])).filter (·.mark ≠ none) =
      (s.held ds).filter (·.mark ≠ none) := by
  have hs : s.Installed protocol := fun l hm => (Bulb.installed_of_create (hl l hm)).2
  obtain ⟨ht, he, _⟩ := Queue.ledger_tallies (s.script ds) hq
  constructor
  · rw [run_queue]
    exact ht.waiting
  constructor
  · have hm : (Queue.ledger (s.script ds) s.link.queue).map (fun p => (p.mark, p.frame)) =
        s.acceptedIn ds := by
      rw [acceptedIn, ← Queue.acceptances_snd 0, ← he, List.map_map]
      rfl
    rw [← hm]
    exact List.filter_sublist.map _
  constructor
  · intro light l operation hm
    obtain ⟨fs, hfs⟩ := operate_calls hm ds operation
    exact held_others hq hs ds _ _ hfs
  · exact fun input => held_others hq hs ds _ none rfl

/-- Three bulbs in a valid session, one of each family. -/
def household : Station :=
  .start (.start .start (some ⟨"F0FE6B000001", .valid, 1, 2, (0, 0), 0, false, .empty⟩)) none
    [.create ⟨.v6RgbCwWw, 4⟩ none, .create ⟨.v6Rgbw, 0⟩ none, .create ⟨.v6BridgeLamp, 1⟩ none]

def dusk : List Deed :=
  [.operate 0 (.setBrightness 40), .session .keepAlive, .operate 1 (.setPower true),
    .operate 2 (.setBrightness 5)]

/-- A new brightness goes behind all frames and takes away only the old one. -/
theorem dusk_undisturbed :
    household.link.queue.Fresh ∧
    (∀ l ∈ household.lights, Bulb.create .v6 household.link.session.isSome l.bulb.family
      l.bulb.zone = .ok l.bulb) ∧
    (household.held (dusk ++ [.operate 0 (.setBrightness 70)])).map (·.frame.identity) =
      [314, 200, 320, 301, 501, 514] ∧
    (household.held (dusk ++ [.operate 0 (.setBrightness 70)])).filter
        (·.mark ≠ some ⟨.v6RgbCwWw, 4⟩) =
      (household.held dusk).filter (·.mark ≠ some ⟨.v6RgbCwWw, 4⟩) := by
  have hl : ∀ l ∈ household.lights, Bulb.create .v6 household.link.session.isSome l.bulb.family
      l.bulb.zone = .ok l.bulb := by decide
  have h := neighbors_undisturbed Queue.start_fresh hl dusk
  exact ⟨Queue.start_fresh, hl, by decide, h.2.2.1 0 _ (.setBrightness 70) rfl⟩

end Station

end LightBridge
