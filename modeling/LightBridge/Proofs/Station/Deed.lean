import LightBridge.Proofs.Link.Act
import LightBridge.Station

/-!
# Deeds

A run of a station is a list of deeds: operations on its lights, what happens
to its session, changes of the queue's settings, single steps of the send loop,
and the passing of time, in any order. To the queue a deed is a list of calls.
Frames of an operation are marked with the bulb, frames of the session are not.

An operation is one deed and is carried out whole. What happens to the session
and the steps of the send loop fall between operations, so a session that was
valid when an operation was planned is so for each of its commands, and the
branch of `Link.send` for a session that was lost meanwhile is not reached. In a
run of beats (`Errand`) the calls to the queue fall between single moves.
-/

set_option autoImplicit false

namespace LightBridge

inductive Deed where
  | operate (light : Nat) (operation : Operation)
  | session (input : Session.Input)
  | setDelay (microseconds : Nat)
  | setCopies (n : Nat)
  /-- A step of the send loop at a millisecond. -/
  | poll (now : Nat)
  /-- The clock of all ages moves. -/
  | age (wall : Nat)

namespace Station

def hear (s : Station) : Session.Input → Station
  | .packet bytes => (s.packet bytes).1
  | .keepAlive => s.keepAlive.1
  | .nextHeader => { s with link := (s.link.nextHeader s.wall).1 }
  | .setPassword pw1 pw2 => s.withSession (·.setPassword pw1 pw2)
  | .setSequence n => s.withSession (·.setSequence n)

def perform (s : Station) : Deed → Station
  | .operate light operation => (s.operate light operation).1
  | .session i => s.hear i
  | .setDelay microseconds => s.withQueue (·.setDelay microseconds)
  | .setCopies n => s.withQueue (·.setCopies n)
  | .poll now => s.withQueue fun q => (q.poll now).1
  | .age wall => { s with wall }

def calls (s : Station) : Deed → List (Queue.Call (Option Bulb))
  | .operate light operation =>
    match s.lights[light]? with
    | none => []
    | some l => (l.offers s.wall s.link operation).map (.enqueue (some l.bulb))
  | .session i =>
    (s.link.session.bind fun session => (session.take s.wall i).2).toList.map (.enqueue none)
  | .setDelay microseconds => [.setDelay microseconds]
  | .setCopies n => [.setCopies n]
  | .poll now => [.poll now]
  | .age _ => []

def run : List Deed → Station → Station
  | [], s => s
  | d::ds, s => run ds (s.perform d)

def script : List Deed → Station → List (Queue.Call (Option Bulb))
  | [], _ => []
  | d::ds, s => s.calls d ++ script ds (s.perform d)

/-! ## The queue of a run -/

/-- What a station does to its link when its session takes an input. -/
theorem hear_link (s : Station) (i : Session.Input) :
    (s.hear i).link = s.link.take s.wall i := by
  cases i <;> rfl

theorem session_calls (s : Station) (i : Session.Input) :
    s.calls (.session i) = s.link.calls (.hear s.wall i) := by
  simp only [calls, Link.calls, Link.offerCalls, Link.offer?]
  cases s.link.session.bind fun session => (session.take s.wall i).2 <;> rfl

theorem hear_queue (s : Station) (i : Session.Input) :
    (s.hear i).link.queue = Queue.run (s.calls (.session i)) s.link.queue := by
  rw [hear_link, session_calls]
  exact Link.take_queue s.wall s.link i

theorem perform_queue (s : Station) (d : Deed) :
    (s.perform d).link.queue = Queue.run (s.calls d) s.link.queue := by
  cases d with
  | operate light operation =>
    cases hl : s.lights[light]? with
    | none => simp [perform, calls, operate, hl, Queue.run]
    | some l => simpa [perform, calls, operate, hl] using l.operate_queue _ _ _ operation
  | session i => exact s.hear_queue i
  | setDelay microseconds => rfl
  | setCopies n => rfl
  | poll now => rfl
  | age wall => rfl

/-- The queue of a station sees the calls of the script and nothing else. -/
theorem run_queue (ds : List Deed) (s : Station) :
    (s.run ds).link.queue = Queue.run (s.script ds) s.link.queue := by
  induction ds generalizing s with
  | nil => rfl
  | cons d ds ih =>
    have h := ih (s.perform d)
    rw [perform_queue, ← Queue.run_append] at h
    exact h

/-! ## What the queue accepts -/

/-- The frames that the queue accepts in a deed, with their bulbs. -/
def accepted (s : Station) (d : Deed) : List (Option Bulb × Frame) :=
  Queue.accepted (s.calls d) s.link.queue

/-- The frames that the queue accepts in a run, with their bulbs. -/
def acceptedIn (ds : List Deed) (s : Station) : List (Option Bulb × Frame) :=
  Queue.accepted (s.script ds) s.link.queue

theorem acceptedIn_cons (d : Deed) (ds : List Deed) (s : Station) :
    s.acceptedIn (d::ds) = s.accepted d ++ (s.perform d).acceptedIn ds := by
  rw [acceptedIn, script, Queue.accepted_append, ← perform_queue]
  rfl

theorem accepted_operate {s : Station} {light : Nat} {l : Light} (hl : s.lights[light]? = some l)
    (operation : Operation) :
    s.accepted (.operate light operation) =
      (Progress.taken s.wall l.bulb (l.bulb.plan s.link.isValid l.state operation).all
        (.begin s.link l.state)).map (some l.bulb, ·) := by
  simp only [accepted, calls, hl]
  exact (Queue.accepted_marked _ _ _).symm

/-! ## The lights of a run -/

theorem hear_lights (s : Station) (i : Session.Input) : (s.hear i).lights = s.lights := by
  cases i <;> rfl

theorem operate_lights {s : Station} {light : Nat} {l : Light} (hl : s.lights[light]? = some l)
    (operation : Operation) :
    (s.perform (.operate light operation)).lights =
      s.lights.set light { l with state := (l.operate s.wall s.link operation).state } := by
  simp [perform, operate, hl]

/-- A deed is not done to a light, or it is an operation on it. -/
theorem perform_lights (s : Station) (d : Deed) :
    (s.perform d).lights = s.lights ∨
    ∃ light l operation, d = .operate light operation ∧ s.lights[light]? = some l ∧
      (s.perform d).lights =
        s.lights.set light { l with state := (l.operate s.wall s.link operation).state } := by
  cases d with
  | operate light operation =>
    cases hl : s.lights[light]? with
    | none => exact .inl (by simp [perform, operate, hl])
    | some l => exact .inr ⟨light, l, operation, rfl, hl, operate_lights hl operation⟩
  | session i => exact .inl (s.hear_lights i)
  | setDelay microseconds => exact .inl rfl
  | setCopies n => exact .inl rfl
  | poll now => exact .inl rfl
  | age wall => exact .inl rfl

theorem perform_bulbs (s : Station) (d : Deed) :
    (s.perform d).lights.map Light.bulb = s.lights.map Light.bulb := by
  rcases s.perform_lights d with h | ⟨light, l, operation, _, hl, h⟩ <;> rw [h]
  obtain ⟨hi, rfl⟩ := List.getElem?_eq_some_iff.mp hl
  rw [List.map_set]
  change (s.lights.map Light.bulb).set light s.lights[light].bulb = s.lights.map Light.bulb
  rw [← List.getElem_map Light.bulb, List.set_getElem_self]
  simpa using hi

/-- What holds of all bulbs goes on to hold of them. -/
theorem forall_bulbs {P : Bulb → Prop} {s s' : Station}
    (hb : s'.lights.map Light.bulb = s.lights.map Light.bulb)
    (h : ∀ l ∈ s.lights, P l.bulb) : ∀ l ∈ s'.lights, P l.bulb := by
  intro l hl
  have hm : l.bulb ∈ s.lights.map Light.bulb := hb ▸ List.mem_map_of_mem hl
  obtain ⟨m, hm, he⟩ := List.mem_map.mp hm
  exact he ▸ h m hm

theorem run_bulbs (ds : List Deed) (s : Station) :
    (s.run ds).lights.map Light.bulb = s.lights.map Light.bulb := by
  induction ds generalizing s with
  | nil => rfl
  | cons d ds ih => exact (ih _).trans (s.perform_bulbs d)

end Station

end LightBridge
