import LightBridge.Action
import LightBridge.Proofs.Queue.Disposal
import LightBridge.Proofs.Station.Deed

/-!
# Runs of actions

A run of a station may also let its loops run, by passing time or by hearing
datagrams, and may end them. Whatever the loops of the session and of the
look-up do, to the queue they only make offers: frames leave by the send loop.
-/

set_option autoImplicit false

namespace LightBridge

/-! ## The frames among events -/

namespace Event

def frames (events : List Event) : List (List UInt8) := events.filterMap sent?

@[simp] theorem frames_nil : frames [] = [] := rfl

theorem frames_cons (event : Event) (events : List Event) :
    frames (event::events) = event.sent?.toList ++ frames events := by
  cases event <;> rfl

@[simp] theorem frames_append (events more : List Event) :
    frames (events ++ more) = frames events ++ frames more := List.filterMap_append

@[simp] theorem frames_ofFrames (fs : List Frame) : frames (ofFrames fs) = fs.map Frame.bytes := by
  induction fs with
  | nil => rfl
  | cons f fs ih => simpa [frames, ofFrames, sent?] using ih

@[simp] theorem frames_ofNotices (ns : List Notice) : frames (ofNotices ns) = [] := by
  simp [frames, ofNotices, sent?, List.filterMap_map, Function.comp_def]

end Event

open Event

namespace Trace

theorem sent_stamp (time : Nat) (events : List Event) :
    sent (Timeline.stamp time events) = (frames events).map (time, ·) := by
  simp [sent, pick, Timeline.stamp, frames, List.filterMap_map, List.map_filterMap]

theorem sent_eq_nil {t : Trace} : t.sent = [] ↔ frames (t.map (·.2)) = [] := by
  simp [sent, pick, frames, List.filterMap_map]

end Trace

/-! ## What the look-up shows -/

/-- A discovery shows probes, outcomes and answers that it cannot read. -/
def Event.ofDiscovery : Event → Bool
  | .probed _ | .ended _ | .noticed (.unexpectedAnswer ..) => true
  | _ => false

namespace Discovery

theorem runLoop_shows (now n : Nat) (d : Discovery) (r : Resend) :
    ∀ e ∈ (runLoop now n d r).2.1, e.ofDiscovery = true := by
  induction n generalizing d r with
  | zero => exact List.forall_mem_nil _
  | succ n ih =>
    unfold runLoop
    split
    · exact List.forall_mem_nil _
    · split
      · exact List.forall_mem_nil _
      · split
        · exact List.forall_mem_singleton.mpr rfl
        · exact List.forall_mem_append.mpr ⟨by decide, ih _ _⟩

theorem runLoops_shows (now : Nat) (rs : List Resend) (d : Discovery) :
    ∀ e ∈ (runLoops now rs d).2.1, e.ofDiscovery = true := by
  induction rs generalizing d with
  | nil => exact List.forall_mem_nil _
  | cons r rs ih =>
    simp only [runLoops, List.forall_mem_append]
    exact ⟨runLoop_shows now _ d r, ih _⟩

theorem hear_shows (answer : Option (Endpoint × List UInt8)) (d : Discovery) :
    ∀ e ∈ (d.hear answer).2, e.ofDiscovery = true := by
  unfold hear
  split
  · exact List.forall_mem_nil _
  · unfold receive
    split
    · exact List.forall_mem_singleton.mpr rfl
    · split
      · exact List.forall_mem_singleton.mpr rfl
      · exact List.forall_mem_nil _
  · exact List.forall_mem_nil _

theorem settleAfter_shows (before : Discovery → Discovery)
    (answer : Option (Endpoint × List UInt8)) (now : Nat) (d : Discovery) :
    ∀ e ∈ (d.settleAfter before answer now).2, e.ofDiscovery = true := by
  unfold settleAfter
  split <;> simp only [List.forall_mem_append, resend]
  · exact ⟨hear_shows answer _, runLoops_shows now _ _⟩
  · exact ⟨runLoops_shows now _ _, hear_shows answer _⟩

theorem settleAfter_frames (before : Discovery → Discovery)
    (answer : Option (Endpoint × List UInt8)) (now : Nat) (d : Discovery) :
    frames (d.settleAfter before answer now).2 = [] := by
  refine List.filterMap_eq_nil_iff.mpr fun e he => ?_
  have h := settleAfter_shows before answer now d e he
  cases e with
  | sent bytes => cases h
  | probed | ended | noticed => rfl

end Discovery

theorem Presence.noteAll_frames (id : String) (hasSession : Bool) (wall : Nat) (p : Presence)
    (events : List Event) :
    frames (p.noteAll id hasSession wall events).2.1 = frames events := by
  induction events generalizing p with
  | nil => rfl
  | cons event events ih => simp [noteAll, frames_cons, ih]

theorem Lookup.settle_frames (l : Lookup) (hasSession : Bool) (wall : Nat)
    (answer : Option (Endpoint × List UInt8)) (now : Nat) :
    frames (l.settle hasSession wall answer now).2.1 = [] := by
  simp [settle, Presence.noteAll_frames, Discovery.settleAfter_frames]

/-! ## What the loops offer -/

/-- The second queue is the first after some offers. -/
def Queue.Offered (q q' : Queue) : Prop :=
  ∃ fs : List Frame, q' = q.run (fs.map (.enqueue (none : Option Bulb)))

theorem Queue.Offered.refl (q : Queue) : q.Offered q := ⟨[], rfl⟩

theorem Queue.Offered.trans {q q' q'' : Queue} (h : q.Offered q') (h' : q'.Offered q'') :
    q.Offered q'' := by
  obtain ⟨fs, rfl⟩ := h
  obtain ⟨gs, rfl⟩ := h'
  exact ⟨fs++gs, by rw [List.map_append, Queue.run_append]⟩

/-- Offers concern neither the loop nor its pace. -/
theorem Queue.Offered.same {q q' : Queue} (h : q.Offered q') :
    q'.drain = q.drain ∧ q'.delay = q.delay := by
  obtain ⟨fs, rfl⟩ := h
  induction fs generalizing q with
  | nil => exact ⟨rfl, rfl⟩
  | cons f fs ih =>
    obtain ⟨hd, hl, _⟩ := q.enqueue_same f
    exact ⟨ih.1.trans hd, ih.2.trans hl⟩

theorem Queue.Ended.offered {q q' : Queue} (h : q.Ended) (ho : q.Offered q') : q' = q := by
  obtain ⟨fs, rfl⟩ := ho
  exact h.offers none fs

theorem Link.take_offered (wall : Nat) (l : Link) (i : Session.Input) :
    l.queue.Offered (l.take wall i).queue := by
  rw [take_queue]
  simp only [calls, offerCalls, offer?]
  cases l.session.bind fun s => (s.take wall i).2 with
  | none => exact .refl _
  | some f => exact ⟨[f], rfl⟩

theorem Link.hear_offered (wall : Nat) (datagram : Option (List UInt8)) (l : Link) :
    l.queue.Offered (l.hear wall datagram).1.queue := by
  have hopened : ∀ receiver, l.queue.Offered (keepAlive wall { l with receiver }).1.queue :=
    fun receiver => take_offered wall { l with receiver } .keepAlive
  unfold hear
  cases l.receiver with
  | fresh =>
    dsimp only
    split
    · exact (hopened .listening).trans (take_offered wall _ (.packet _))
    · exact hopened .listening
  | listening | stopped =>
    dsimp only
    split
    · exact take_offered wall l (.packet _)
    · exact .refl _

namespace Station

theorem search_offered (arrival : Option Arrival) (s : Station) :
    s.link.queue.Offered (s.search arrival).1.link.queue := by
  unfold search
  split
  · exact .refl _
  · dsimp only
    split
    · exact s.link.take_offered s.wall .keepAlive
    · exact .refl _

theorem search_frames (arrival : Option Arrival) (s : Station) :
    frames (s.search arrival).2 = [] := by
  unfold search
  split
  · rfl
  · simp [Lookup.settle_frames]

/-- In a turn the send loop runs first, and the others may offer frames. -/
theorem turn_offered (arrival : Option Arrival) (s : Station) :
    (s.link.queue.settle s.clock).1.Offered (s.turn arrival).1.link.queue :=
  (Link.hear_offered s.wall _ (s.link.drain s.clock).1).trans (search_offered arrival _)

theorem turn_frames (arrival : Option Arrival) (s : Station) :
    frames (s.turn arrival).2 = (s.link.queue.settle s.clock).2.map Frame.bytes := by
  simp [turn, search_frames, Link.drain]

/-! ## What the loops leave alone -/

theorem turn_lights (arrival : Option Arrival) (s : Station) :
    (s.turn arrival).1.lights = s.lights := by
  simp only [turn, search]
  split <;> rfl

theorem settle_lights (arrival : Option Arrival) (s : Station) :
    (s.settle arrival).1.lights = s.lights :=
  s.turn_lights arrival

theorem advance_lights (milliseconds : Nat) (s : Station) :
    (s.advance milliseconds).1.lights = s.lights :=
  Timeline.pass_same (fun now s => settle_lights none { s with clock := now }) milliseconds s.clock s

theorem pauses_lights (n : Nat) (s : Station) : (s.pauses n).1.lights = s.lights := by
  induction n generalizing s with
  | zero => rfl
  | succ n ih =>
    unfold pauses
    split
    · rfl
    · exact (ih _).trans (s.advance_lights _)

theorem flush_lights (s : Station) : s.flush.1.lights = s.lights := by
  have hp := pauses_lights ((s.settle none).1.link.queue.waiting.length+1) (s.settle none).1
  exact hp.trans (s.settle_lights none)

/-- The lights change by operations and by a light that is added. -/
theorem step_lights (s : Station) (a : Action) :
    (s.step a).1.lights = s.lights ∨
    (∃ l, a = .addLight l ∧ (s.step a).1.lights = s.lights ++ [l]) ∨
    ∃ light l operation, a = .operate light operation ∧ s.lights[light]? = some l ∧
      (s.step a).1.lights =
        s.lights.set light { l with state := (l.operate s.wall s.link operation).state } := by
  cases a with
  | operate light operation =>
    cases hl : s.lights[light]? with
    | none => exact .inl (by simp [step, operate, hl])
    | some l => exact .inr (.inr ⟨light, l, operation, rfl, hl, operate_lights hl operation⟩)
  | addLight light => exact .inr (.inl ⟨light, rfl, rfl⟩)
  | advance milliseconds => exact .inl (s.advance_lights milliseconds)
  | flush => exact .inl s.flush_lights
  | arrive arrival => exact .inl (s.settle_lights (some arrival))
  | disposeQueue => exact .inl (s.turn_lights none)
  | disposeSession => exact .inl (s.settle_lights none)
  | dispose => exact .inl (s.settle_lights none)
  | _ => exact .inl rfl

/-! ## Runs -/

/-- An action, with the clock of all ages at the given time. -/
def act (s : Station) (wall : Nat) (a : Action) : Station × Report := { s with wall }.step a

def after : List (Nat × Action) → Station → Station
  | [], s => s
  | (wall, a)::as, s => after as (s.act wall a).1

def reports : List (Nat × Action) → Station → List Report
  | [], _ => []
  | (wall, a)::as, s => (s.act wall a).2 :: reports as (s.act wall a).1

/-- What every action keeps holds after a run. -/
theorem after_keeps (I : Station → Prop) (next : ∀ s wall a, I s → I (s.act wall a).1)
    (as : List (Nat × Action)) {s : Station} (h : I s) : I (s.after as) := by
  induction as generalizing s with
  | nil => exact h
  | cons x as ih => exact ih (next s x.1 x.2 h)

end Station

end LightBridge
