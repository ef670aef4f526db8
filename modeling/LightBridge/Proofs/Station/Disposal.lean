import LightBridge.Proofs.Station.Action

/-!
# After the end of a queue

The queue of a station can be disposed of at any time. Then at most the oldest
waiting frame still leaves, and whatever is done to the station later, its queue
stays empty and refuses every frame, so nothing leaves any more.
-/

set_option autoImplicit false

namespace LightBridge

open Event

/-! ## The last frame -/

namespace Queue

theorem polls_sound {q : Queue} (h : q.Sound) (now n : Nat) : (polls now n q).1.Sound := by
  induction n generalizing q with
  | zero => exact h
  | succ n ih => exact ih (poll_sound h now)

theorem Offered.alert {q q' : Queue} (hs : q.Sound) (ha : q.Alert) (h : q.Offered q') :
    q'.Alert := by
  obtain ⟨hd, hl⟩ := h.same
  obtain ⟨fs, rfl⟩ := h
  exact ⟨(run_sound _ hs).heard, hd ▸ ha.running, hl ▸ ha.slow⟩

/-- What a turn of the loop and a disposal after it send, if frames were offered
in between. -/
theorem settle_dispose {q q' : Queue} {now : Nat} (hs : q.Sound) (ha : q.Alert)
    (ho : (q.settle now).1.Offered q') :
    (q.settle now).2 ++ q'.dispose.2 =
      if q.pauses now then [] else (q.waiting ++ q'.waiting).take 1 := by
  have hdue : (q.settle now).2 = q.due now := polls_sent ha (Nat.le_refl _)
  have hrest := (polls_alert ha now q.work).rests (poll_settle now q)
  have hpause := polls_pauses ha now q.work
  change (q.settle now).1.pauses now = true ↔ _ ∨ (q.settle now).2 ≠ [] at hpause
  have hd := ho.same.1
  have hlast : q'.dispose.2 = q'.due now := by
    refine dispose_sent (ho.alert (polls_sound hs now _) (polls_alert ha now _)) ?_
    intro hw
    rw [pauses_congr hd]
    refine hrest.resolve_right ?_
    rintro ⟨hb, _⟩
    exact hw (by simp [wake?, hd.trans hb])
  rw [hlast, hdue]
  rw [hdue, ← pauses_congr hd] at hpause
  by_cases hp : q.pauses now = true
  · rw [due_of_pauses hp, due_of_pauses (hpause.mpr (.inl hp)), if_pos hp]
    rfl
  · rw [if_neg hp]
    have hq : q.due now = q.waiting.take 1 := if_neg hp
    cases hw : q.waiting with
    | nil =>
      have hn : ¬ q'.pauses now = true := by
        rw [hpause, hq, hw]
        simp [hp]
      rw [hq, hw, due, if_neg hn]
      rfl
    | cons f rest =>
      rw [due_of_pauses (hpause.mpr (.inr (by simp [hq, hw]))), hq, hw]
      rfl

end Queue

/-! ## Later actions -/

namespace Station

section Ended

variable {s : Station} (h : s.link.queue.Ended)

include h

theorem turn_ended (arrival : Option Arrival) :
    (s.turn arrival).1.link.queue = s.link.queue ∧ frames (s.turn arrival).2 = [] := by
  have ho := s.turn_offered arrival
  have hf := s.turn_frames arrival
  rw [h.settle] at ho hf
  exact ⟨h.offered ho, hf⟩

theorem settle_ended (arrival : Option Arrival) :
    (s.settle arrival).1.link.queue = s.link.queue ∧ frames (s.settle arrival).2 = [] := by
  obtain ⟨hq, hf⟩ := turn_ended h arrival
  have hs := h.settle (s.turn arrival).1.clock
  simp [settle, Link.drain, hq, hf, hs]

theorem pauses_ended (n : Nat) : s.pauses n = (s, []) := by
  cases n with
  | zero => rfl
  | succ n => simp [pauses, Queue.wake?, h.stopped]

theorem advance_ended (n : Nat) :
    (s.advance n).1.link.queue = s.link.queue ∧ Trace.sent (s.advance n).2 = [] := by
  -- At each millisecond the queue is as it was, and nothing has left.
  let I : Nat → Station → Trace → Prop := fun _ s' t =>
    s'.link.queue = s.link.queue ∧ frames (t.map (·.2)) = []
  have hnext : ∀ now s' t, I now s' t →
      I now (settleAt now s').1 (t ++ Timeline.stamp now (settleAt now s').2) := by
    intro now s' t ⟨hq, ht⟩
    have hs := settle_ended (s := { s' with clock := now }) (hq ▸ h) none
    refine ⟨hs.1.trans hq, ?_⟩
    simpa [settleAt, Timeline.stamp, ht, Function.comp_def] using hs.2
  have hstart : I s.clock s [] := ⟨rfl, rfl⟩
  have hp := Timeline.pass_keeps hnext (fun now => hnext (now+1)) n s.clock hstart
  refine ⟨hp.1, Trace.sent_eq_nil.mpr ?_⟩
  simpa [advance, Function.comp_def] using hp.2

theorem flush_ended :
    s.flush.1.link.queue = s.link.queue ∧ frames s.flush.2 = [] := by
  obtain ⟨hq, hf⟩ := settle_ended h none
  simp [flush, pauses_ended (hq ▸ h), hq, hf]

theorem operate_ended (light : Nat) (operation : Operation) :
    (s.operate light operation).1.link.queue = s.link.queue := by
  cases hl : s.lights[light]? with
  | none => simp [operate, hl]
  | some l =>
    have hq := l.operate_queue (none : Option Bulb) s.wall s.link operation
    rw [h.offers] at hq
    simpa [operate, hl] using hq

/-- Nothing is sent once the queue has ended, and nothing opens it again. -/
theorem step_ended (a : Action) :
    (s.step a).1.link.queue.Ended ∧ (s.step a).2.trace.sent = [] := by
  have hsame : ∀ {q : Queue}, q = s.link.queue → q.Ended := fun hq => hq ▸ h
  have hnotices : ∀ ns : List Notice, (Report.ofNotices ns).trace.sent = [] := by
    intro ns
    simp [Report.ofNotices, Report.ofEvents, Trace.sent_stamp]
  have hevents : ∀ {events : List Event}, frames events = [] →
      (Report.ofEvents events).trace.sent = [] := by
    intro events hf
    simp [Report.ofEvents, Trace.sent_stamp, hf]
  cases a with
  | operate light operation => exact ⟨hsame (operate_ended h light operation), hnotices _⟩
  | addLight light => exact ⟨h, rfl⟩
  | enqueue frame => exact ⟨hsame (congrArg Prod.fst (h.enqueue frame)), rfl⟩
  | fill frame copies => exact ⟨hsame (h.fill frame copies), rfl⟩
  | setDelay microseconds => exact ⟨h.call (.setDelay microseconds : Queue.Call Unit), rfl⟩
  | setCopies n => exact ⟨h.call (.setCopies n : Queue.Call Unit), rfl⟩
  | keepAlive => exact ⟨hsame (h.offered (s.link.take_offered s.wall .keepAlive)), hnotices _⟩
  | packet bytes =>
    exact ⟨hsame (h.offered (s.link.take_offered s.wall (.packet bytes))), hnotices _⟩
  | setPassword pw1 pw2 => exact ⟨h, rfl⟩
  | setSequence n => exact ⟨h, rfl⟩
  | nextHeader => exact ⟨hsame (s.link.nextHeader_queue s.wall), hnotices _⟩
  | refresh => exact ⟨h, rfl⟩
  | advance milliseconds =>
    obtain ⟨hq, ht⟩ := advance_ended h milliseconds
    exact ⟨hsame hq, ht⟩
  | flush =>
    obtain ⟨hq, hf⟩ := flush_ended h
    exact ⟨hsame hq, hevents hf⟩
  | arrive arrival =>
    obtain ⟨hq, hf⟩ := settle_ended h (some arrival)
    exact ⟨hsame hq, hevents hf⟩
  | disposeQueue =>
    obtain ⟨hq, hf⟩ := turn_ended h none
    have hd : frames s.disposeQueue.2 = [] := by
      simp [disposeQueue, Link.disposeQueue, hf, (hsame hq).dispose]
    exact ⟨(s.turn none).1.link.queue.dispose_ended, hevents hd⟩
  | disposeSession =>
    obtain ⟨hq, hf⟩ := settle_ended h none
    exact ⟨hsame hq, hevents hf⟩
  | dispose =>
    obtain ⟨hq, hf⟩ := settle_ended h none
    have hd : frames s.dispose.2 = [] := by
      simp [dispose, Link.disposeQueue, Link.stopReceiver, hf, (hsame hq).dispose]
    exact ⟨(s.settle none).1.link.queue.dispose_ended, hevents hd⟩

theorem act_ended (wall : Nat) (a : Action) :
    (s.act wall a).1.link.queue.Ended ∧ (s.act wall a).2.trace.sent = [] :=
  step_ended (s := { s with wall }) h a

theorem reports_ended (as : List (Nat × Action)) :
    ∀ report ∈ s.reports as, report.trace.sent = [] := by
  induction as generalizing s with
  | nil => exact fun report hr => nomatch hr
  | cons x as ih =>
    obtain ⟨hq, ht⟩ := act_ended h x.1 x.2
    exact List.forall_mem_cons.mpr ⟨ht, ih hq⟩

end Ended

/-! ## The end -/

theorem disposeQueue_sent (s : Station) :
    (s.step .disposeQueue).2.trace.sent =
      ((s.link.queue.settle s.clock).2 ++ (s.turn none).1.link.queue.dispose.2).map
        fun f => (0, f.bytes) := by
  have hf : frames s.disposeQueue.2 =
      ((s.link.queue.settle s.clock).2 ++ (s.turn none).1.link.queue.dispose.2).map
        Frame.bytes := by
    simp [disposeQueue, Link.disposeQueue, turn_frames]
  have ht : (s.step .disposeQueue).2.trace = Timeline.stamp 0 s.disposeQueue.2 := rfl
  rw [ht, Trace.sent_stamp, hf, List.map_map]
  rfl

/-- The disposal of a queue sends at most one more frame, the oldest that waits,
and none if the loop pauses. After it nothing waits, every frame is refused and
nothing is sent, whatever is done to the station. -/
theorem queue_ends {α : Type} (us : List (Queue.Use α)) {s : Station}
    (hq : s.link.queue = Queue.uses us .start) (hd : 1 ≤ s.link.queue.delay) :
    let q := s.link.queue
    let u := (s.turn none).1.link.queue
    let ended := s.step .disposeQueue
    (∀ now, (q.disposal now).2 = (if q.pauses now then [] else q.waiting.take 1) ∧
      (q.disposal now).1.Ended) ∧
    ended.2.trace.sent =
      (if q.pauses s.clock then [] else (q.waiting ++ u.waiting).take 1).map
        (fun f => (0, f.bytes)) ∧
    ended.1.link.queue.waiting = [] ∧
    ∀ as : List (Nat × Action),
      (∀ report ∈ ended.1.reports as, report.trace.sent = []) ∧
      let p := (ended.1.after as).link.queue
      p.waiting = [] ∧ (∀ f, p.enqueue f = (p, .error .queueClosed)) ∧
        p.dispose = (p, []) ∧ ∀ now, p.disposal now = (p, []) := by
  intro q u ended
  have hended : ended.1.link.queue.Ended := u.dispose_ended
  have hturn : (q.settle s.clock).1.Offered u := s.turn_offered none
  have hlast : (∀ now, (q.disposal now).2 = q.due now) ∧
      (q.settle s.clock).2 ++ u.dispose.2 =
        if q.pauses s.clock then [] else (q.waiting ++ u.waiting).take 1 := by
    have hreach : q.Ended ∨ q.Sound ∧ q.Alert := by
      rw [hq] at hd
      rw [show q = Queue.uses us .start from hq]
      exact Queue.uses_alert us hd
    rcases hreach with he | ⟨hs, ha⟩
    · have hu : u = q := by
        rw [he.settle] at hturn
        exact he.offered hturn
      constructor
      · intro now
        simp [he.disposal, Queue.due, he.empty]
      · rw [hu, he.settle, he.dispose, he.empty]
        simp
    · exact ⟨Queue.disposal_sent ha, Queue.settle_dispose hs ha hturn⟩
  refine ⟨fun now => ⟨hlast.1 now, q.disposal_ended now⟩, ?_, rfl, ?_⟩
  · rw [← hlast.2]
    exact s.disposeQueue_sent
  · intro as
    have hp : (ended.1.after as).link.queue.Ended :=
      after_keeps (·.link.queue.Ended) (fun _ wall a h => (act_ended h wall a).1) as hended
    exact ⟨reports_ended hended as, hp.empty, hp.enqueue, hp.dispose, hp.disposal⟩

/-- Two frames wait for a loop that has not run yet. -/
def parting : List (Queue.Use Unit) :=
  [.call (.enqueue () ⟨[0x45, 0, 0x55], 111, true⟩),
    .call (.enqueue () ⟨[0x4E, 9, 0x55], 311, true⟩)]

def closing : Station :=
  .start (.start (Queue.uses parting .start) none) none [.create ⟨.v3Rgbw, 1⟩ none]

theorem closing_ends :
    let ended := closing.step .disposeQueue
    let as : List (Nat × Action) :=
      [(0, .advance 1000), (5, .operate 0 (.setBrightness 50)), (9, .disposeQueue), (9, .flush)]
    closing.link.queue = Queue.uses parting .start ∧ 1 ≤ closing.link.queue.delay ∧
    closing.link.queue.waiting.length = 2 ∧
    ended.2.trace.sent = [(0, [0x45, 0, 0x55])] ∧
    (∀ report ∈ ended.1.reports as, report.trace.sent = []) ∧
    (ended.1.after as).link.queue.enqueue ⟨[1], 0, false⟩ =
      ((ended.1.after as).link.queue, .error .queueClosed) := by
  have hq : closing.link.queue = Queue.uses parting .start := rfl
  have hd : 1 ≤ closing.link.queue.delay := by decide
  obtain ⟨_, hsent, _, hlater⟩ := queue_ends parting hq hd
  refine ⟨hq, hd, by decide, ?_, (hlater _).1, (hlater _).2.2.1 _⟩
  rw [hsent]
  rfl

end Station

end LightBridge
