import LightBridge.Proofs.Queue.Pacing
import LightBridge.Proofs.Queue.Room
import LightBridge.Race

/-!
# The end of a queue

A queue that is disposed of shuts its doorbell, requests a stop and gives the
send loop the length of a pause to end. The loop races what it waits for against
the request, and its own work wins a tie. So a frame that waits is still taken,
but no pause outlasts the request. After the end nothing waits, nothing leaves
and every offer is refused.
-/

set_option autoImplicit false

namespace LightBridge.Queue

variable {α : Type} {now : Nat} {q : Queue}

/-- Work of some milliseconds is done in spite of a request to stop that is
there already. -/
def outruns (wait : Nat) : Bool := (Race.untilShutdown (some wait) (some 0)).finish == .worked wait

/-- Within the grace a loop can end that need not wait. -/
def isEnough (grace : Nat) : Bool := (Race.joinOrCancel (some 0) (some grace)).finish == .worked 0

/-- A step of the send loop when a stop is requested. To look for a frame takes
no time, and a shut doorbell still gives the rings it has. -/
def lastPoll (now : Nat) (q : Queue) : Queue × List Frame :=
  let done := match q.drain with
    | .seeking => outruns 0
    | .blocked => q.rings != 0 && outruns 0
    | .pausing wake => outruns (wake-now)
    | .stopped => false
  if done then q.poll now else ({ q with drain := .stopped }, [])

def lastPolls (now : Nat) : Nat → Queue → Queue × List Frame
  | 0, q => (q, [])
  | n+1, q =>
    let (q, sent) := q.lastPoll now
    let (q, more) := lastPolls now n q
    (q, sent ++ more)

/-- The disposal of a queue at a millisecond, as a race with the send loop. -/
def disposal (now : Nat) (q : Queue) : Queue × List Frame :=
  let shut := { q with closed := true }
  let (last, sent) := if isEnough q.delay then lastPolls now q.work shut else (shut, [])
  ({ last with waiting := [], drain := .stopped }, sent)

/-- A pause lasts beyond this millisecond. -/
def pauses (now : Nat) (q : Queue) : Bool := q.wake?.any fun wake => decide (now < wake)

/-- What the loop sends before it has to wait. -/
def due (now : Nat) (q : Queue) : List Frame := if q.pauses now then [] else q.waiting.take 1

/-! ## The race -/

theorem outruns_iff (wait : Nat) : outruns wait = true ↔ wait = 0 := by
  cases wait <;> simp [outruns, Race.untilShutdown, Race.finish]

theorem isEnough_iff (grace : Nat) : isEnough grace = true ↔ 0 < grace := by
  cases grace <;> simp [isEnough, Race.joinOrCancel, Race.finish]

/-- The loop loses the race exactly where it would have to wait. -/
theorem lastPoll_cases (now : Nat) (q : Queue) :
    q.lastPoll now = q.poll now ∨
    (q.lastPoll now = ({ q with drain := .stopped }, []) ∧ q.poll now = (q, [])) := by
  have h0 : outruns 0 = true := (outruns_iff 0).mpr rfl
  obtain ⟨waiting, rings, delay, copies, closed, drain⟩ := q
  cases drain with
  | seeking => exact .inl (by simp [lastPoll, h0])
  | blocked =>
    cases rings with
    | zero => exact .inr (by simp [lastPoll, poll])
    | succ n => exact .inl (by simp [lastPoll, h0])
  | pausing wake =>
    by_cases h : wake ≤ now
    · have hd : outruns (wake-now) = true := (outruns_iff _).mpr (Nat.sub_eq_zero_of_le h)
      exact .inl (by simp [lastPoll, hd])
    · have hd : outruns (wake-now) = false := by
        rw [← Bool.not_eq_true, outruns_iff]
        omega
      exact .inr (by simp [lastPoll, hd, poll, h])
  | stopped => exact .inl (by simp [lastPoll, poll])

theorem lastPolls_stopped (h : q.drain = .stopped) (now n : Nat) :
    (lastPolls now n q).2 = [] := by
  induction n generalizing q with
  | zero => rfl
  | succ n ih =>
    have hl : q.lastPoll now = ({ q with drain := .stopped }, []) := by simp [lastPoll, h]
    simp only [lastPolls, hl, List.nil_append]
    exact ih rfl

/-- The race costs the loop no frame that it could send at once. -/
theorem lastPolls_sent (now n : Nat) (q : Queue) : (lastPolls now n q).2 = (polls now n q).2 := by
  induction n generalizing q with
  | zero => rfl
  | succ n ih =>
    rcases lastPoll_cases now q with h | ⟨h, hp⟩
    · simp only [lastPolls, polls, h, ih]
    · rw [polls_fixed now _ q hp]
      simp only [lastPolls, h, List.nil_append]
      exact lastPolls_stopped rfl now n

/-! ## What a loop sends at once -/

/-- The loop of a queue hears its rings, and pauses after each frame. -/
structure Alert (q : Queue) : Prop where
  heard : q.drain = .blocked → q.waiting.length ≤ q.rings
  running : q.drain ≠ .stopped
  slow : 1 ≤ q.delay

theorem Alert.poll (h : q.Alert) (now : Nat) : (q.poll now).1.Alert := by
  have hs := h.slow
  rcases poll_cases now q with ⟨f, rest, _, _, hp⟩ | ⟨_, hw, hp⟩ | ⟨n, _, _, hp⟩ |
    ⟨t, _, _, hp⟩ | hp <;> rw [hp]
  · exact ⟨by simp, by simp, hs⟩
  · exact ⟨by simp [hw], by simp, hs⟩
  · exact ⟨by simp, by simp, hs⟩
  · exact ⟨by simp, by simp, hs⟩
  · exact h

theorem pauses_iff : q.pauses now = true ↔ ∃ wake, q.drain = .pausing wake ∧ now < wake := by
  obtain ⟨waiting, rings, delay, copies, closed, drain⟩ := q
  cases drain <;> simp [pauses, wake?]

theorem pauses_congr {q' : Queue} (h : q'.drain = q.drain) : q'.pauses now = q.pauses now := by
  simp only [pauses, wake?, h]

theorem due_of_pauses (h : q.pauses now = true) : q.due now = [] := if_pos h

theorem due_of_over (h : ∀ wake, q.drain = .pausing wake → wake ≤ now) :
    q.due now = q.waiting.take 1 := by
  rw [due, if_neg]
  rw [pauses_iff]
  rintro ⟨wake, hd, hw⟩
  have := h wake hd
  omega

theorem poll_pauses (h : q.pauses now = true) : q.poll now = (q, []) := by
  obtain ⟨wake, hd, hw⟩ := pauses_iff.mp h
  simp [poll, hd, Nat.not_le.mpr hw]

/-- A frame that a step sends is no longer due, and nothing else changes what is. -/
theorem poll_due (h : q.Alert) (now : Nat) :
    (q.poll now).2 ++ (q.poll now).1.due now = q.due now := by
  have hs := h.slow
  rcases poll_cases now q with ⟨f, rest, hd, hw, hp⟩ | ⟨hd, hw, hp⟩ | ⟨n, hd, _, hp⟩ |
    ⟨t, hd, ht, hp⟩ | hp <;> rw [hp]
  · have hpause : pauses now { q with waiting := rest, drain := .pausing (now+q.delay) } = true :=
      pauses_iff.mpr ⟨now+q.delay, rfl, by omega⟩
    rw [due_of_pauses hpause, due_of_over (by simp [hd]), hw]
    rfl
  · rw [due_of_over (by simp), due_of_over (by simp [hd])]
    rfl
  · rw [due_of_over (by simp), due_of_over (by simp [hd])]
    rfl
  · rw [due_of_over (by simp), due_of_over (by simpa [hd] using ht)]
    rfl
  · rfl

theorem polls_due (h : q.Alert) (now n : Nat) :
    (polls now n q).2 ++ (polls now n q).1.due now = q.due now := by
  induction n generalizing q with
  | zero => rfl
  | succ n ih =>
    simp only [polls, List.append_assoc]
    rw [ih (h.poll now), poll_due h]

theorem polls_alert (h : q.Alert) (now n : Nat) : (polls now n q).1.Alert := by
  induction n generalizing q with
  | zero => exact h
  | succ n ih => exact ih (h.poll now)

/-- A loop that can go no further pauses, or it has nothing to send. -/
theorem Alert.rests (h : q.Alert) (hp : q.poll now = (q, [])) :
    q.pauses now = true ∨ q.drain = .blocked ∧ q.waiting = [] := by
  have hheard := h.heard
  have hrunning := h.running
  obtain ⟨waiting, rings, delay, copies, closed, drain⟩ := q
  cases drain with
  | seeking => cases waiting <;> simp [Queue.poll] at hp
  | blocked =>
    cases rings with
    | zero => exact .inr ⟨rfl, List.length_eq_zero_iff.mp (Nat.le_zero.mp (hheard rfl))⟩
    | succ n => simp [Queue.poll] at hp
  | pausing wake =>
    left
    by_contra hn
    simp [pauses, wake?] at hn
    simp [Queue.poll, hn] at hp
  | stopped => exact absurd rfl hrunning

theorem polls_sent (h : q.Alert) {n : Nat} (hn : q.work ≤ n) : (polls now n q).2 = q.due now := by
  have hrest : (polls now n q).1.due now = [] := by
    rcases (polls_alert h now n).rests (poll_polls now n q hn) with hp | ⟨hd, hw⟩
    · exact due_of_pauses hp
    · rw [due_of_over (by simp [hd]), hw]
      rfl
  rw [← polls_due h now n, hrest, List.append_nil]

/-- The loop comes to pause only by sending. -/
theorem polls_pauses (h : q.Alert) (now n : Nat) :
    (polls now n q).1.pauses now = true ↔ q.pauses now = true ∨ (polls now n q).2 ≠ [] := by
  induction n generalizing q with
  | zero => simp [polls]
  | succ n ih =>
    have hslow := h.slow
    have hi := ih (h.poll now)
    rcases poll_cases now q with ⟨f, rest, hd, hw, hp⟩ | ⟨hd, _, hp⟩ | ⟨k, hd, _, hp⟩ |
      ⟨t, hd, ht, hp⟩ | hp <;> rw [hp] at hi <;> simp only [polls, hp]
    · have hpause : pauses now { q with waiting := rest, drain := .pausing (now+q.delay) } = true :=
        pauses_iff.mpr ⟨now+q.delay, rfl, by omega⟩
      rw [polls_fixed now n _ (poll_pauses hpause)]
      simpa using hpause
    · simpa [pauses, wake?, hd] using hi
    · simpa [pauses, wake?, hd] using hi
    · simpa [pauses, wake?, hd, Nat.not_lt.mpr ht] using hi
    · exact hi

/-! ## Disposal -/

/-- The race of a disposal sends what the loop would have sent at once. -/
theorem disposal_sent (h : q.Alert) (now : Nat) : (q.disposal now).2 = q.due now := by
  have hshut : Alert { q with closed := true } := ⟨h.heard, h.running, h.slow⟩
  simp only [disposal, (isEnough_iff q.delay).mpr h.slow, if_true, lastPolls_sent]
  exact polls_sent hshut (Nat.le_refl q.work)

/-- A disposal that comes after the loop had its turn takes no pause back. -/
theorem dispose_sent (h : q.Alert) (hover : q.wake? ≠ none → q.pauses now = true) :
    q.dispose.2 = q.due now := by
  have hslow := h.slow
  have hrunning := h.running
  obtain ⟨waiting, rings, delay, copies, closed, drain⟩ := q
  have hd : ¬ delay = 0 := by simp only at hslow; omega
  cases drain with
  | seeking | blocked =>
    rw [due_of_over (by simp)]
    cases waiting <;> simp [dispose, hd, sends_eq_one]
  | pausing wake =>
    rw [due_of_pauses (hover (by simp [wake?]))]
    rfl
  | stopped => exact absurd rfl hrunning

/-- A queue after its end. -/
structure Ended (q : Queue) : Prop where
  isClosed : q.closed = true
  empty : q.waiting = []
  stopped : q.drain = .stopped

theorem dispose_ended (q : Queue) : q.dispose.1.Ended := ⟨rfl, rfl, rfl⟩

theorem lastPoll_closed (now : Nat) (q : Queue) : (q.lastPoll now).1.closed = q.closed := by
  rcases lastPoll_cases now q with h | ⟨h, _⟩ <;> rw [h]
  rcases poll_cases now q with ⟨f, rest, _, _, hp⟩ | ⟨_, _, hp⟩ | ⟨n, _, _, hp⟩ |
    ⟨t, _, _, hp⟩ | hp <;> rw [hp]

theorem lastPolls_closed (now n : Nat) (q : Queue) : (lastPolls now n q).1.closed = q.closed := by
  induction n generalizing q with
  | zero => rfl
  | succ n ih => exact (ih _).trans (lastPoll_closed now q)

theorem disposal_ended (now : Nat) (q : Queue) : (q.disposal now).1.Ended := by
  refine ⟨?_, rfl, rfl⟩
  simp only [disposal]
  split
  · exact lastPolls_closed now q.work _
  · rfl

/-! ## After the end -/

section Ended

variable (h : q.Ended)

include h

theorem Ended.enqueue (f : Frame) : q.enqueue f = (q, .error .queueClosed) :=
  enqueue_closed h.isClosed f

theorem Ended.poll (now : Nat) : q.poll now = (q, []) := by
  simp [Queue.poll, h.stopped]

theorem Ended.settle (now : Nat) : q.settle now = (q, []) := polls_fixed now _ q (h.poll now)

theorem Ended.dispose : q.dispose = (q, []) := by
  obtain ⟨waiting, rings, delay, copies, closed, drain⟩ := q
  obtain ⟨rfl, rfl, rfl⟩ := h
  rfl

theorem Ended.disposal (now : Nat) : q.disposal now = (q, []) := by
  have hl : ∀ n, lastPolls now n q = (q, []) := by
    intro n
    have hlast : q.lastPoll now = (q, []) := by
      rcases lastPoll_cases now q with hp | ⟨hp, _⟩ <;> rw [hp]
      · exact h.poll now
      · rw [← h.stopped]
    induction n with
    | zero => rfl
    | succ n ih => simp [lastPolls, hlast, ih]
  obtain ⟨waiting, rings, delay, copies, closed, drain⟩ := q
  obtain ⟨rfl, rfl, rfl⟩ := h
  simp [Queue.disposal, hl]

theorem Ended.fill (f : Frame) (n : Nat) : (q.fill f n).1 = q := by
  cases n with
  | zero => rfl
  | succ n => simp [Queue.fill, h.enqueue f]

theorem Ended.call (c : Call α) : (q.call c).1.Ended := by
  obtain ⟨hc, hw, hd⟩ := call_closed h.isClosed h.stopped c
  exact ⟨hc, hw.trans h.empty, hd⟩

/-- Offers of any kind leave the queue as it is. -/
theorem Ended.offers (mark : α) (fs : List Frame) : run (fs.map (.enqueue mark)) q = q := by
  induction fs with
  | nil => rfl
  | cons f fs ih => simpa [run, Queue.call, h.enqueue f] using ih

end Ended

/-! ## Reachable queues -/

theorem enqueue_same (q : Queue) (f : Frame) :
    (q.enqueue f).1.drain = q.drain ∧ (q.enqueue f).1.delay = q.delay ∧
      (q.enqueue f).1.closed = q.closed := by
  unfold enqueue
  split
  · exact ⟨rfl, rfl, rfl⟩
  · dsimp only
    split <;> exact ⟨rfl, rfl, rfl⟩

theorem poll_running (h : q.drain ≠ .stopped) (now : Nat) : (q.poll now).1.drain ≠ .stopped := by
  rcases poll_cases now q with ⟨f, rest, _, _, hp⟩ | ⟨_, _, hp⟩ | ⟨n, _, _, hp⟩ |
    ⟨t, _, _, hp⟩ | hp <;> rw [hp]
  any_goals simp
  exact h

theorem call_running (h : q.drain ≠ .stopped) (c : Call α) : (q.call c).1.drain ≠ .stopped := by
  cases c with
  | enqueue mark f =>
    rw [call, (enqueue_same q f).1]
    exact h
  | setDelay microseconds => exact h
  | setCopies n => exact h
  | poll now => exact poll_running h now

/-- Only a disposal stops the loop. -/
theorem uses_running (us : List (Use α)) {q : Queue} (h : q.closed = false → q.drain ≠ .stopped)
    (hq : q.Tidy) : (uses us q).closed = false → (uses us q).drain ≠ .stopped := by
  induction us generalizing q with
  | nil => exact h
  | cons u us ih =>
    refine ih ?_ (use_tidy hq u)
    cases u with
    | dispose => exact fun ho => nomatch ho
    | call c =>
      intro ho
      refine call_running (h ?_) c
      by_contra hc
      have hclosed := call_closed (by simpa using hc) (hq.ended (by simpa using hc)).2 c
      exact absurd (hclosed.1.symm.trans ho) (by simp)

/-- A reachable queue has ended, or it is open and its loop runs. -/
theorem uses_alert (us : List (Use α)) (hd : 1 ≤ (uses us start).delay) :
    (uses us start).Ended ∨ (uses us start).Sound ∧ (uses us start).Alert := by
  have ht : (uses us start).Tidy := uses_tidy us start_tidy
  by_cases hc : (uses us start).closed = true
  · obtain ⟨hw, hs⟩ := ht.ended hc
    exact .inl ⟨hc, hw, hs⟩
  · have ho : (uses us start).closed = false := by simpa using hc
    have hs := ht.living ho
    have hr : (uses us start).drain ≠ .stopped :=
      uses_running us (by simp [start]) start_tidy ho
    exact .inr ⟨hs, hs.heard, hr, hd⟩

end LightBridge.Queue
