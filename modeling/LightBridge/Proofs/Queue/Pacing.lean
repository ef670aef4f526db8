import LightBridge.Proofs.Queue.Call
import LightBridge.Proofs.Split
import LightBridge.Timeline

/-!
# The pace of a queue

At each millisecond the send loop runs as far as it can. In between frames are
offered and the delay is changed. A frame leaves as soon as two things have
happened: the pause after the last one is over, and a frame has come to a queue
in which none waited. The length of the pause is the delay right after the last
frame left, whatever the delay becomes while the pause lasts.
-/

set_option autoImplicit false

namespace LightBridge

/-! ## What holds while time passes -/

namespace Timeline

variable {σ ε : Type} {run : Nat → σ → σ × List ε} {I : Nat → σ → List (Nat × ε) → Prop}

/-- What each millisecond keeps holds after some of them. -/
theorem later_keeps
    (next : ∀ now s log, I now s log →
      I (now+1) (run (now+1) s).1 (log ++ stamp (now+1) (run (now+1) s).2))
    (n start elapsed : Nat) {s : σ} {log : List (Nat × ε)} (h : I (start+elapsed) s log) :
    I (start+elapsed+n) (later run n (start+elapsed) elapsed s).1
      (log ++ (later run n (start+elapsed) elapsed s).2.map fun e => (start+e.1, e.2)) := by
  induction n generalizing elapsed s log with
  | zero => simpa [later] using h
  | succ n ih =>
    have hi := ih (elapsed+1) (next _ _ _ h)
    have hstamp : ∀ events : List ε, (stamp (elapsed+1) events).map (fun e => (start+e.1, e.2)) =
        stamp (start+elapsed+1) events := by
      intro events
      simp [stamp, Nat.add_assoc]
    simp only [later, List.map_append, hstamp, ← List.append_assoc]
    have hclock : start+(elapsed+1)+n = start+elapsed+(n+1) := by omega
    rw [hclock] at hi
    exact hi

/-- A pass is its first millisecond and those after it. -/
theorem pass_keeps {J : Nat → σ → List (Nat × ε) → Prop}
    (first : ∀ now s log, J now s log → I now (run now s).1 (log ++ stamp now (run now s).2))
    (next : ∀ now s log, I now s log →
      I (now+1) (run (now+1) s).1 (log ++ stamp (now+1) (run (now+1) s).2))
    (n start : Nat) {s : σ} {log : List (Nat × ε)} (h : J start s log) :
    I (start+n) (pass run n start s).1
      (log ++ (pass run n start s).2.map fun e => (start+e.1, e.2)) := by
  have hl := later_keeps next n start 0 (first _ _ _ h)
  simpa [pass, stamp, Function.comp_def] using hl

/-- What no millisecond changes is the same after a pass. -/
theorem pass_same {α : Type} {view : σ → α} (same : ∀ now s, view (run now s).1 = view s)
    (n start : Nat) (s : σ) : view (pass run n start s).1 = view s := by
  let J : Nat → σ → List (Nat × ε) → Prop := fun _ s' _ => view s' = view s
  have hnext : ∀ now s' log, J now s' log → J now (run now s').1 (log ++ stamp now (run now s').2) :=
    fun now s' _ h => (same now s').trans h
  exact @pass_keeps σ ε run J J hnext (fun now => hnext (now+1)) n start s [] rfl

end Timeline

namespace Queue

/-! ## Timed runs -/

inductive Timed where
  | enqueue (frame : Frame)
  | setDelay (microseconds : Nat)
  | pass (milliseconds : Nat)
  deriving DecidableEq, Repr

inductive Sight where
  /-- A frame was accepted while none waited. -/
  | filled
  /-- A frame left, with the delay in force right after. -/
  | left (frame : Frame) (delay : Nat)
  deriving DecidableEq, Repr

/-- A queue at a millisecond, with what was seen of it and when. -/
structure Course where
  clock : Nat
  queue : Queue
  log : List (Nat × Sight)
  deriving DecidableEq, Repr

/-- Lets the loop run as far as it can, and reads the delay that it finds. -/
def settleSeen (now : Nat) (q : Queue) : Queue × List Sight :=
  ((q.settle now).1, (q.settle now).2.map fun f => .left f (q.settle now).1.delay)

namespace Course

def start : Course := ⟨0, Queue.start, []⟩

def step (c : Course) : Timed → Course
  | .enqueue f =>
    let fills := c.queue.waiting.isEmpty && (c.queue.enqueue f).2.isOk
    { c with
      queue := (c.queue.enqueue f).1
      log := c.log ++ if fills then [(c.clock, .filled)] else [] }
  | .setDelay microseconds => { c with queue := c.queue.setDelay microseconds }
  | .pass n =>
    let p := Timeline.pass settleSeen n c.clock c.queue
    ⟨c.clock+n, p.1, c.log ++ p.2.map fun e => (c.clock+e.1, e.2)⟩

def run : List Timed → Course → Course
  | [], c => c
  | t::ts, c => run ts (c.step t)

end Course

/-! ## What a log tells -/

def leftAt : Nat × Sight → Option (Nat × Nat)
  | (now, .left _ delay) => some (now, delay)
  | (_, .filled) => none

def filledAt : Nat × Sight → Option Nat
  | (now, .filled) => some now
  | (_, .left _ _) => none

/-- When the last frame left, and the delay right after. -/
def lastLeft (log : List (Nat × Sight)) : Option (Nat × Nat) := (log.filterMap leftAt).getLast?

/-- When a frame last came to a queue in which none waited. -/
def lastFilled (log : List (Nat × Sight)) : Option Nat := (log.filterMap filledAt).getLast?

/-- When the loop is free to send: from the start, or from the end of the last
pause on. -/
def free (log : List (Nat × Sight)) : Nat := ((lastLeft log).map fun p => p.1+p.2).getD 0

section Log

variable (log : List (Nat × Sight)) (now : Nat)

@[simp]
theorem lastLeft_filled : lastLeft (log ++ [(now, .filled)]) = lastLeft log := by
  simp [lastLeft, List.filterMap_append, leftAt]

@[simp]
theorem lastLeft_left (f : Frame) (delay : Nat) :
    lastLeft (log ++ [(now, .left f delay)]) = some (now, delay) := by
  simp [lastLeft, List.filterMap_append, leftAt]

@[simp]
theorem lastFilled_filled : lastFilled (log ++ [(now, .filled)]) = some now := by
  simp [lastFilled, List.filterMap_append, filledAt]

@[simp]
theorem lastFilled_left (f : Frame) (delay : Nat) :
    lastFilled (log ++ [(now, .left f delay)]) = lastFilled log := by
  simp [lastFilled, List.filterMap_append, filledAt]

@[simp]
theorem free_filled : free (log ++ [(now, .filled)]) = free log := by simp [free]

end Log

/-- A frame left as soon as the loop was free and a frame had come. -/
def Prompt (early : List (Nat × Sight)) : Nat × Sight → Prop
  | (now, .left _ _) => ∃ filled, lastFilled early = some filled ∧ now = max (free early) filled
  | (_, .filled) => True

/-! ## What every call keeps -/

/-- A frame that waits while the loop does not pause has become due this very
millisecond. -/
structure Paced (now : Nat) (q : Queue) (log : List (Nat × Sight)) : Prop where
  sound : q.Sound
  running : q.drain ≠ .stopped
  pausing : ∀ wake, q.wake? = some wake → (lastLeft log).isSome ∧ free log = wake ∧ now ≤ wake
  awake : q.wake? = none → free log ≤ now
  due : q.waiting ≠ [] → ∃ filled, lastFilled log = some filled ∧ filled ≤ now ∧
    (q.wake? = none → now = max (free log) filled)
  prompt : ∀ early x late, log = early ++ x::late → Prompt early x

/-- The loop can do nothing more within the millisecond. -/
structure Rested (now : Nat) (q : Queue) (log : List (Nat × Sight)) : Prop where
  paced : Paced now q log
  pausing : ∀ wake, q.wake? = some wake → now < wake
  awake : q.wake? = none → q.waiting = []

theorem start_paced : Paced 0 start [] := by
  constructor
  · exact start_fresh.sound
  · simp [start]
  · simp [start, wake?]
  · simp [free, lastLeft]
  · simp [start]
  · intro early x late he
    simp at he

variable {now : Nat} {q : Queue} {log : List (Nat × Sight)}

theorem Paced.setDelay (h : Paced now q log) (microseconds : Nat) :
    Paced now (q.setDelay microseconds) log :=
  ⟨⟨h.sound.isOpen, h.sound.room, h.sound.heard⟩, h.running, h.pausing, h.awake, h.due, h.prompt⟩

/-- A loop that does not pause, or whose pause is over, may go on. -/
theorem Paced.turn (h : Paced now q log) {q' : Queue} (hs : q'.Sound) (hd : q'.drain ≠ .stopped)
    (hw : q'.waiting = q.waiting) (hn : q'.wake? = none)
    (hover : ∀ wake, q.wake? = some wake → wake ≤ now) : Paced now q' log := by
  have hfree : free log ≤ now ∧
      ∀ filled ≤ now, (q.wake? = none → now = max (free log) filled) →
        now = max (free log) filled := by
    cases hq : q.wake? with
    | none => exact ⟨h.awake hq, fun _ _ hnow => hnow rfl⟩
    | some wake =>
      obtain ⟨_, hf, hle⟩ := h.pausing wake hq
      have hge := hover wake hq
      exact ⟨by omega, fun filled hfilled _ => by omega⟩
  refine ⟨hs, hd, by simp [hn], fun _ => hfree.1, ?_, h.prompt⟩
  rw [hw]
  intro hwaiting
  obtain ⟨filled, hf, hle, hnow⟩ := h.due hwaiting
  exact ⟨filled, hf, hle, fun _ => hfree.2 filled hle hnow⟩

/-- A frame leaves in the very millisecond in which it is due. -/
theorem Paced.send (h : Paced now q log) {q' : Queue} (hs : q'.Sound) (hq : q.wake? = none)
    (hw : q.waiting ≠ []) (hd : q'.drain = .pausing (now+q.delay)) (f : Frame) :
    Paced now q' (log ++ [(now, .left f q.delay)]) := by
  have hwake : q'.wake? = some (now+q.delay) := by simp [wake?, hd]
  obtain ⟨filled, hf, hle, hnow⟩ := h.due hw
  refine ⟨hs, by simp [hd], ?_, by simp [hwake], ?_, ?_⟩
  · intro wake he
    obtain rfl : now+q.delay = wake := Option.some.inj (hwake.symm.trans he)
    simp [free]
  · intro _
    exact ⟨filled, by simpa using hf, hle, by simp [hwake]⟩
  · exact (forall_split_concat log _).mpr ⟨h.prompt, filled, hf, hnow hq⟩

theorem Paced.poll (h : Paced now q log) :
    Paced now (q.poll now).1 (log ++ (q.poll now).2.map fun f => (now, .left f q.delay)) := by
  have hs := poll_sound h.sound now
  rcases poll_cases now q with ⟨f, rest, hd, hw, hp⟩ | ⟨hd, _, hp⟩ | ⟨n, hd, _, hp⟩ |
    ⟨t, hd, ht, hp⟩ | hp <;> rw [hp] at hs ⊢ <;> simp only [List.map_nil, List.append_nil]
  · exact h.send hs (by simp [wake?, hd]) (by simp [hw]) rfl f
  · exact h.turn hs (by simp) rfl rfl (by simp [wake?, hd])
  · exact h.turn hs (by simp) rfl rfl (by simp [wake?, hd])
  · exact h.turn hs (by simp) rfl rfl (by simpa [wake?, hd] using ht)
  · exact h

theorem poll_delay (now : Nat) (q : Queue) : (q.poll now).1.delay = q.delay := by
  rcases poll_cases now q with ⟨f, rest, _, _, hp⟩ | ⟨_, _, hp⟩ | ⟨n, _, _, hp⟩ |
    ⟨t, _, _, hp⟩ | hp <;> rw [hp]

theorem polls_delay (now n : Nat) (q : Queue) : (polls now n q).1.delay = q.delay := by
  induction n generalizing q with
  | zero => rfl
  | succ n ih => exact (ih _).trans (poll_delay now q)

theorem Paced.polls (h : Paced now q log) (n : Nat) :
    Paced now (polls now n q).1
      (log ++ (polls now n q).2.map fun f => (now, .left f q.delay)) := by
  induction n generalizing q log with
  | zero => simpa [Queue.polls] using h
  | succ n ih =>
    have hi := ih h.poll
    rw [poll_delay] at hi
    simpa [Queue.polls] using hi

/-- A loop that can go no further pauses, or it has nothing to send. -/
theorem Paced.rested (h : Paced now q log) (hp : q.poll now = (q, [])) : Rested now q log := by
  have hs := h.sound
  have hr := h.running
  refine ⟨h, ?_, ?_⟩
  all_goals clear h; obtain ⟨waiting, rings, delay, copies, closed, drain⟩ := q
  · intro wake hw
    by_contra hn
    cases drain <;> simp [Queue.poll, wake?] at hp hw
    omega
  · intro hw
    cases drain with
    | seeking => cases waiting <;> simp [Queue.poll] at hp
    | blocked =>
      cases rings with
      | zero => exact List.length_eq_zero_iff.mp (Nat.le_zero.mp (hs.heard rfl))
      | succ n => simp [Queue.poll] at hp
    | pausing wake => simp [wake?] at hw
    | stopped => exact absurd rfl hr

theorem Paced.settle (h : Paced now q log) :
    Rested now (settleSeen now q).1 (log ++ Timeline.stamp now (settleSeen now q).2) := by
  have hp := h.polls q.work
  have hseen : Timeline.stamp now (settleSeen now q).2 =
      (Queue.polls now q.work q).2.map fun f => (now, .left f q.delay) := by
    simp [Timeline.stamp, settleSeen, Queue.settle, polls_delay]
  rw [hseen]
  exact hp.rested (poll_settle now q)

/-- The clock can move on when the loop rests. -/
theorem Rested.later (h : Rested now q log) : Paced (now+1) q log := by
  refine ⟨h.paced.sound, h.paced.running, ?_, ?_, ?_, h.paced.prompt⟩
  · intro wake hw
    obtain ⟨hl, hf, _⟩ := h.paced.pausing wake hw
    exact ⟨hl, hf, h.pausing wake hw⟩
  · exact fun hw => Nat.le_succ_of_le (h.paced.awake hw)
  · intro hn
    obtain ⟨filled, hf, hle, _⟩ := h.paced.due hn
    exact ⟨filled, hf, Nat.le_succ_of_le hle, fun hw => absurd (h.awake hw) hn⟩

/-- A frame that fills the queue is due when it comes, or when the pause ends. -/
theorem Paced.enqueue (h : Paced now q log) (f : Frame) :
    Paced now (q.enqueue f).1
      (log ++ if q.waiting.isEmpty && (q.enqueue f).2.isOk then [(now, .filled)] else []) := by
  have hs := enqueue_sound h.sound f
  rcases enqueue_cases h.sound f with ⟨he, _, _⟩ | ⟨he, _⟩ <;> rw [he] at hs ⊢
  · simpa [Except.isOk, Except.toBool] using h
  · by_cases hw : q.waiting = []
    · have hn : q.waiting.isEmpty = true := by simp [hw]
      simp only [hn, Except.isOk, Except.toBool, Bool.and_self, if_true]
      refine ⟨hs, h.running, ?_, ?_, ?_, ?_⟩
      · intro wake hq
        simpa using h.pausing wake hq
      · intro hq
        simpa using h.awake hq
      · intro _
        refine ⟨now, by simp, Nat.le_refl _, ?_⟩
        intro hq
        simpa using (Nat.max_eq_right (h.awake hq)).symm
      · exact (forall_split_concat log _).mpr ⟨h.prompt, trivial⟩
    · have hn : q.waiting.isEmpty = false := by simpa using hw
      simp only [hn, Bool.false_and, Bool.false_eq_true, if_false, List.append_nil]
      exact ⟨hs, h.running, h.pausing, h.awake, fun _ => h.due hw, h.prompt⟩

/-! ## The pace of a run -/

namespace Course

def Kept (c : Course) : Prop := Paced c.clock c.queue c.log

theorem pass_rested {c : Course} (h : c.Kept) (n : Nat) :
    Rested (c.step (.pass n)).clock (c.step (.pass n)).queue (c.step (.pass n)).log :=
  Timeline.pass_keeps (fun _ _ _ h => h.settle) (fun _ _ _ h => h.later.settle) n c.clock h

theorem step_kept {c : Course} (h : c.Kept) (t : Timed) : (c.step t).Kept := by
  cases t with
  | enqueue f => exact Paced.enqueue h f
  | setDelay microseconds => exact Paced.setDelay h microseconds
  | pass n => exact (pass_rested h n).paced

theorem run_kept (ts : List Timed) {c : Course} (h : c.Kept) : (run ts c).Kept := by
  induction ts generalizing c with
  | nil => exact h
  | cons t ts ih => exact ih (step_kept h t)

/-- Of two frames that leave one after the other, the second does so once the
delay that was in force right after the first is over, however the delay is
changed in the meantime, and at once if it came to an empty queue later. A frame
never waits for anything else. -/
theorem pace_exact (ts : List Timed) :
    let c := run ts start
    (∀ early t f d late, c.log = early ++ (t, .left f d)::late →
      ∃ filled, lastFilled early = some filled ∧
        (lastLeft early = none → t = filled) ∧
        (∀ t₁ d₁, lastLeft early = some (t₁, d₁) → t₁+d₁ ≤ t ∧ t = max (t₁+d₁) filled)) ∧
    (∀ n, let p := c.step (.pass n)
      p.queue.waiting ≠ [] → ∃ t d, lastLeft p.log = some (t, d) ∧ p.clock < t+d) := by
  intro c
  have hc : c.Kept := run_kept ts start_paced
  constructor
  · intro early t f d late he
    obtain ⟨filled, hf, ht⟩ := hc.prompt early _ late he
    refine ⟨filled, hf, ?_, ?_⟩
    · intro hn
      simpa [free, hn] using ht
    · intro t₁ d₁ hl
      have hfree : free early = t₁+d₁ := by simp [free, hl]
      rw [hfree] at ht
      exact ⟨ht ▸ Nat.le_max_left _ _, ht⟩
  · intro n p hw
    have hp : Rested p.clock p.queue p.log := pass_rested hc n
    cases hq : p.queue.wake? with
    | none => exact absurd (hp.awake hq) hw
    | some wake =>
      obtain ⟨hl, hfree, _⟩ := hp.paced.pausing wake hq
      obtain ⟨⟨t, d⟩, hl⟩ := Option.isSome_iff_exists.mp hl
      refine ⟨t, d, hl, ?_⟩
      have hlt := hp.pausing wake hq
      simpa [← hfree, free, hl] using hlt

/-- The delay is shortened during the pause after the first frame. -/
def hurried : List Timed :=
  [.setDelay 50999, .enqueue ⟨[1], 0, true⟩, .pass 10, .setDelay 7000,
    .enqueue ⟨[2], 0, true⟩, .enqueue ⟨[3], 0, true⟩, .pass 60]

theorem hurried_paced :
    let early : List (Nat × Sight) := [(0, .filled), (0, .left ⟨[1], 0, true⟩ 50), (10, .filled)]
    (run hurried start).log =
      early ++ (50, .left ⟨[2], 0, true⟩ 7)::[(57, .left ⟨[3], 0, true⟩ 7)] ∧
    lastLeft early = some (0, 50) ∧
    ∃ filled, lastFilled early = some filled ∧ 50 = max (0+50) filled := by
  intro early
  have he : (run hurried start).log =
      early ++ (50, .left ⟨[2], 0, true⟩ 7)::[(57, .left ⟨[3], 0, true⟩ 7)] := by decide
  have hl : lastLeft early = some (0, 50) := by decide
  obtain ⟨filled, hf, _, ht⟩ := (pace_exact hurried).1 early _ _ _ _ he
  exact ⟨he, hl, filled, hf, (ht 0 50 hl).2⟩

end Course

end Queue

end LightBridge
