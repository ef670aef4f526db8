import LightBridge.Queue

/-!
# Calls to an open queue

Until it is disposed of, a queue sees offers of frames, changes of its two
settings and steps of its send loop, in any order. Offers carry a mark of the
caller, which the queue never looks at.
-/

set_option autoImplicit false

namespace LightBridge.Queue

variable {α : Type}

inductive Call (α : Type) where
  | enqueue (mark : α) (frame : Frame)
  | setDelay (microseconds : Nat)
  | setCopies (n : Nat)
  /-- A step of the send loop at a millisecond. -/
  | poll (now : Nat)
  deriving DecidableEq, Repr

/-- The queue after a call, with the frames that left. -/
def call (q : Queue) : Call α → Queue × List Frame
  | .enqueue _ f => ((q.enqueue f).1, [])
  | .setDelay microseconds => (q.setDelay microseconds, [])
  | .setCopies n => (q.setCopies n, [])
  | .poll now => q.poll now

def taken (q : Queue) : Call α → Option (α × Frame)
  | .enqueue mark f => if (q.enqueue f).2.isOk then some (mark, f) else none
  | _ => none

def run : List (Call α) → Queue → Queue
  | [], q => q
  | c::cs, q => run cs (q.call c).1

/-- The frames that were accepted, in order. -/
def accepted : List (Call α) → Queue → List (α × Frame)
  | [], _ => []
  | c::cs, q => (q.taken c).toList ++ accepted cs (q.call c).1

/-- The frames that left, in order. -/
def sent : List (Call α) → Queue → List Frame
  | [], _ => []
  | c::cs, q => (q.call c).2 ++ sent cs (q.call c).1

theorem run_append (cs ds : List (Call α)) (q : Queue) :
    run (cs++ds) q = run ds (run cs q) := by
  induction cs generalizing q with
  | nil => rfl
  | cons c cs ih => exact ih _

theorem accepted_append (cs ds : List (Call α)) (q : Queue) :
    accepted (cs++ds) q = accepted cs q ++ accepted ds (run cs q) := by
  induction cs generalizing q with
  | nil => rfl
  | cons c cs ih => simp [accepted, run, ih]

theorem accepted_mem (cs : List (Call α)) (q : Queue) {mark : α} {f : Frame}
    (h : (mark, f) ∈ accepted cs q) : .enqueue mark f ∈ cs := by
  induction cs generalizing q with
  | nil => cases h
  | cons c cs ih =>
    rcases List.mem_append.mp h with h | h
    · cases c with
      | enqueue m g =>
        simp only [taken] at h
        split at h
        · simp_all
        · simp at h
      | _ => simp [taken] at h
    · exact List.mem_cons_of_mem _ (ih _ h)

/-- Offers under one mark are accepted under it. -/
theorem accepted_marked (mark : α) (fs : List Frame) (q : Queue) :
    ((accepted (fs.map (.enqueue mark)) q).map (·.2)).map (mark, ·) =
      accepted (fs.map (.enqueue mark)) q := by
  have hm : ∀ x ∈ accepted (fs.map (.enqueue mark)) q, (mark, x.2) = x := by
    intro x hx
    obtain ⟨g, _, he⟩ := List.mem_map.mp (accepted_mem _ q hx)
    cases he
    rfl
  rw [List.map_map]
  exact (List.map_congr_left hm).trans (List.map_id _)

/-! ## What an offer and a step of the loop can do -/

/-- What every run keeps. A blocked loop has a ring for each waiting frame. -/
structure Sound (q : Queue) : Prop where
  isOpen : q.closed = false
  room : q.waiting.length ≤ capacity
  heard : q.drain = .blocked → q.waiting.length ≤ q.rings

/-- An open queue in which nothing waits. -/
structure Fresh (q : Queue) : Prop where
  isOpen : q.closed = false
  empty : q.waiting = []

theorem Fresh.sound {q : Queue} (h : q.Fresh) : q.Sound :=
  ⟨h.isOpen, by simp [h.empty], by simp [h.empty]⟩

theorem start_fresh : start.Fresh := ⟨rfl, rfl⟩

theorem kept_sublist (waiting : List Frame) (identity : Nat) :
    (kept waiting identity).Sublist waiting := by
  unfold kept
  split
  · exact List.Sublist.refl _
  · exact List.filter_sublist

/-- Only a frame that replaces nothing can find no place. -/
theorem kept_of_full {q : Queue} (h : q.Sound) (identity : Nat)
    (hfull : capacity ≤ (kept q.waiting identity).length) :
    kept q.waiting identity = q.waiting := by
  have hs := kept_sublist q.waiting identity
  have hl := hs.length_le
  have hr := h.room
  exact hs.eq_of_length (by omega)

/-- A refusal changes nothing; an accepted frame is the last of those waiting. -/
theorem enqueue_cases {q : Queue} (h : q.Sound) (f : Frame) :
    (q.enqueue f = (q, .error (.queueFull capacity)) ∧
      q.waiting.length = capacity ∧ kept q.waiting f.identity = q.waiting) ∨
    (q.enqueue f = ({ q with
        waiting := kept q.waiting f.identity ++ [f]
        rings := q.rings+1 }, .ok ()) ∧
      (kept q.waiting f.identity).length < capacity) := by
  by_cases hfull : capacity ≤ (kept q.waiting f.identity).length
  · have hk := kept_of_full h f.identity hfull
    have hr := h.room
    have he : q.enqueue f = (q, .error (.queueFull capacity)) := by
      obtain ⟨waiting, rings, delay, copies, closed, drain⟩ := q
      obtain rfl : closed = false := h.isOpen
      simp only at hk hfull
      simp [enqueue, hk, hk ▸ hfull]
    rw [hk] at hfull
    exact .inl ⟨he, by omega, hk⟩
  · right
    constructor
    · simp only [enqueue, h.isOpen, hfull, Bool.false_eq_true, if_false]
    · omega

/-- However many copies are configured, a frame is sent once. -/
theorem sends_eq_one (q : Queue) (f : Frame) : q.sends f = 1 := by
  unfold sends maxCopies
  omega

/-- Everything a step of the send loop can do. -/
theorem poll_cases (now : Nat) (q : Queue) :
    (∃ f rest, q.drain = .seeking ∧ q.waiting = f::rest ∧
      q.poll now = ({ q with waiting := rest, drain := .pausing (now+q.delay) }, [f])) ∨
    (q.drain = .seeking ∧ q.waiting = [] ∧ q.poll now = ({ q with drain := .blocked }, [])) ∨
    (∃ n, q.drain = .blocked ∧ q.rings = n+1 ∧
      q.poll now = ({ q with rings := n, drain := .seeking }, [])) ∨
    (∃ t, q.drain = .pausing t ∧ t ≤ now ∧ q.poll now = ({ q with drain := .seeking }, [])) ∨
    q.poll now = (q, []) := by
  obtain ⟨waiting, rings, delay, copies, closed, drain⟩ := q
  cases drain with
  | seeking =>
    cases waiting with
    | nil => simp [poll]
    | cons f rest => exact .inl ⟨f, rest, rfl, rfl, by simp [poll, sends_eq_one]⟩
  | blocked => cases rings <;> simp [poll]
  | pausing t => by_cases h : t ≤ now <;> simp [poll, h]
  | stopped => simp [poll]

theorem enqueue_sound {q : Queue} (h : q.Sound) (f : Frame) : (q.enqueue f).1.Sound := by
  rcases enqueue_cases h f with ⟨he, _, _⟩ | ⟨he, hk⟩ <;> rw [he]
  · exact h
  · have hl := (kept_sublist q.waiting f.identity).length_le
    constructor
    · exact h.isOpen
    · simp only [List.length_append, List.length_singleton]
      omega
    · intro hb
      have hr := h.heard hb
      simp only [List.length_append, List.length_singleton]
      omega

theorem poll_sound {q : Queue} (h : q.Sound) (now : Nat) : (q.poll now).1.Sound := by
  rcases poll_cases now q with ⟨f, rest, _, hw, hp⟩ | ⟨_, hw, hp⟩ | ⟨n, _, _, hp⟩ |
    ⟨t, _, _, hp⟩ | hp <;> rw [hp]
  · have hr := h.room
    rw [hw, List.length_cons] at hr
    exact ⟨h.isOpen, by simp only; omega, by simp⟩
  · exact ⟨h.isOpen, h.room, by simp [hw]⟩
  · exact ⟨h.isOpen, h.room, by simp⟩
  · exact ⟨h.isOpen, h.room, by simp⟩
  · exact h

theorem call_sound {q : Queue} (h : q.Sound) (c : Call α) : (q.call c).1.Sound := by
  cases c with
  | enqueue mark f => exact enqueue_sound h f
  | setDelay microseconds => exact ⟨h.isOpen, h.room, h.heard⟩
  | setCopies n => exact ⟨h.isOpen, h.room, h.heard⟩
  | poll now => exact poll_sound h now

theorem run_sound (cs : List (Call α)) {q : Queue} (h : q.Sound) : (run cs q).Sound := by
  induction cs generalizing q with
  | nil => exact h
  | cons c cs ih => exact ih (call_sound h c)

end LightBridge.Queue
