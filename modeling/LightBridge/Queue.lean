import LightBridge.Fault
import LightBridge.Frame

/-!
# The command queue

Frames wait in order of acceptance until the send loop takes them. A frame of
non-zero identity first removes the waiting frame of its identity, so only the
newest value is sent and takes the newest place. After each send the loop
pauses for the delay in force right after that send.

Every accepted frame rings once. The loop looks for a frame before it takes a
ring and is blocked when it finds neither, so surplus rings are harmless.
-/

set_option autoImplicit false

namespace LightBridge

inductive Drain where
  | seeking
  /-- Found no frame; waits for a ring. -/
  | blocked
  /-- Pauses after a send until the given millisecond. -/
  | pausing (wake : Nat)
  | stopped
  deriving DecidableEq, Repr

structure Queue where
  waiting : List Frame
  rings : Nat
  /-- The pause between two sends, in milliseconds. -/
  delay : Nat
  /-- The configured sends of a repeatable frame. -/
  copies : Nat
  closed : Bool
  drain : Drain
  deriving DecidableEq, Repr

namespace Queue

def capacity : Nat := 20

/-- The most sends of one frame, however many copies are configured. -/
def maxCopies : Nat := 1

def start : Queue := ⟨[], 0, 100, 1, false, .seeking⟩

def setDelay (q : Queue) (microseconds : Nat) : Queue := { q with delay := microseconds/1000 }

def setCopies (q : Queue) (n : Nat) : Queue := { q with copies := max n 1 }

/-- The waiting frames that a new one of this identity leaves in place. -/
def kept (waiting : List Frame) (identity : Nat) : List Frame :=
  if identity = 0 then waiting else waiting.filter fun f => f.identity != identity

def enqueue (q : Queue) (f : Frame) : Queue × Except Fault Unit :=
  if q.closed then (q, .error .queueClosed)
  else
    let left := kept q.waiting f.identity
    if capacity ≤ left.length then ({ q with waiting := left }, .error (.queueFull capacity))
    else ({ q with waiting := left ++ [f], rings := q.rings+1 }, .ok ())

/-- Offers copies of a frame until one is refused, and counts the accepted ones. -/
def fill (f : Frame) : Nat → Queue → Queue × Nat × Except Fault Unit
  | 0, q => (q, 0, .ok ())
  | n+1, q =>
    match q.enqueue f with
    | (q, .error fault) => (q, 0, .error fault)
    | (q, .ok ()) =>
      let (q, accepted, result) := fill f n q
      (q, accepted+1, result)

def sends (q : Queue) (f : Frame) : Nat :=
  min (max (if f.repeatable then q.copies else 1) 1) maxCopies

/-- One step of the send loop at a millisecond, with the frames it sends. -/
def poll (now : Nat) (q : Queue) : Queue × List Frame :=
  match q.drain with
  | .seeking =>
    match q.waiting with
    | f::rest =>
      ({ q with waiting := rest, drain := .pausing (now+q.delay) }, List.replicate (q.sends f) f)
    | [] => ({ q with drain := .blocked }, [])
  | .blocked =>
    match q.rings with
    | n+1 => ({ q with rings := n, drain := .seeking }, [])
    | 0 => (q, [])
  | .pausing t => if t ≤ now then ({ q with drain := .seeking }, []) else (q, [])
  | .stopped => (q, [])

def polls (now : Nat) : Nat → Queue → Queue × List Frame
  | 0, q => (q, [])
  | n+1, q =>
    let (q, sent) := q.poll now
    let (q, more) := polls now n q
    (q, sent ++ more)

/-- A bound on the steps of the loop before it can go no further. -/
def work (q : Queue) : Nat :=
  3*q.waiting.length + 2*q.rings + match q.drain with
    | .pausing _ => 2
    | .seeking => 1
    | .blocked => 0
    | .stopped => 0

/-- Lets the loop run as far as it can within a millisecond. -/
def settle (now : Nat) (q : Queue) : Queue × List Frame := polls now q.work q

/-- A step that changes anything takes work away. -/
theorem work_poll_lt (now : Nat) (q : Queue) :
    q.poll now = (q, []) ∨ (q.poll now).1.work < q.work := by
  obtain ⟨waiting, rings, delay, copies, closed, drain⟩ := q
  cases drain with
  | seeking =>
    cases waiting with
    | nil => simp [poll, work]
    | cons f rest =>
      simp [poll, work]
      omega
  | blocked =>
    cases rings with
    | zero => simp [poll]
    | succ n =>
      simp [poll, work]
      omega
  | pausing t =>
    by_cases h : t ≤ now
    · simp [poll, work, h]
    · simp [poll, h]
  | stopped => simp [poll]

theorem polls_fixed (now n : Nat) (q : Queue) (h : q.poll now = (q, [])) :
    polls now n q = (q, []) := by
  induction n with
  | zero => rfl
  | succ n ih => simp [polls, h, ih]

theorem poll_polls (now n : Nat) (q : Queue) (h : q.work ≤ n) :
    (polls now n q).1.poll now = ((polls now n q).1, []) := by
  induction n generalizing q with
  | zero =>
    rcases work_poll_lt now q with hq | hq
    · exact hq
    · omega
  | succ n ih =>
    rcases work_poll_lt now q with hq | hq
    · rw [polls_fixed now _ q hq]
      exact hq
    · exact ih (q.poll now).1 (by omega)

/-- A settled loop can go no further. -/
theorem poll_settle (now : Nat) (q : Queue) :
    (q.settle now).1.poll now = ((q.settle now).1, []) :=
  poll_polls now q.work q (Nat.le_refl _)

def wake? (q : Queue) : Option Nat :=
  match q.drain with
  | .pausing wake => some wake
  | _ => none

/-- Closes the queue. A loop that is not pausing takes one more frame before
it sees the request to stop, unless it is given no time at all. -/
def dispose (q : Queue) : Queue × List Frame :=
  let sent := match q.drain, q.waiting with
    | .seeking, f::_ => if q.delay = 0 then [] else List.replicate (q.sends f) f
    | .blocked, f::_ => if q.delay = 0 then [] else List.replicate (q.sends f) f
    | _, _ => []
  ({ q with waiting := [], closed := true, drain := .stopped }, sent)

end Queue

end LightBridge
