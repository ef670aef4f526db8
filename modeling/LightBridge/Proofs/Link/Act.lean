import LightBridge.Proofs.Light.Moves
import LightBridge.Proofs.Session.History

/-!
# Acts

What happens at a link comes down to acts: its session takes an input, a bulb
sends one command, a setting of the queue changes, or the send loop makes a
step. To the session an act is an input or nothing. To the queue it is a change
of a setting, a step, or at most one offer.
-/

set_option autoImplicit false

namespace LightBridge

/-- Commands other than plain ones have a header. -/
def Command.inSession (c : Command) : Bool :=
  match c.payload with
  | .plain .. => false
  | _ => true

theorem Command.inSession_iff (c : Command) :
    c.inSession = true ↔ ∀ x y, c.payload ≠ .plain x y := by
  unfold inSession
  cases c.payload <;> simp

namespace Link

inductive Act where
  | hear (wall : Nat) (input : Session.Input)
  | send (wall : Nat) (bulb : Bulb) (command : Command)
  | setDelay (microseconds : Nat)
  | setCopies (n : Nat)
  /-- A step of the send loop at a millisecond. -/
  | poll (now : Nat)
  deriving DecidableEq, Repr

/-- The link after an input of its session. -/
def take (wall : Nat) (l : Link) : Session.Input → Link
  | .packet bytes => (l.receive wall bytes).1
  | .keepAlive => (l.keepAlive wall).1
  | .nextHeader => (l.nextHeader wall).1
  | .setPassword pw1 pw2 => { l with session := l.session.map (·.setPassword pw1 pw2) }
  | .setSequence n => { l with session := l.session.map (·.setSequence n) }

def act (l : Link) : Act → Link
  | .hear wall i => l.take wall i
  | .send wall b c => (l.send wall b c).1
  | .setDelay microseconds => { l with queue := l.queue.setDelay microseconds }
  | .setCopies n => { l with queue := l.queue.setCopies n }
  | .poll now => { l with queue := (l.queue.poll now).1 }

/-- The frame that an act offers to the queue, with the bulb whose command it is. -/
def offer? (l : Link) : Act → Option (Option Bulb × Frame)
  | .hear wall i => (l.session.bind fun s => (s.take wall i).2).map (none, ·)
  | .send wall b c => (l.offered wall b c).map (some b, ·)
  | _ => none

def offerCalls (l : Link) (a : Act) : List (Queue.Call (Option Bulb)) :=
  (l.offer? a).toList.map fun o => .enqueue o.1 o.2

/-- What an act is to the queue. -/
def calls (l : Link) : Act → List (Queue.Call (Option Bulb))
  | .setDelay microseconds => [.setDelay microseconds]
  | .setCopies n => [.setCopies n]
  | .poll now => [.poll now]
  | a => l.offerCalls a

theorem calls_of_offer {l : Link} {a : Act} {mark : Option Bulb} {f : Frame}
    (h : l.offer? a = some (mark, f)) : l.calls a = [.enqueue mark f] := by
  have hc : l.offerCalls a = [.enqueue mark f] := by simp [offerCalls, h]
  cases a with
  | hear wall i => exact hc
  | send wall b c => exact hc
  | _ => cases h

/-- What an act is to the session. -/
def Act.input? : Act → Option (Nat × Session.Input)
  | .hear wall i => some (wall, i)
  | .send wall _ c => if c.inSession then some (wall, .nextHeader) else none
  | _ => none

def run : List Act → Link → Link
  | [], l => l
  | a::as, l => run as (l.act a)

def script : List Act → Link → List (Queue.Call (Option Bulb))
  | [], _ => []
  | a::as, l => l.calls a ++ script as (l.act a)

def inputs (as : List Act) : List (Nat × Session.Input) := as.filterMap Act.input?

theorem run_append (as bs : List Act) (l : Link) : run (as++bs) l = run bs (run as l) := by
  induction as generalizing l with
  | nil => rfl
  | cons a as ih => exact ih _

theorem script_append (as bs : List Act) (l : Link) :
    script (as++bs) l = script as l ++ script bs (run as l) := by
  induction as generalizing l with
  | nil => rfl
  | cons a as ih => simp [script, run, ih]

/-! ## An input -/

theorem offer_queue (l : Link) (f : Frame) :
    (l.offer f).1.queue = (l.queue.enqueue f).1 ∧ (l.offer f).1.session = l.session := by
  unfold offer
  have h : (l.enqueue f).1.queue = (l.queue.enqueue f).1 := rfl
  split <;> rename_i he <;> rw [he] at h <;> exact ⟨h, congrArg (·.1.session) he.symm⟩

theorem keepAlive_queue (wall : Nat) (l : Link) (s : Session) (h : l.session = some s) :
    (l.keepAlive wall).1.queue = (l.queue.enqueue (s.keepAlive wall).2.1).1 := by
  simp only [keepAlive, h]
  exact (offer_queue _ _).1

theorem receive_queue (wall : Nat) (l : Link) (bytes : List UInt8) (s : Session)
    (h : l.session = some s) :
    (l.receive wall bytes).1.queue =
      Queue.run ((s.receive wall bytes).2.1.toList.map (.enqueue (none : Option Bulb))) l.queue := by
  simp only [receive, h]
  split <;> rename_i hr <;> rw [hr]
  · rfl
  · exact (offer_queue _ _).1

theorem take_queue (wall : Nat) (l : Link) (i : Session.Input) :
    (l.take wall i).queue = Queue.run (l.calls (.hear wall i)) l.queue := by
  cases hs : l.session with
  | none =>
    cases i <;>
      simp [calls, offerCalls, offer?, take, hs, Queue.run, receive, keepAlive, nextHeader]
  | some session =>
    have hc : l.calls (.hear wall i) =
        (session.take wall i).2.toList.map (.enqueue none) := by
      simp only [calls, offerCalls, offer?, hs, Option.bind_some]
      cases (session.take wall i).2 <;> rfl
    rw [hc]
    cases i with
    | packet bytes => exact receive_queue wall l bytes session hs
    | keepAlive => exact keepAlive_queue wall l session hs
    | nextHeader => exact nextHeader_queue wall l
    | setPassword pw1 pw2 => rfl
    | setSequence n => rfl

/-- An input is the session's to take. -/
theorem take_session (wall : Nat) (l : Link) (i : Session.Input) :
    (l.take wall i).session = l.session.map fun s => (s.take wall i).1 := by
  cases hs : l.session with
  | none => cases i <;> simp [take, receive, keepAlive, nextHeader, hs]
  | some session =>
    cases i with
    | packet bytes =>
      simp only [take, receive, hs]
      split <;> rename_i hr
      · simp [Session.take, hr]
      · simp [Session.take, hr, (offer_queue _ _).2]
    | keepAlive => simp [take, keepAlive, hs, (offer_queue _ _).2, Session.take]
    | nextHeader => simp [take, nextHeader, hs, Session.take]
    | setPassword pw1 pw2 => simp [take, hs, Session.take]
    | setSequence n => simp [take, hs, Session.take]

/-! ## A command -/

theorem send_queue (wall : Nat) (l : Link) (b : Bulb) (c : Command) :
    (l.send wall b c).1.queue = Queue.run (l.calls (.send wall b c)) l.queue := by
  rcases l.send_cases wall b c with ⟨h, ho, hq, _, _⟩ | ⟨ho, _, _, hq, _, _⟩
  · simpa [calls, offerCalls, offer?, ho, Queue.run, Queue.call] using hq
  · simpa [calls, offerCalls, offer?, ho, Queue.run] using hq

theorem send_session (wall : Nat) (l : Link) (b : Bulb) (c : Command) :
    (l.send wall b c).1.session =
      if c.inSession then l.session.map fun s => (s.take wall .nextHeader).1 else l.session := by
  cases hc : c.inSession with
  | true =>
    have hn : (l.nextHeader wall).1.session =
        l.session.map fun s => (s.take wall .nextHeader).1 := take_session wall l .nextHeader
    rw [send_of_session (c.inSession_iff.mp hc), if_pos rfl, ← hn]
    generalize l.nextHeader wall = r
    obtain ⟨l', header, notices⟩ := r
    cases header <;> rfl
  | false =>
    obtain ⟨payload, category, repeatable⟩ := c
    cases payload with
    | plain x y => rfl
    | _ => cases hc

/-! ## An act, and a run -/

theorem act_queue (l : Link) (a : Act) : (l.act a).queue = Queue.run (l.calls a) l.queue := by
  cases a with
  | hear wall i => exact take_queue wall l i
  | send wall b c => exact send_queue wall l b c
  | setDelay microseconds => rfl
  | setCopies n => rfl
  | poll now => rfl

theorem run_queue (as : List Act) (l : Link) :
    (run as l).queue = Queue.run (script as l) l.queue := by
  induction as generalizing l with
  | nil => rfl
  | cons a as ih => rw [run, ih, act_queue, script, Queue.run_append]

theorem act_session (l : Link) (a : Act) :
    (l.act a).session = l.session.map (Session.run a.input?.toList) := by
  have hid : l.session = l.session.map (Session.run []) := by
    cases l.session <;> rfl
  cases a with
  | hear wall i => exact take_session wall l i
  | send wall b c =>
    have h := send_session wall l b c
    cases hc : c.inSession <;> simp only [hc, if_true, Bool.false_eq_true, if_false] at h
    · simpa [act, Act.input?, hc, h] using hid
    · simp [act, Act.input?, hc, h, Session.run]
  | _ => exact hid

/-- The session before the last act of a run. -/
theorem session_before {as : List Act} {a : Act} {l : Link} {s : Session}
    (h : (run (as++[a]) l).session = some s) :
    ∃ s₀, (run as l).session = some s₀ ∧ ((run as l).act a).session = some s := by
  have ha : ((run as l).act a).session = some s := by
    rw [run_append] at h
    exact h
  have hm := ha
  rw [act_session] at hm
  obtain ⟨s₀, hs₀, _⟩ := Option.map_eq_some_iff.mp hm
  exact ⟨s₀, hs₀, ha⟩

/-- The session of a run has taken the inputs of the acts and nothing else. -/
theorem run_session (as : List Act) (l : Link) :
    (run as l).session = l.session.map (Session.run (inputs as)) := by
  induction as generalizing l with
  | nil =>
    cases hs : l.session <;> simp [run, inputs, Session.run, hs]
  | cons a as ih =>
    rw [run, ih, act_session, Option.map_map]
    congr 1
    funext s
    rw [Function.comp_apply, ← Session.run_append]
    congr 1
    cases ha : a.input? <;> simp [inputs, ha]

end Link

end LightBridge
