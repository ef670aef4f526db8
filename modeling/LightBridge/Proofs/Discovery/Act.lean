import LightBridge.Discovery

/-!
# Interleavings of a discovery

Requests, answers, timers and the end of a discovery come in any order. An
interleaving is a list of such acts. A tick is one turn of the resend loop of a
round: what the loop does from waking up until it sleeps again or is gone.

When the program lets all its loops run, it carries out such acts.
-/

set_option autoImplicit false

namespace LightBridge.Discovery

inductive Act where
  | request
  | halt
  | dispose
  /-- The receive loop opens. -/
  | listen
  | answer (source : Endpoint) (bytes : List UInt8)
  /-- A turn of the resend loop of a round, if its timer is over. -/
  | tick (round : Nat)
  | elapse (milliseconds : Nat)
  deriving DecidableEq, Repr

/-- The loops after one of them had its turn. -/
def relay (round : Nat) (kept rs : List Resend) : List Resend :=
  rs.flatMap fun r => if r.round = round then kept else [r]

/-- One turn of the resend loop of a round. A loop that is gone has none. -/
def wake (now round : Nat) (d : Discovery) : Discovery × List Event :=
  match d.resends.find? (·.round == round) with
  | none => (d, [])
  | some r =>
    let (d', events, kept) := runLoop now 1 d r
    ({ d' with resends := relay round kept d.resends }, events)

def listen (d : Discovery) : Discovery :=
  match d.receiver with
  | .fresh => { d with receiver := .listening }
  | _ => d

/-- The discovery after an act, with what the act shows. -/
def act (now : Nat) (d : Discovery) : Act → Discovery × List Event
  | .request => (d.sendDiscover, [])
  | .halt => (d.stopResend, [])
  | .dispose => (d.stop, [])
  | .listen => (d.listen, [])
  | .answer source bytes => d.hear (some (source, bytes))
  | .tick round => d.wake now round
  | .elapse _ => (d, [])

def Act.after (now : Nat) : Act → Nat
  | .elapse milliseconds => now+milliseconds
  | _ => now

def clock : List Act → Nat → Nat
  | [], now => now
  | a::as, now => clock as (a.after now)

def run : List Act → Nat → Discovery → Discovery
  | [], _, d => d
  | a::as, now, d => run as (a.after now) (d.act now a).1

/-- An act with its time and what it showed. -/
structure Entry where
  time : Nat
  act : Act
  events : List Event
  deriving DecidableEq, Repr

def history : List Act → Nat → Discovery → List Entry
  | [], _, _ => []
  | a::as, now, d => ⟨now, a, (d.act now a).2⟩ :: history as (a.after now) (d.act now a).1

/-- What an interleaving shows. -/
def shown (as : List Act) (now : Nat) (d : Discovery) : List Event :=
  (history as now d).flatMap Entry.events

theorem clock_append (as bs : List Act) (now : Nat) :
    clock (as++bs) now = clock bs (clock as now) := by
  induction as generalizing now with
  | nil => rfl
  | cons a as ih => exact ih _

theorem run_append (as bs : List Act) (now : Nat) (d : Discovery) :
    run (as++bs) now d = run bs (clock as now) (run as now d) := by
  induction as generalizing now d with
  | nil => rfl
  | cons a as ih => exact ih _ _

theorem history_append (as bs : List Act) (now : Nat) (d : Discovery) :
    history (as++bs) now d = history as now d ++ history bs (clock as now) (run as now d) := by
  induction as generalizing now d with
  | nil => rfl
  | cons a as ih => simp [history, clock, run, ih]

theorem shown_append (as bs : List Act) (now : Nat) (d : Discovery) :
    shown (as++bs) now d = shown as now d ++ shown bs (clock as now) (run as now d) := by
  simp [shown, history_append]

theorem shown_cons (a : Act) (as : List Act) (now : Nat) (d : Discovery) :
    shown (a::as) now d = (d.act now a).2 ++ shown as (a.after now) (d.act now a).1 := by
  simp [shown, history]

/-! ## One turn of a loop -/

/-- Everything a loop can do in one turn. -/
theorem runLoop_one (now : Nat) (d : Discovery) (r : Resend) :
    (now < r.due ∧ runLoop now 1 d r = (d, [], [r])) ∨
    (r.due ≤ now ∧ d.isCurrent r.round = false ∧ runLoop now 1 d r = (d, [], [])) ∨
    (r.due ≤ now ∧ d.isCurrent r.round = true ∧ r.left = 0 ∧
      runLoop now 1 d r = (d.stopResend, [.ended .notFound], [])) ∨
    (∃ left, r.due ≤ now ∧ d.isCurrent r.round = true ∧ r.left = left+1 ∧
      runLoop now 1 d r = (d, probePair, [{ r with left, due := now+d.config.wait }])) := by
  by_cases hd : now < r.due
  · exact .inl ⟨hd, by simp [runLoop, hd]⟩
  · have hn : r.due ≤ now := Nat.le_of_not_lt hd
    right
    cases hc : d.isCurrent r.round with
    | false => exact .inl ⟨hn, rfl, by simp [runLoop, hd, hc]⟩
    | true =>
      right
      cases hl : r.left with
      | zero => exact .inl ⟨hn, rfl, rfl, by simp [runLoop, hd, hc, hl]⟩
      | succ left => exact .inr ⟨left, hn, rfl, rfl, by simp [runLoop, hd, hc, hl]⟩

theorem relay_ne {round : Nat} {rs : List Resend} (h : ∀ r ∈ rs, r.round ≠ round)
    (kept : List Resend) : relay round kept rs = rs := by
  induction rs with
  | nil => rfl
  | cons r rs ih =>
    rw [List.forall_mem_cons] at h
    have hi := ih h.2
    unfold relay at hi ⊢
    rw [List.flatMap_cons, if_neg h.1, hi]
    rfl

/-- Only the loop whose turn it was is replaced. -/
theorem relay_at {before after : List Resend} {r : Resend}
    (hb : ∀ s ∈ before, s.round ≠ r.round) (ha : ∀ s ∈ after, s.round ≠ r.round)
    (kept : List Resend) :
    relay r.round kept (before ++ r::after) = before ++ kept ++ after := by
  have he := relay_ne hb kept
  have hl := relay_ne ha kept
  unfold relay at he hl ⊢
  rw [List.flatMap_append, List.flatMap_cons, if_pos rfl, he, hl, List.append_assoc]

theorem find_at {before after : List Resend} {r : Resend}
    (hb : ∀ s ∈ before, s.round ≠ r.round) :
    (before ++ r::after).find? (·.round == r.round) = some r := by
  have hn : before.find? (·.round == r.round) = none := by
    rw [List.find?_eq_none]
    intro s hs
    simpa using hb s hs
  rw [List.find?_append, hn, List.find?_cons_of_pos (by simp)]
  rfl

theorem wake_absent {round : Nat} {d : Discovery} (h : ∀ r ∈ d.resends, r.round ≠ round)
    (now : Nat) : d.wake now round = (d, []) := by
  have hn : d.resends.find? (·.round == round) = none := by
    rw [List.find?_eq_none]
    intro r hr
    simpa using h r hr
  simp [wake, hn]

theorem wake_at {d : Discovery} {before after : List Resend} {r : Resend}
    (hd : d.resends = before ++ r::after) (hb : ∀ s ∈ before, s.round ≠ r.round)
    (ha : ∀ s ∈ after, s.round ≠ r.round) (now : Nat) :
    d.wake now r.round =
      ({ (runLoop now 1 d r).1 with resends := before ++ (runLoop now 1 d r).2.2 ++ after },
        (runLoop now 1 d r).2.1) := by
  have hf : d.resends.find? (·.round == r.round) = some r := hd ▸ find_at hb
  simp only [wake, hf]
  rw [hd, relay_at hb ha]

end LightBridge.Discovery
