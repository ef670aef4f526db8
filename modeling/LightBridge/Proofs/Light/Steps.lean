import LightBridge.Proofs.Light.Outcome

/-!
# Steps

A step has no identity, so it never takes the place of another frame and each
one needs room of its own. A command for the power needs room only once: the
next one takes its place. What an operation has come to when the queue refuses
one of its commands is told by the steps that it made until then.
-/

set_option autoImplicit false

namespace LightBridge

def Command.isStep (c : Command) : Bool := c.category.isNone

def Frame.isStep (f : Frame) : Bool := f.identity == 0

namespace Bulb

variable (b : Bulb)

theorem frame_isStep (header : Wire.Header) (c : Command) :
    (b.frame header c).isStep = c.isStep := by
  obtain ⟨payload, _ | category, repeatable⟩ := c
  · rfl
  · exact beq_false_of_ne (b.identity_ne_zero category)

theorem identity_of_step {c : Command} (h : c.isStep = true) : b.identity c.category = 0 := by
  obtain ⟨payload, _ | category, repeatable⟩ := c
  · rfl
  · cases h

/-- The steps among the frames are `n` and all have one payload. -/
def Walked (payload : Payload) (n : Nat) (fs : List Frame) : Prop :=
  ∃ headers : List Wire.Header, headers.length = n ∧
    fs.filter Frame.isStep = headers.map fun header => b.frame header (.step payload)

variable {b} {payload : Payload}

theorem walked_nil : b.Walked payload 0 [] := ⟨[], rfl, rfl⟩

theorem Walked.append {m n : Nat} {fs gs : List Frame} (hf : b.Walked payload m fs)
    (hg : b.Walked payload n gs) : b.Walked payload (m+n) (fs ++ gs) := by
  obtain ⟨hs, rfl, hf⟩ := hf
  obtain ⟨ks, rfl, hg⟩ := hg
  exact ⟨hs ++ ks, List.length_append, by rw [List.filter_append, hf, hg, List.map_append]⟩

theorem Walked.count {n : Nat} {fs : List Frame} (h : b.Walked payload n fs) :
    fs.countP Frame.isStep = n := by
  obtain ⟨headers, hn, hf⟩ := h
  rw [List.countP_eq_length_filter, hf, List.length_map, hn]

theorem walked_frame (header : Wire.Header) {c : Command} (hc : c.isStep → c = .step payload) :
    b.Walked payload (if c.isStep then 1 else 0) [b.frame header c] := by
  have hf := b.frame_isStep header c
  split
  · rename_i hs
    obtain rfl := hc hs
    exact ⟨[header], rfl, by simp [hf, hs]⟩
  · rename_i hs
    exact ⟨[], rfl, by simp [hf, hs]⟩

end Bulb

/-! ## What an operation comes to -/

namespace Plan

def steps (ms : List Move) : Nat := (ms.filterMap Move.sends?).countP Command.isStep

theorem steps_send (c : Command) (record : LightState → LightState) (ms : List Move) :
    steps (.send c record::ms) = steps ms + if c.isStep then 1 else 0 := by
  simp [steps, List.countP_cons]

/-- Of the number of steps and of what is recorded, `P` holds before each command
and `Q` at the end. -/
def Along (P Q : Nat → LightState → Prop) : List Move → Nat → LightState → Prop
  | [], k, s => Q k s
  | .store record::ms, k, s => Along P Q ms k (record s)
  | .send c record::ms, k, s => P k s ∧ Along P Q ms (k + if c.isStep then 1 else 0) (record s)

variable {P Q : Nat → LightState → Prop}

theorem along_append (ms ns : List Move) (k : Nat) (s : LightState) :
    Along P Q (ms++ns) k s ↔ Along P (Along P Q ns) ms k s := by
  induction ms generalizing k s with
  | nil => rfl
  | cons m ms ih => cases m <;> simp [Along, ih]

theorem Along.imp {Q' : Nat → LightState → Prop} (hq : ∀ k s, Q k s → Q' k s) {ms : List Move}
    {k : Nat} {s : LightState} (h : Along P Q ms k s) : Along P Q' ms k s := by
  induction ms generalizing k s with
  | nil => exact hq k s h
  | cons m ms ih =>
    cases m with
    | store record => exact ih h
    | send c record => exact ⟨h.1, ih h.2⟩

/-- What a round of one step brings from one number of steps to the next holds
after all rounds. -/
theorem along_rounds {moves : Nat → List Move} {n : Nat}
    (h : ∀ k < n, ∀ s, Q k s → Along P (fun k' s' => k' = k+1 ∧ Q k' s') (moves (k+1)) k s)
    {m k : Nat} (hm : k+m = n) {s : LightState} (hs : Q k s) :
    Along P (fun k' s' => k' = n ∧ Q k' s') ((List.range' (k+1) m).flatMap moves) k s := by
  induction m generalizing k s with
  | zero => exact ⟨hm, hs⟩
  | succ m ih =>
    rw [List.range'_succ, List.flatMap_cons, along_append]
    apply (h k (by omega) s hs).imp
    rintro _ s' ⟨rfl, hs'⟩
    exact ih (by omega) hs'

theorem along_steps {ms : List Move} {k : Nat} {s : LightState} (h : Along P Q ms k s) :
    Q (k + steps ms) (s.recorded ms) := by
  induction ms generalizing k s with
  | nil => exact h
  | cons m ms ih =>
    cases m with
    | store record => exact ih h
    | send c record =>
      have hq := ih h.2
      rwa [steps_send, Nat.add_comm (steps ms), ← Nat.add_assoc]

end Plan

open Plan

namespace Progress

variable {wall : Nat} {b : Bulb} {p : Progress} {ms : List Move} {P Q : Nat → LightState → Prop}

theorem taken_of_refusal {m : Move} (h : (p.move wall b m).refusal ≠ none) :
    taken wall b [m] p = [] := by
  cases move_moved wall b p m with
  | idle _ refused offer same => exact taken_unoffered offer
  | stored record same => exact taken_unoffered rfl
  | accepted c record header offer result queue valid state refusal => exact absurd refusal h
  | rejected c record header fault offer result => exact taken_rejected offer result
  | dropped c record offer => exact taken_unoffered offer

/-- An operation is where its accepted steps have brought it. -/
theorem foldl_along (wall : Nat) (payload : Payload) (hp : p.refusal = none)
    (hn : p.link.isValid = true ∨ ∀ m ∈ ms, m.isPlain = true)
    (hc : ∀ c ∈ ms.filterMap Move.sends?, c.isStep → c = .step payload) {k : Nat}
    (h : Along P Q ms k p.state) :
    ∃ n, b.Walked payload n (taken wall b ms p) ∧
      ((ms.foldl (move wall b) p).refusal = none →
        Q (k+n) (ms.foldl (move wall b) p).state) ∧
      ((ms.foldl (move wall b) p).refusal ≠ none →
        P (k+n) (ms.foldl (move wall b) p).state) := by
  induction ms generalizing p k with
  | nil => exact ⟨0, Bulb.walked_nil, fun _ => h, fun hr => absurd hp hr⟩
  | cons m ms ih =>
    rw [List.foldl_cons, taken_cons]
    obtain ⟨hm, hn'⟩ := heard_cons wall b hn
    have made := move_made wall b hp hm
    have hnone : (p.move wall b m).refusal ≠ none → taken wall b [m] p = [] := taken_of_refusal
    generalize p.move wall b m = p' at *
    cases made with
    | stored record same =>
      subst same
      rw [taken_unoffered rfl]
      exact ih (p := { p with state := record p.state }) hp hn' hc h
    | accepted c record header frames closed state refusal =>
      rw [List.filterMap_cons, Move.sends?_send, List.forall_mem_cons] at hc
      obtain ⟨n, hw, hq, hr⟩ := ih refusal hn' hc.2 (state ▸ h.2)
      rw [Nat.add_assoc] at hq hr
      rw [frames]
      exact ⟨_, (Bulb.walked_frame header hc.1).append hw, hq, hr⟩
    | rejected c record state refusal =>
      have hs : p'.refusal.isSome := by simp [refusal]
      rw [foldl_refused wall b hs, taken_refused wall b hs, hnone (by simp [refusal]), state]
      exact ⟨0, Bulb.walked_nil, fun hr => by simp [refusal] at hr, fun _ => h.1⟩

end Progress

/-! ## Room -/

namespace Queue

theorem call_open {α : Type} (c : Call α) {q : Queue} (h : q.closed = false) :
    (q.call c).1.closed = false := by
  cases c with
  | enqueue mark f => exact (enqueue_same q f).2.2.trans h
  | setDelay microseconds => exact h
  | setCopies n => exact h
  | poll now =>
    simp only [call]
    rcases poll_cases now q with ⟨f, rest, _, _, hp⟩ | ⟨_, _, hp⟩ | ⟨n, _, _, hp⟩ |
      ⟨t, _, _, hp⟩ | hp <;> rw [hp] <;> exact h

/-- Only a disposal closes a queue. -/
theorem run_open {α : Type} (cs : List (Call α)) {q : Queue} (h : q.closed = false) :
    (run cs q).closed = false := by
  induction cs generalizing q with
  | nil => exact h
  | cons c cs ih => exact ih (call_open c h)

/-- An open queue takes a frame if there is room beside those that stay. -/
theorem enqueue_room {q : Queue} (h : q.closed = false) (f : Frame) :
    ((q.enqueue f).2 = .ok () ↔ (kept q.waiting f.identity).length < capacity) ∧
    ((q.enqueue f).2 = .ok () →
      (q.enqueue f).1.waiting = kept q.waiting f.identity ++ [f]) := by
  simp only [enqueue, h, Bool.false_eq_true, if_false]
  split
  · exact ⟨iff_of_false (by simp) (by omega), by simp⟩
  · exact ⟨iff_of_true rfl (by omega), fun _ => rfl⟩

theorem kept_zero (waiting : List Frame) : kept waiting 0 = waiting := rfl

/-- One of the waiting frames gives way to a frame of the identity. -/
structure Yields (waiting : List Frame) (identity : Nat) : Prop where
  room : waiting.length ≤ capacity
  one : waiting.length = (kept waiting identity).length + 1

variable {waiting : List Frame} {identity : Nat} {f : Frame}

theorem Yields.step (h : Yields waiting identity) (hi : identity ≠ 0) (hf : f.identity = 0)
    (hr : waiting.length < capacity) : Yields (waiting ++ [f]) identity := by
  have hk : kept (waiting ++ [f]) identity = kept waiting identity ++ [f] := by
    simp [kept_eq_filter, hf, hi.symm]
  constructor
  · rw [List.length_append, List.length_singleton]
    omega
  · rw [hk, List.length_append, List.length_append, h.one]
    omega

theorem yields_accept (hi : identity ≠ 0) (hf : f.identity = identity)
    (hr : (kept waiting identity).length < capacity) :
    Yields (kept waiting identity ++ [f]) identity := by
  have hk : kept (kept waiting identity ++ [f]) identity = kept waiting identity := by
    simp [kept_eq_filter, hf, hi]
  constructor
  · rw [List.length_append, List.length_singleton]
    omega
  · rw [hk, List.length_append, List.length_singleton]

end Queue

namespace Progress

variable {wall : Nat} {b : Bulb} {p : Progress} {ms : List Move}

/-- What the queue takes of a command that is heard. -/
theorem send_room {c : Command} {record : LightState → LightState} (hp : p.refusal = none)
    (hn : p.link.isValid = true ∨ (Move.send c record).isPlain = true)
    (ho : p.link.queue.closed = false) :
    ((p.move wall b (.send c record)).refusal = none ↔
      (Queue.kept p.link.queue.waiting (b.identity c.category)).length < Queue.capacity) ∧
    ((p.move wall b (.send c record)).refusal = none →
      (p.move wall b (.send c record)).link.queue.closed = false ∧
      ∃ f, f.identity = b.identity c.category ∧
        (p.move wall b (.send c record)).link.queue.waiting =
          Queue.kept p.link.queue.waiting (b.identity c.category) ++ [f]) := by
  have hm := move_moved wall b p (.send c record)
  generalize p.move wall b (.send c record) = p' at *
  cases hm with
  | idle _ refused => simp [hp] at refused
  | accepted c record header offer result queue valid state refusal =>
    obtain ⟨hroom, hwaiting⟩ := Queue.enqueue_room ho (b.frame header c)
    refine ⟨iff_of_true refusal (hroom.mp result), fun _ => ?_⟩
    rw [queue]
    exact ⟨(Queue.enqueue_same _ _).2.2.trans ho, _, rfl, hwaiting result⟩
  | rejected c record header fault offer result queue valid state refusal =>
    have hroom := (Queue.enqueue_room ho (b.frame header c)).1
    have hfull := mt hroom.mpr (by simp [result])
    exact ⟨iff_of_false (by simp [refusal]) hfull, fun h => by simp [refusal] at h⟩
  | dropped c record offer invalid inSession =>
    rw [invalid] at hn
    obtain ⟨x, y, hc⟩ := Move.plain_of_isPlain (hn.resolve_left Bool.false_ne_true)
    exact absurd hc (inSession x y)

/-- Where a command for the power takes the place of another, only steps need
room. -/
theorem foldl_room (hp : p.refusal = none)
    (hn : p.link.isValid = true ∨ ∀ m ∈ ms, m.isPlain = true)
    (ho : p.link.queue.closed = false)
    (hc : ∀ c ∈ ms.filterMap Move.sends?, c.isStep = true ∨ c.category = some .power ∧
      Queue.Yields p.link.queue.waiting (b.identity (some .power))) :
    (ms.foldl (move wall b) p).refusal = none ↔
      (0 < steps ms → p.link.queue.waiting.length + steps ms ≤ Queue.capacity) := by
  have hpower := b.identity_ne_zero .power
  -- that a waiting frame gives way outlasts each accepted frame, of either kind
  induction ms generalizing p with
  | nil => exact iff_of_true hp fun h => absurd h (by decide)
  | cons m ms ih =>
    rw [List.foldl_cons]
    obtain ⟨hm, hn'⟩ := heard_cons wall b hn
    cases m with
    | store record =>
      have hs : p.move wall b (.store record) = { p with state := record p.state } := by
        simp [move, hp]
      rw [hs] at hn' ⊢
      exact ih (p := { p with state := record p.state }) hp hn' ho hc
    | send c record =>
      obtain ⟨hroom, htaken⟩ := send_room hp hm ho
      rw [List.filterMap_cons, Move.sends?_send, List.forall_mem_cons] at hc
      rw [steps_send]
      generalize p.move wall b (.send c record) = p' at *
      by_cases hr : p'.refusal = none
      · obtain ⟨hclosed, f, hf, hw⟩ := htaken hr
        have hfit := hroom.mp hr
        by_cases hs : c.isStep = true
        · rw [b.identity_of_step hs, Queue.kept_zero] at hfit hw
          rw [b.identity_of_step hs] at hf
          refine (ih hr hn' hclosed fun c' hc' => ?_).trans ?_
          · rw [hw]
            exact (hc.2 c' hc').imp_right fun h => ⟨h.1, h.2.step hpower hf hfit⟩
          · rw [hw, List.length_append, List.length_singleton, if_pos hs]
            omega
        · obtain ⟨hcat, hy⟩ := hc.1.resolve_left hs
          rw [hcat] at hfit hf hw
          refine (ih hr hn' hclosed fun c' hc' => ?_).trans ?_
          · rw [hw]
            exact (hc.2 c' hc').imp_right fun h => ⟨h.1, Queue.yields_accept hpower hf hfit⟩
          · rw [hw, List.length_append, List.length_singleton, if_neg hs, hy.one]
            omega
      · rw [foldl_refused wall b (Option.isSome_iff_ne_none.mpr hr)]
        have hfull := mt hroom.mpr hr
        refine iff_of_false hr ?_
        by_cases hs : c.isStep = true
        · rw [b.identity_of_step hs, Queue.kept_zero] at hfull
          rw [if_pos hs]
          omega
        · obtain ⟨hcat, hy⟩ := hc.1.resolve_left hs
          have hone := hy.one
          have hmost := hy.room
          rw [hcat] at hfull
          omega

/-- If a command for the power comes first, steps need room beside the frames
that it does not replace. -/
theorem foldl_power_room {c : Command} {record : LightState → LightState}
    (hcat : c.category = some .power) (hp : p.refusal = none)
    (hn : p.link.isValid = true ∨ ∀ m ∈ .send c record::ms, m.isPlain = true)
    (ho : p.link.queue.closed = false)
    (hc : ∀ c ∈ ms.filterMap Move.sends?, c.isStep = true ∨ c.category = some .power)
    (hs : 0 < steps ms) :
    ((Move.send c record::ms).foldl (move wall b) p).refusal = none ↔
      (Queue.kept p.link.queue.waiting (b.identity (some .power))).length + 1 + steps ms ≤
        Queue.capacity := by
  rw [List.foldl_cons]
  obtain ⟨hm, hn'⟩ := heard_cons wall b hn
  obtain ⟨hroom, htaken⟩ := send_room hp hm ho
  rw [hcat] at hroom htaken
  generalize p.move wall b (.send c record) = p' at *
  by_cases hr : p'.refusal = none
  · obtain ⟨hclosed, f, hf, hw⟩ := htaken hr
    have hy := Queue.yields_accept (b.identity_ne_zero .power) hf (hroom.mp hr)
    rw [← hw] at hy
    refine (foldl_room hr hn' hclosed fun c' hc' => (hc c' hc').imp_right (⟨·, hy⟩)).trans ?_
    rw [hw, List.length_append, List.length_singleton]
    omega
  · rw [foldl_refused wall b (Option.isSome_iff_ne_none.mpr hr)]
    have hfull := mt hroom.mpr hr
    exact iff_of_false hr (by omega)

theorem foldl_isValid (wall : Nat) (b : Bulb) (ms : List Move) (p : Progress) :
    (ms.foldl (move wall b) p).link.isValid = p.link.isValid := by
  induction ms generalizing p with
  | nil => rfl
  | cons m ms ih => rw [List.foldl_cons, ih, move_isValid]

end Progress

end LightBridge
