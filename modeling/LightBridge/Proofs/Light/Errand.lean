import LightBridge.Proofs.Light.Planned
import LightBridge.Proofs.Queue.Effect

/-!
# Operations among others

A queue is shared, so between any two moves of an operation others may call it:
the send loop takes steps, settings change, frames of others are offered. A
light under operation is its state with the moves that are still to come.

What is to hold of the stored state and of the bulb is stated of the moves to
come, under the assumption that their commands are accepted. An operation that
is cut short stops at one of these states.
-/

set_option autoImplicit false

namespace LightBridge

/-- What happens next around a light. -/
inductive Beat where
  /-- A call to the queue by others. -/
  | call (c : Queue.Call (Option Bulb))
  /-- A new operation, unless one is under way. -/
  | begin (operation : Operation)
  /-- One move of the operation under way. -/
  | move

structure Errand where
  link : Link
  state : LightState
  /-- The moves of the operation under way that are still to come. -/
  todo : List Move

namespace Errand

def rest (link : Link) (state : LightState) : Errand := ⟨link, state, []⟩

def progress (e : Errand) : Progress := .begin e.link e.state

variable (wall : Nat) (b : Bulb)

/-- A refused command ends the operation. -/
def advance (e : Errand) (m : Move) (ms : List Move) : Errand :=
  match e.progress.move wall b m with
  | ⟨link, state, _, none⟩ => ⟨link, state, ms⟩
  | ⟨link, state, _, some _⟩ => rest link state

def beat (e : Errand) : Beat → Errand
  | .call c => { e with link := { e.link with queue := (e.link.queue.call c).1 } }
  | .begin operation =>
    match e.todo with
    | [] => { e with todo := (b.plan e.link.isValid e.state operation).all }
    | _ => e
  | .move =>
    match e.todo with
    | [] => e
    | m::ms => e.advance wall b m ms

/-- The calls to the queue that a beat amounts to. -/
def calls (e : Errand) : Beat → List (Queue.Call (Option Bulb))
  | .call c => [c]
  | .begin _ => []
  | .move => (Progress.offers wall b (e.todo.take 1) e.progress).map (.enqueue (some b))

def run : List Beat → Errand → Errand
  | [], e => e
  | x::xs, e => run xs (e.beat wall b x)

def script : List Beat → Errand → List (Queue.Call (Option Bulb))
  | [], _ => []
  | x::xs, e => e.calls wall b x ++ script xs (e.beat wall b x)

theorem advance_eq (e : Errand) (m : Move) (ms : List Move) :
    e.advance wall b m ms =
      ⟨(e.progress.move wall b m).link, (e.progress.move wall b m).state,
        if (e.progress.move wall b m).refusal.isSome then [] else ms⟩ := by
  unfold advance
  rcases e.progress.move wall b m with ⟨link, state, notices, _ | fault⟩ <;> rfl

theorem beat_queue (e : Errand) (x : Beat) :
    (e.beat wall b x).link.queue = Queue.run (e.calls wall b x) e.link.queue := by
  obtain ⟨link, state, todo⟩ := e
  cases x with
  | call c => rfl
  | begin operation => cases todo <;> rfl
  | move =>
    cases todo with
    | nil => rfl
    | cons m ms =>
      simp only [beat, advance_eq]
      exact Progress.foldl_queue (some b) wall b [m] (.begin link state)

/-- The queue of a run sees the calls of the script and nothing else. -/
theorem run_queue (xs : List Beat) (e : Errand) :
    (run wall b xs e).link.queue = Queue.run (script wall b xs e) e.link.queue := by
  induction xs generalizing e with
  | nil => rfl
  | cons x xs ih =>
    rw [run, ih, script, Queue.run_append, beat_queue]

/-- The frames that the queue accepts in a run. -/
def accepted (xs : List Beat) (e : Errand) : List Frame :=
  (Queue.accepted (script wall b xs e) e.link.queue).map (·.2)

theorem accepted_cons (x : Beat) (xs : List Beat) (e : Errand) :
    accepted wall b (x::xs) e =
      (Queue.accepted (e.calls wall b x) e.link.queue).map (·.2) ++
        accepted wall b xs (e.beat wall b x) := by
  rw [accepted, script, Queue.accepted_append, List.map_append, ← beat_queue]
  rfl

/-! ## An operation that is not disturbed -/

/-- What was logged makes no difference to a move. -/
theorem move_notices (p : Progress) (notices : List Notice) (m : Move) :
    ∃ notices', ({ p with notices }).move wall b m =
      { p.move wall b m with notices := notices' } := by
  cases hr : p.refusal with
  | some fault => exact ⟨notices, by simp [Progress.move, hr]⟩
  | none =>
    cases m with
    | store record => exact ⟨notices, by simp [Progress.move, hr]⟩
    | send c record =>
      rcases hs : p.link.send wall b c with ⟨link, more, _ | _⟩ <;>
        exact ⟨notices ++ more, by simp [Progress.move, hr, hs]⟩

theorem foldl_notices (ms : List Move) (p : Progress) (notices : List Notice) :
    ∃ notices', ms.foldl (Progress.move wall b) { p with notices } =
      { ms.foldl (Progress.move wall b) p with notices := notices' } := by
  induction ms generalizing p notices with
  | nil => exact ⟨notices, rfl⟩
  | cons m ms ih =>
    obtain ⟨notices', h⟩ := move_notices wall b p notices m
    rw [List.foldl_cons, h]
    exact ih _ _

theorem run_at_rest (n : Nat) (link : Link) (state : LightState) :
    run wall b (List.replicate n .move) (rest link state) = rest link state := by
  induction n with
  | zero => rfl
  | succ n ih => exact ih

theorem run_moves (ms : List Move) (link : Link) (state : LightState) :
    run wall b (List.replicate ms.length .move) ⟨link, state, ms⟩ =
      rest (ms.foldl (Progress.move wall b) (.begin link state)).link
        (ms.foldl (Progress.move wall b) (.begin link state)).state := by
  induction ms generalizing link state with
  | nil => rfl
  | cons m ms ih =>
    have hb : beat wall b ⟨link, state, m::ms⟩ .move =
      advance wall b ⟨link, state, m::ms⟩ m ms := rfl
    rw [List.length_cons, List.replicate_succ, run, List.foldl_cons, hb, advance, progress]
    rcases (Progress.begin link state).move wall b m with ⟨link', state', notices, _ | fault⟩
    · obtain ⟨notices', h⟩ := foldl_notices wall b ms (.begin link' state') notices
      have hp : (⟨link', state', notices, none⟩ : Progress) =
          { Progress.begin link' state' with notices } := rfl
      rw [hp, h]
      exact ih link' state'
    · rw [Progress.foldl_refused wall b (by rfl)]
      exact run_at_rest wall b _ _ _

/-- Undisturbed, the moves of an operation are what the program does at once. -/
theorem run_operate (light : Light) (link : Link) (operation : Operation) :
    run wall light.bulb (.begin operation :: List.replicate
        (light.bulb.plan link.isValid light.state operation).all.length .move)
        (rest link light.state) =
      rest (light.operate wall link operation).link
        (light.operate wall link operation).state := by
  obtain ⟨notices, h⟩ := light.operate_eq wall link operation
  rw [h]
  exact run_moves wall light.bulb _ link light.state

/-! ## What is to hold while moves are made -/

variable {β : Type} (effect : Frame → β → β)

/-- If the commands of the moves are accepted, the stored state and the bulb
satisfy `P` before each of them and `Q` at the end. -/
def Sure (P Q : LightState → β → Prop) : List Move → LightState → β → Prop
  | [], s, x => Q s x
  | .store record::ms, s, x => P s x ∧ Sure P Q ms (record s) x
  | .send c record::ms, s, x =>
    P s x ∧ Sure P Q ms (record s) (effect (b.frame Link.noHeader c) x)

theorem sure_append (P Q : LightState → β → Prop) (ms ns : List Move) (s : LightState) (x : β) :
    Sure b effect P Q (ms++ns) s x ↔ Sure b effect P (Sure b effect P Q ns) ms s x := by
  induction ms generalizing s x with
  | nil => rfl
  | cons m ms ih => cases m <;> simp [Sure, ih]

variable {b effect} {P Q : LightState → β → Prop}

theorem Sure.imp {Q' : LightState → β → Prop} (hq : ∀ s x, Q s x → Q' s x) {ms : List Move}
    {s : LightState} {x : β} (h : Sure b effect P Q ms s x) : Sure b effect P Q' ms s x := by
  induction ms generalizing s x with
  | nil => exact hq s x h
  | cons m ms ih => cases m <;> exact ⟨h.1, ih h.2⟩

/-- What is to hold before each move and at the end holds now. -/
theorem Sure.now {ms : List Move} {s : LightState} {x : β} (h : Sure b effect P P ms s x) :
    P s x := by
  cases ms with
  | nil => exact h
  | cons m ms => cases m <;> exact h.1

/-- A move is made, or its command is refused and the operation ends where it is. -/
theorem advance_sure {e : Errand} {m : Move} {ms : List Move} {x : β} (hm : m.isPlain = true)
    (kept : (∀ s x, P s x → Q s x) ∨ (e.progress.move wall b m).refusal.isSome = false)
    (h : Sure b effect P Q (m::ms) e.state x) :
    Sure b effect P Q (e.advance wall b m ms).todo (e.advance wall b m ms).state
      (Queue.absorb effect (Progress.taken wall b [m] e.progress) x) := by
  have hmoved := Progress.move_moved wall b e.progress m
  rw [advance_eq]
  cases hmoved with
  | idle _ refused => cases refused
  | stored record same =>
    rw [Progress.taken_unoffered rfl, same]
    exact h.2
  | accepted c record header offer result queue valid state refusal =>
    obtain ⟨payload, category, repeatable⟩ := c
    obtain ⟨cmd, argument, rfl⟩ := Move.plain_of_isPlain hm
    rw [Progress.taken_accepted offer result, refusal, state]
    exact h.2
  | rejected c record header fault offer result queue valid state refusal =>
    rw [Progress.taken_rejected offer result, refusal, state]
    rcases kept with kept | kept
    · exact kept e.state x h.1
    · rw [refusal] at kept
      cases kept
  | dropped c record offer invalid inSession =>
    obtain ⟨cmd, argument, hc⟩ := Move.plain_of_isPlain hm
    exact absurd hc (inSession cmd argument)

theorem mem_advance {e : Errand} {m m' : Move} {ms : List Move}
    (h : m' ∈ (e.advance wall b m ms).todo) : m' ∈ ms := by
  rw [advance_eq] at h
  simp only at h
  split at h
  · cases h
  · exact h

/-! ## What holds in a run -/

/-- Whether the queue refuses the next command of the operation under way. -/
def refuses (wall : Nat) (b : Bulb) (e : Errand) : Bool :=
  match e.todo with
  | [] => false
  | m::_ => (e.progress.move wall b m).refusal.isSome

/-- Whether every operation of the run goes through. -/
def unrefused (wall : Nat) (b : Bulb) : List Beat → Errand → Bool
  | [], _ => true
  | x::xs, e =>
    (match x with
      | .move => !e.refuses wall b
      | _ => true) && unrefused wall b xs (e.beat wall b x)

/-- A reckoning that goes on with each operation. -/
def reckon {γ : Type} (next : LightState → Operation → γ → γ) (wall : Nat) (b : Bulb) :
    List Beat → Errand → γ → γ
  | [], _, g => g
  | x::xs, e, g =>
    reckon next wall b xs (e.beat wall b x) (match x, e.todo with
      | .begin operation, [] => next e.state operation g
      | _, _ => g)

end Errand

/-- The operation is allowed, and frames of others do nothing to the bulb. -/
def Beat.Fits {β : Type} (allowed : Operation → Prop) (effect : Frame → β → β) : Beat → Prop
  | .call (.enqueue _ f) => ∀ x, effect f x = x
  | .call _ => True
  | .begin operation => allowed operation
  | .move => True

namespace Errand

variable {γ β : Type} {wall : Nat} {b : Bulb} {effect : Frame → β → β}
variable {allowed : Operation → Prop}

/-- A call of others does nothing to the bulb. -/
theorem call_inert {c : Queue.Call (Option Bulb)} (hc : (Beat.call c).Fits allowed effect)
    (q : Queue) (x : β) :
    Queue.absorb effect ((Queue.accepted [c] q).map (·.2)) x = x := by
  apply Queue.absorb_inert
  intro f hf
  obtain ⟨⟨mark, f⟩, hm, rfl⟩ := List.mem_map.mp hf
  obtain rfl : .enqueue mark f = c := by simpa using Queue.accepted_mem _ q hm
  exact hc

/-- What holds of the moves to come goes on to hold, provided that what holds
before a move is enough at the end, or that no command is refused. -/
theorem run_sure (wall : Nat) (next : LightState → Operation → γ → γ)
    (P Q : γ → LightState → β → Prop)
    (plain : ∀ isValid s operation, ∀ m ∈ (b.plan isValid s operation).all, m.isPlain = true)
    (plans : ∀ g isValid s operation x, allowed operation → Q g s x →
      Sure b effect (P (next s operation g)) (Q (next s operation g))
        (b.plan isValid s operation).all s x)
    (xs : List Beat) (fits : ∀ x ∈ xs, x.Fits allowed effect) {e : Errand} {g : γ} {x : β}
    (kept : (∀ g s x, P g s x → Q g s x) ∨ unrefused wall b xs e = true)
    (hm : ∀ m ∈ e.todo, m.isPlain = true)
    (h : Sure b effect (P g) (Q g) e.todo e.state x) :
    Sure b effect (P (reckon next wall b xs e g)) (Q (reckon next wall b xs e g))
      (run wall b xs e).todo (run wall b xs e).state
      (Queue.absorb effect (accepted wall b xs e) x) := by
  induction xs generalizing e g x with
  | nil => exact h
  | cons y xs ih =>
    rw [List.forall_mem_cons] at fits
    obtain ⟨fit, fits⟩ := fits
    simp only [unrefused, Bool.and_eq_true] at kept
    have kept' := kept.imp_right And.right
    rw [accepted_cons, Queue.absorb_append]
    obtain ⟨link, state, todo⟩ := e
    cases y with
    | call c =>
      rw [calls, call_inert fit]
      exact ih fits kept' hm h
    | begin operation =>
      cases todo with
      | nil =>
        exact ih fits kept' (plain link.isValid state operation)
          (plans g link.isValid state operation x fit h)
      | cons m ms => exact ih fits kept' hm h
    | move =>
      cases todo with
      | nil => exact ih fits kept' hm h
      | cons m ms =>
        rw [List.forall_mem_cons] at hm
        have hs := advance_sure wall hm.1
          (kept.imp (· g) fun hr => by simpa [refuses] using hr.1) h
        exact ih fits kept' (fun m' hm' => hm.2 m' (mem_advance wall hm')) hs

/-! ## Where accepted frames come from -/

theorem beat_todo {T : Move → Prop}
    (plans : ∀ isValid s operation, ∀ m ∈ (b.plan isValid s operation).all, T m) {e : Errand}
    (he : ∀ m ∈ e.todo, T m) (x : Beat) : ∀ m ∈ (e.beat wall b x).todo, T m := by
  obtain ⟨link, state, todo⟩ := e
  cases x with
  | call c => exact he
  | begin operation =>
    cases todo with
    | nil => exact plans _ _ _
    | cons m ms => exact he
  | move =>
    cases todo with
    | nil => exact he
    | cons m ms => exact fun m' hm' => he m' (List.mem_cons_of_mem _ (mem_advance wall hm'))

/-- An accepted frame was offered by others, or carries a command of a plan. -/
theorem accepted_origin {T : Move → Prop}
    (plans : ∀ isValid s operation, ∀ m ∈ (b.plan isValid s operation).all, T m)
    (xs : List Beat) {e : Errand} (he : ∀ m ∈ e.todo, T m) {f : Frame}
    (hf : f ∈ accepted wall b xs e) :
    (∃ mark, .call (.enqueue mark f) ∈ xs) ∨
      ∃ header c record, T (.send c record) ∧ f = b.frame header c := by
  induction xs generalizing e with
  | nil => cases hf
  | cons x xs ih =>
    rw [accepted_cons] at hf
    rcases List.mem_append.mp hf with hf | hf
    · obtain ⟨⟨mark, f⟩, hm, rfl⟩ := List.mem_map.mp hf
      have hc := Queue.accepted_mem _ _ hm
      cases x with
      | call c =>
        obtain rfl : .enqueue mark f = c := by simpa [calls] using hc
        exact .inl ⟨mark, by simp⟩
      | begin operation => simp [calls] at hc
      | move =>
        obtain ⟨g, hg, hgf⟩ := List.mem_map.mp hc
        obtain ⟨rfl, rfl⟩ : some b = mark ∧ g = f := by simpa using hgf
        obtain ⟨header, c, record, hmem, hfr⟩ := Progress.offers_frame wall b _ _ hg
        exact .inr ⟨header, c, record, he _ (List.mem_of_mem_take hmem), hfr⟩
    · rcases ih (beat_todo plans he x) hf with ⟨mark, hm⟩ | h
      · exact .inl ⟨mark, List.mem_cons_of_mem _ hm⟩
      · exact .inr h

/-- Steps are never overtaken, and what may be overtaken does nothing to the bulb. -/
theorem accepted_overrides {T : Move → Prop}
    (plans : ∀ isValid s operation, ∀ m ∈ (b.plan isValid s operation).all, T m)
    (gentle : ∀ header c record, T (.send c record) →
      (b.frame header c).identity = 0 ∨ ∀ x, effect (b.frame header c) x = x)
    {xs : List Beat} (fits : ∀ x ∈ xs, x.Fits allowed effect) {e : Errand}
    (he : ∀ m ∈ e.todo, T m) : Queue.Overrides effect (accepted wall b xs e) := by
  intro f hf _ _ h0 _
  left
  rcases accepted_origin plans xs he hf with ⟨mark, hm⟩ | ⟨header, c, record, hp, rfl⟩
  · exact fits _ hm
  · exact (gentle header c record hp).resolve_left h0

/-- What left in a run, followed by what waits, does what was accepted. -/
theorem absorb_run (xs : List Beat) {link : Link} (s : LightState) (hq : link.queue.Fresh)
    (h : Queue.Overrides effect (accepted wall b xs (rest link s))) (x : β) :
    Queue.absorb effect (Queue.sent (script wall b xs (rest link s)) link.queue ++
        (run wall b xs (rest link s)).link.queue.waiting) x =
      Queue.absorb effect (accepted wall b xs (rest link s)) x := by
  rw [run_queue]
  exact Queue.absorb_sent (script wall b xs (rest link s)) hq h x

end Errand

end LightBridge
