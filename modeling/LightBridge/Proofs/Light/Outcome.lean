import LightBridge.Proofs.Light.Range
import LightBridge.Proofs.Queue.Disposal

/-!
# How operations end

An operation ends well, or with the fault of the one command that the queue
refused. If it ends well, each command of its plan was accepted and all was
recorded. Every plan that sends anything sends before it stores anything, so an
operation whose first command is refused leaves the light as it was.
-/

set_option autoImplicit false

namespace LightBridge

/-! ## Refusals of a queue -/

namespace Queue

theorem enqueue_fault {q : Queue} {f : Frame} {fault : Fault}
    (h : (q.enqueue f).2 = .error fault) :
    fault = if q.closed then .queueClosed else .queueFull capacity := by
  cases hc : q.closed with
  | true =>
    rw [enqueue_closed hc] at h
    cases h
    rfl
  | false =>
    simp only [enqueue, hc, Bool.false_eq_true, if_false] at h
    split at h <;> cases h
    rfl

/-- A closed queue takes nothing, whatever waits in it. -/
theorem offers_closed {α : Type} {q : Queue} (h : q.closed = true) (mark : α) (fs : List Frame) :
    run (fs.map (.enqueue mark)) q = q ∧ accepted (fs.map (.enqueue mark)) q = [] := by
  induction fs with
  | nil => exact ⟨rfl, rfl⟩
  | cons f fs ih =>
    have he := enqueue_closed h f
    simp only [List.map_cons, run, accepted, call, taken, he]
    exact ih

end Queue

/-! ## Commands that are not lost -/

/-- A plan has only plain commands, or it was made in a valid session. -/
theorem Bulb.plan_heard (b : Bulb) (isValid : Bool) (s : LightState) (operation : Operation) :
    isValid = true ∨ ∀ m ∈ (b.plan isValid s operation).all, m.isPlain = true := by
  obtain ⟨family, zone⟩ := b
  cases family with
  | v2Rgb => exact .inr fun m hm => (Rgb.plan_planned s operation m hm).isPlain
  | v3White => exact .inr fun m hm => (White.plan_planned zone s operation m hm).isPlain
  | v3Rgbw => exact .inr fun m hm => (Rgbw.plan_planned zone s operation m hm).isPlain
  | v6RgbCwWw | v6Rgbw | v6BridgeLamp => exact (session_kept rfl).heard isValid s operation

/-! ## Moves that are heard -/

def Move.isStore : Move → Bool
  | .send .. => false
  | .store _ => true

def Move.sends? : Move → Option Command
  | .send command _ => some command
  | .store _ => none

namespace Move

variable (command : Command) (record : LightState → LightState)

@[simp] theorem record_send : (send command record).record = record := rfl

@[simp] theorem record_store : (store record).record = record := rfl

@[simp] theorem sends?_send : (send command record).sends? = some command := rfl

@[simp] theorem sends?_store : (store record).sends? = none := rfl

end Move

/-- What some moves record, one after the other. -/
def LightState.recorded (s : LightState) (ms : List Move) : LightState :=
  ms.foldl (fun s m => m.record s) s

namespace LightState

variable (s : LightState)

@[simp] theorem recorded_nil : s.recorded [] = s := rfl

@[simp] theorem recorded_cons (m : Move) (ms : List Move) :
    s.recorded (m::ms) = (m.record s).recorded ms := rfl

@[simp] theorem recorded_append (ms more : List Move) :
    s.recorded (ms ++ more) = (s.recorded ms).recorded more := List.foldl_append

end LightState

namespace Progress

variable {wall : Nat} {b : Bulb} {p : Progress} {ms : List Move}

theorem result_ok : p.result = .ok () ↔ p.refusal = none := by
  unfold result
  split <;> simp_all

theorem result_error {fault : Fault} : p.result = .error fault ↔ p.refusal = some fault := by
  unfold result
  split <;> simp_all

/-- What a move can come to if no command was refused before it and none is lost. -/
inductive Made (wall : Nat) (b : Bulb) (p p' : Progress) : Move → Prop where
  | stored (record : LightState → LightState) (same : p' = { p with state := record p.state }) :
    Made wall b p p' (.store record)
  | accepted (command : Command) (record : LightState → LightState) (header : Wire.Header)
      (frames : taken wall b [.send command record] p = [b.frame header command])
      (closed : p'.link.queue.closed = p.link.queue.closed) (state : p'.state = record p.state)
      (refusal : p'.refusal = none) :
    Made wall b p p' (.send command record)
  | rejected (command : Command) (record : LightState → LightState) (state : p'.state = p.state)
      (refusal : p'.refusal =
        some (if p.link.queue.closed then .queueClosed else .queueFull Queue.capacity)) :
    Made wall b p p' (.send command record)

theorem move_made (wall : Nat) (b : Bulb) {m : Move} (hp : p.refusal = none)
    (hn : p.link.isValid = true ∨ m.isPlain = true) : Made wall b p (p.move wall b m) m := by
  cases move_moved wall b p m with
  | idle _ refused => simp [hp] at refused
  | stored record same => exact .stored record same
  | accepted command record header offer result queue valid state refusal =>
    have hc : (p.move wall b (.send command record)).link.queue.closed = p.link.queue.closed := by
      rw [queue]
      exact (Queue.enqueue_same _ _).2.2
    exact .accepted command record header (taken_accepted offer result) hc state refusal
  | rejected command record header fault offer result queue valid state refusal =>
    exact .rejected command record state (Queue.enqueue_fault result ▸ refusal)
  | dropped command record offer invalid inSession queue valid =>
    rw [invalid] at hn
    obtain ⟨x, y, hc⟩ := Move.plain_of_isPlain (hn.resolve_left Bool.false_ne_true)
    exact absurd hc (inSession x y)

theorem heard_cons (wall : Nat) (b : Bulb) {m : Move}
    (hn : p.link.isValid = true ∨ ∀ m' ∈ m::ms, m'.isPlain = true) :
    (p.link.isValid = true ∨ m.isPlain = true) ∧
    ((p.move wall b m).link.isValid = true ∨ ∀ m' ∈ ms, m'.isPlain = true) := by
  rw [List.forall_mem_cons] at hn
  rw [move_isValid]
  exact ⟨hn.imp_right And.left, hn.imp_right And.right⟩

/-- If none is refused, all moves are recorded, and for each command in turn a
frame is accepted. -/
theorem foldl_completed (hp : p.refusal = none)
    (hn : p.link.isValid = true ∨ ∀ m ∈ ms, m.isPlain = true)
    (h : (ms.foldl (move wall b) p).refusal = none) :
    (ms.foldl (move wall b) p).state = p.state.recorded ms ∧
    ∃ sent : List (Wire.Header × Command), sent.map (·.2) = ms.filterMap Move.sends? ∧
      taken wall b ms p = sent.map fun x => b.frame x.1 x.2 := by
  induction ms generalizing p with
  | nil => exact ⟨rfl, [], rfl, rfl⟩
  | cons m ms ih =>
    rw [List.foldl_cons] at h ⊢
    rw [taken_cons]
    obtain ⟨hm, hn'⟩ := heard_cons wall b hn
    cases move_made wall b hp hm with
    | stored record same =>
      rw [same] at h hn' ⊢
      rw [taken_unoffered rfl]
      exact ih hp hn' h
    | accepted command record header frames closed state refusal =>
      obtain ⟨hstate, sent, hsent, htaken⟩ := ih refusal hn' h
      rw [hstate, state, frames, htaken]
      exact ⟨rfl, (header, command)::sent, by simp [hsent], rfl⟩
    | rejected command record state refusal =>
      rw [foldl_refused wall b (by simp [refusal]), refusal] at h
      cases h

/-- A plan ends with a fault only where the queue refuses a command. -/
theorem foldl_fault (hp : p.refusal = none)
    (hn : p.link.isValid = true ∨ ∀ m ∈ ms, m.isPlain = true) {fault : Fault}
    (h : (ms.foldl (move wall b) p).refusal = some fault) :
    fault = if p.link.queue.closed then .queueClosed else .queueFull Queue.capacity := by
  induction ms generalizing p with
  | nil => simp [hp] at h
  | cons m ms ih =>
    rw [List.foldl_cons] at h
    obtain ⟨hm, hn'⟩ := heard_cons wall b hn
    cases move_made wall b hp hm with
    | stored record same =>
      rw [same] at h hn'
      exact ih (p := { p with state := record p.state }) hp hn' h
    | accepted command record header frames closed state refusal =>
      rw [← closed]
      exact ih refusal hn' h
    | rejected command record state refusal =>
      rw [foldl_refused wall b (by simp [refusal]), refusal] at h
      exact (Option.some.inj h).symm

theorem foldl_stores (hs : ∀ m ∈ ms, m.isStore = true) :
    (ms.foldl (move wall b) p).refusal = p.refusal := by
  induction ms generalizing p with
  | nil => rfl
  | cons m ms ih =>
    obtain ⟨hm, hs⟩ := List.forall_mem_cons.mp hs
    rw [List.foldl_cons, ih hs]
    cases m with
    | send command record => cases hm
    | store record =>
      unfold move
      split <;> rfl

end Progress

/-! ## Plans that send before they store -/

namespace Plan

/-- Nothing is stored before a command is sent, if one is sent at all. -/
def SendsFirst : List Move → Prop
  | .store _ :: ms => ∀ m ∈ ms, m.isStore = true
  | _ => True

theorem sendsFirst_store (record : LightState → LightState) : SendsFirst [.store record] :=
  List.forall_mem_nil _

/-- Rounds that open with a command send first, if there are any rounds. -/
theorem sendsFirst_rounds {st : Stretch} {ms : List Move}
    (hs : ∀ round, ∃ command record rest, st.moves round = .send command record :: rest)
    (hm : SendsFirst ms) : SendsFirst (st.all ++ ms) := by
  obtain ⟨count, moves⟩ := st
  cases count with
  | zero => exact hm
  | succ n =>
    obtain ⟨command, record, rest, he⟩ := hs 1
    change moves 1 = .send command record :: rest at he
    simp only [Stretch.all, List.range'_succ, List.flatMap_cons, he]
    trivial

end Plan

open Plan

theorem Progress.foldl_unsent {wall : Nat} {b : Bulb} {p : Progress} {ms : List Move}
    (hs : SendsFirst ms) (hp : p.refusal = none)
    (hn : p.link.isValid = true ∨ ∀ m ∈ ms, m.isPlain = true)
    (h : (ms.foldl (move wall b) p).refusal ≠ none) (ht : taken wall b ms p = []) :
    (ms.foldl (move wall b) p).state = p.state := by
  cases ms with
  | nil => rfl
  | cons m ms =>
    rw [List.foldl_cons] at h ⊢
    rw [taken_cons, List.append_eq_nil_iff] at ht
    obtain ⟨hm, _⟩ := heard_cons wall b hn
    cases move_made wall b hp hm with
    | stored record same =>
      rw [same, foldl_stores hs] at h
      exact absurd hp h
    | accepted command record header frames =>
      rw [frames] at ht
      cases ht.1
    | rejected command record state refusal =>
      rw [foldl_refused wall b (by simp [refusal]), state]

theorem Rgb.plan_sendsFirst (s : LightState) (operation : Operation) :
    SendsFirst (plan s operation).all := by
  have hset : ∀ value, SendsFirst (Plan.moves (setBrightness value s)).all := by
    intro value
    unfold setBrightness
    split
    · trivial
    · dsimp only
      split
      · exact sendsFirst_store _
      · trivial
  cases operation with
  | setHsb hue saturation brightness =>
    simp only [plan]
    split <;> trivial
  | setBrightness value => exact hset value
  | changeBrightness delta =>
    simp only [plan, changeBrightness]
    split
    · split <;> trivial
    · split <;> trivial
  | _ => trivial

theorem White.plan_sendsFirst (zone : UInt8) (s : LightState) (operation : Operation) :
    SendsFirst (plan zone s operation).all := by
  have hset : ∀ value, SendsFirst (Plan.moves (setBrightness zone value s)).all := by
    intro value
    unfold setBrightness
    split
    · trivial
    split
    · trivial
    · dsimp only
      split <;> trivial
  cases operation with
  | setHsb hue saturation brightness =>
    cases brightness with
    | none => trivial
    | some value => exact hset value
  | setColorTemperature value =>
    simp only [plan, setColorTemperature]
    split
    · trivial
    · exact sendsFirst_rounds (fun _ => ⟨_, _, [], rfl⟩) (sendsFirst_store _)
  | changeColorTemperature delta =>
    simp only [plan, changeColorTemperature]
    split <;> trivial
  | setBrightness value => exact hset value
  | changeBrightness delta =>
    simp only [plan, changeBrightness]
    split
    · split <;> trivial
    · split <;> trivial
  | setLedMode mode =>
    simp only [plan, setLedMode]
    split <;> trivial
  | _ => trivial

theorem Rgbw.plan_sendsFirst (zone : UInt8) (s : LightState) (operation : Operation) :
    SendsFirst (plan zone s operation).all := by
  have hset : ∀ value, SendsFirst (Plan.moves (setBrightness zone value)).all := by
    intro value
    unfold setBrightness
    split <;> trivial
  cases operation with
  | setHsb hue saturation brightness =>
    simp only [plan, setHsb]
    split <;> trivial
  | setBrightness value => exact hset value
  | changeBrightness delta =>
    simp only [plan]
    split
    · trivial
    · exact hset _
  | setLedMode mode =>
    simp only [plan, setLedMode]
    generalize (if inModes s.ledMode = true then s.ledMode else firstMode) = here
    split
    · trivial
    · exact sendsFirst_rounds (fun _ => ⟨_, _, [], rfl⟩) (sendsFirst_store _)
  | changeSpeed delta =>
    simp only [plan]
    split <;> trivial
  | setAnimationSpeed speed =>
    exact sendsFirst_rounds (fun _ => ⟨_, _, [_], rfl⟩) (sendsFirst_store _)
  | _ => trivial

theorem SessionBulb.plan_sendsFirst (c : CommandSet) (canLink isValid : Bool) (s : LightState)
    (operation : Operation) : SendsFirst (plan c canLink isValid s operation).all := by
  have hset : ∀ value, SendsFirst (Plan.moves (setBrightness c value s)).all := by
    intro value
    unfold setBrightness
    split
    · trivial
    · split <;> trivial
  have hvalid : SendsFirst (planValid c canLink s operation).all := by
    cases operation with
    | setHsb hue saturation brightness =>
      simp only [planValid, setHsb]
      split <;> trivial
    | nightMode | setSaturation value | setColorTemperature value =>
      simp only [planValid]
      split <;> trivial
    | setBrightness value => exact hset value
    | changeBrightness delta =>
      simp only [planValid]
      split
      · trivial
      · exact hset _
    | changeColorTemperature delta =>
      simp only [planValid]
      split
      · trivial
      · unfold changeColorTemperature
        split <;> trivial
    | setAnimationSpeed speed =>
      exact sendsFirst_rounds (fun _ => ⟨_, _, [], rfl⟩) (sendsFirst_store _)
    | changeSpeed delta =>
      simp only [planValid]
      split <;> trivial
    | link | unlink => cases canLink <;> trivial
    | _ => trivial
  unfold plan
  split
  · rename_i stretches hp
    split
    · exact hp ▸ hvalid
    · trivial
  · exact hvalid

theorem Bulb.plan_sendsFirst (b : Bulb) (isValid : Bool) (s : LightState)
    (operation : Operation) : SendsFirst (b.plan isValid s operation).all := by
  obtain ⟨family, zone⟩ := b
  cases family with
  | v2Rgb => exact Rgb.plan_sendsFirst s operation
  | v3White => exact White.plan_sendsFirst zone s operation
  | v3Rgbw => exact Rgbw.plan_sendsFirst zone s operation
  | v6RgbCwWw | v6Rgbw | v6BridgeLamp =>
    exact SessionBulb.plan_sendsFirst _ _ isValid s operation

/-! ## Operations -/

namespace Light

variable (wall : Nat) (light : Light) (l : Link) (operation : Operation)

/-- The frames of an operation that the queue accepts. -/
def taken : List Frame :=
  Progress.taken wall light.bulb (light.bulb.plan l.isValid light.state operation).all
    (.begin l light.state)

variable {wall light l operation}

/-- If an operation ends well, its plan was carried out to the end. -/
theorem operate_completed (h : (light.operate wall l operation).result = .ok ()) :
    (light.operate wall l operation).state =
      light.state.recorded (light.bulb.plan l.isValid light.state operation).all ∧
    ∃ sent : List (Wire.Header × Command),
      sent.map (·.2) =
        (light.bulb.plan l.isValid light.state operation).all.filterMap Move.sends? ∧
      light.taken wall l operation = sent.map fun x => light.bulb.frame x.1 x.2 := by
  obtain ⟨notices, hp⟩ := light.operate_eq wall l operation
  rw [hp] at h ⊢
  exact Progress.foldl_completed rfl (light.bulb.plan_heard _ _ _) (Progress.result_ok.mp h)

/-- An operation fails because the queue is full, or closed. If none of its
frames was accepted before, or if the queue was closed, the stored state is as
it was; a closed queue is as it was. -/
theorem refused_changes_nothing {fault : Fault}
    (h : (light.operate wall l operation).result = .error fault) :
    fault = (if l.queue.closed then .queueClosed else .queueFull 20) ∧
    (light.taken wall l operation = [] →
      (light.operate wall l operation).state = light.state) ∧
    (l.queue.closed = true → (light.operate wall l operation).state = light.state ∧
      (light.operate wall l operation).link.queue = l.queue) := by
  obtain ⟨notices, hp⟩ := light.operate_eq wall l operation
  have hr : ((light.bulb.plan l.isValid light.state operation).all.foldl
      (Progress.move wall light.bulb) (.begin l light.state)).refusal = some fault := by
    rw [hp] at h
    exact Progress.result_error.mp h
  have hn := light.bulb.plan_heard l.isValid light.state operation
  have hs : light.taken wall l operation = [] →
      (light.operate wall l operation).state = light.state := by
    intro ht
    rw [hp]
    exact Progress.foldl_unsent (light.bulb.plan_sendsFirst _ _ _) rfl hn (by simp [hr]) ht
  refine ⟨Progress.foldl_fault rfl hn hr, hs, fun hc => ?_⟩
  obtain ⟨hq, ha⟩ := Queue.offers_closed hc (some light.bulb) (light.offers wall l operation)
  constructor
  · exact hs (congrArg (List.map Prod.snd) ha)
  · rw [light.operate_queue (some light.bulb), hq]

end Light

/-- A link whose session is valid and whose queue is empty. -/
def readyLink : Link :=
  let session : Session := .start "accF23f57AD4" (0, 0)
  .start .start (some { session with stage := .valid })

theorem Queue.start_takes (f : Frame) : (start.enqueue f).2 = .ok () := by
  rcases enqueue_cases start_fresh.sound f with ⟨_, hfull, _⟩ | ⟨he, _⟩
  · cases hfull
  · rw [he]

/-- Any one command is taken. -/
theorem readyLink_completes (wall : Nat) (light : Light) {operation : Operation} {m : Move}
    (h : (light.bulb.plan true light.state operation).all = [m]) :
    (light.operate wall readyLink operation).result = .ok () := by
  obtain ⟨notices, hp⟩ := light.operate_eq wall readyLink operation
  rw [show readyLink.isValid = true from rfl, h, List.foldl_cons, List.foldl_nil] at hp
  rw [hp, Progress.result_ok]
  cases Progress.move_moved wall light.bulb (.begin readyLink light.state) m with
  | idle _ refused => cases refused
  | stored record same => rw [same]; rfl
  | accepted command record header offer result queue valid state refusal => exact refusal
  | rejected command record header fault offer result =>
    cases (Queue.start_takes _).symm.trans result
  | dropped command record offer invalid => cases invalid

/-- Twenty frames wait that no other replaces. -/
def fullLink : Link := .start (Queue.fill ⟨[0x42, 0, 0x55], 0, false⟩ 20 .start).1 none

def litBulb : Light :=
  ⟨⟨.v3Rgbw, 1⟩, none, { LightState.initial with power := true, brightness := 80 }⟩

/-- The bulb stays at 80 if the queue is full. The lamp stays off if the bridge
is disposed. -/
theorem fullLink_refuses :
    (litBulb.operate 0 fullLink (.setBrightness 10)).result = .error (.queueFull 20) ∧
    (litBulb.operate 0 fullLink (.setBrightness 10)).state = litBulb.state ∧
    (bridgeLamp.operate 0 spentLink (.setPower true)).result = .error .queueClosed ∧
    (bridgeLamp.operate 0 spentLink (.setPower true)).state = .initial ∧
    (bridgeLamp.operate 0 spentLink (.setPower true)).link.queue = spentLink.queue := by
  have hfull : (litBulb.operate 0 fullLink (.setBrightness 10)).result = .error (.queueFull 20) :=
    rfl
  have hclosed : (bridgeLamp.operate 0 spentLink (.setPower true)).result = .error .queueClosed :=
    rfl
  have hkept := (Light.refused_changes_nothing hfull).2.1 rfl
  have hspent := (Light.refused_changes_nothing hclosed).2.2 rfl
  exact ⟨hfull, hkept, hclosed, hspent⟩

end LightBridge
