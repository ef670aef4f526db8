import LightBridge.Light
import LightBridge.Proofs.Queue.Call

/-!
# Moves

A plan is carried out move by move until the queue refuses a command. What this
does to the queue is a list of offers, the last of which may be refused.
-/

set_option autoImplicit false

namespace LightBridge

/-! ## The moves of a plan -/

/-- The moves of a stretch, round after round. -/
def Stretch.all (s : Stretch) : List Move := (List.range' 1 s.count).flatMap s.moves

@[simp] theorem Stretch.once_all (ms : List Move) : (Stretch.once ms).all = ms := by
  simp [all, once, List.range'_one]

def Plan.all : Plan → List Move
  | .moves stretches => stretches.flatMap Stretch.all
  | _ => []

namespace Link

def offered (wall : Nat) (b : Bulb) (c : Command) (l : Link) : Option Frame :=
  match c.payload with
  | .plain .. => some (b.frame noHeader c)
  | _ => (l.nextHeader wall).2.1.map (b.frame · c)

theorem nextHeader_queue (wall : Nat) (l : Link) : (l.nextHeader wall).1.queue = l.queue := by
  unfold nextHeader
  split <;> rfl

/-- A header needs a valid session, which it leaves valid. -/
theorem nextHeader_valid (wall : Nat) (l : Link) :
    (l.nextHeader wall).2.1.isSome = l.isValid ∧ (l.nextHeader wall).1.isValid = l.isValid := by
  obtain ⟨queue, session, receiver⟩ := l
  cases session with
  | none => exact ⟨rfl, rfl⟩
  | some s =>
    by_cases h : s.isValid
    · have hs : s.stage = .valid := by simpa [Session.isValid] using h
      simp [nextHeader, isValid, Session.nextHeader, Session.assign, Session.pruneLost,
        Session.isValid, hs]
    · simp [nextHeader, isValid, Session.nextHeader, h]

theorem offered_of_session {c : Command} (hc : ∀ x y, c.payload ≠ .plain x y) (wall : Nat)
    (b : Bulb) (l : Link) : l.offered wall b c = (l.nextHeader wall).2.1.map (b.frame · c) := by
  unfold offered
  split
  · rename_i x y h
    exact absurd h (hc x y)
  · rfl

theorem send_of_session {c : Command} (hc : ∀ x y, c.payload ≠ .plain x y) (wall : Nat)
    (b : Bulb) (l : Link) :
    l.send wall b c = match l.nextHeader wall with
      | (l, none, notices) => (l, notices ++ [.sessionLost l.bridge], .ok ())
      | (l, some header, notices) =>
        ((l.enqueue (b.frame header c)).1, notices, (l.enqueue (b.frame header c)).2) := by
  unfold send
  split
  · rename_i x y h
    exact absurd h (hc x y)
  · rfl

/-- A command offers a frame, or is dropped for want of a valid session. -/
theorem send_cases (wall : Nat) (b : Bulb) (c : Command) (l : Link) :
    (∃ h, l.offered wall b c = some (b.frame h c) ∧
      (l.send wall b c).1.queue = (l.queue.enqueue (b.frame h c)).1 ∧
      (l.send wall b c).1.isValid = l.isValid ∧
      (l.send wall b c).2.2 = (l.queue.enqueue (b.frame h c)).2) ∨
    (l.offered wall b c = none ∧ l.isValid = false ∧ (∀ x y, c.payload ≠ .plain x y) ∧
      (l.send wall b c).1.queue = l.queue ∧ (l.send wall b c).1.isValid = l.isValid ∧
      (l.send wall b c).2.2 = .ok ()) := by
  by_cases hp : ∃ x y, c.payload = .plain x y
  · obtain ⟨x, y, hp⟩ := hp
    left
    exists noHeader
    unfold offered send
    rw [hp]
    exact ⟨rfl, rfl, rfl, rfl⟩
  · have hc : ∀ x y, c.payload ≠ .plain x y := fun x y h => hp ⟨x, y, h⟩
    have hq := nextHeader_queue wall l
    obtain ⟨hs, hv⟩ := nextHeader_valid wall l
    rw [send_of_session hc, offered_of_session hc, ← hq]
    generalize l.nextHeader wall = r at *
    obtain ⟨l', header, notices⟩ := r
    cases header with
    | none => exact .inr ⟨rfl, by simpa using hs.symm, hc, rfl, hv, rfl⟩
    | some h => exact .inl ⟨h, rfl, rfl, hv, rfl⟩

end Link

namespace Progress

/-! ## What a plan offers to the queue -/

def offer (wall : Nat) (b : Bulb) (p : Progress) : Move → Option Frame
  | .store _ => none
  | .send c _ => if p.refusal.isSome then none else p.link.offered wall b c

def offers (wall : Nat) (b : Bulb) : List Move → Progress → List Frame
  | [], _ => []
  | m::ms, p => (p.offer wall b m).toList ++ offers wall b ms (p.move wall b m)

theorem move_refused (wall : Nat) (b : Bulb) {p : Progress} (h : p.refusal.isSome) (m : Move) :
    p.move wall b m = p := by
  simp [move, h]

theorem foldl_refused (wall : Nat) (b : Bulb) {p : Progress} (h : p.refusal.isSome)
    (ms : List Move) : ms.foldl (move wall b) p = p := by
  induction ms with
  | nil => rfl
  | cons m ms ih => rw [List.foldl_cons, move_refused wall b h, ih]

theorem rounds_eq (wall : Nat) (b : Bulb) (moves : Nat → List Move) (n round : Nat)
    (p : Progress) :
    rounds wall b moves n round p =
      ((List.range' round n).flatMap moves).foldl (move wall b) p := by
  induction n generalizing round p with
  | zero => rfl
  | succ n ih =>
    rw [rounds, List.range'_succ, List.flatMap_cons, List.foldl_append, ih]
    split
    · rename_i h
      rw [foldl_refused wall b h, foldl_refused wall b h]
    · rfl

theorem stretches_eq (wall : Nat) (b : Bulb) (stretches : List Stretch) (p : Progress) :
    stretches.foldl (stretch wall b) p =
      (stretches.flatMap Stretch.all).foldl (move wall b) p := by
  induction stretches generalizing p with
  | nil => rfl
  | cons s ss ih =>
    rw [List.foldl_cons, ih, List.flatMap_cons, List.foldl_append, stretch, rounds_eq]
    rfl

/-- A plan is carried out move by move; without moves only a line is logged. -/
theorem carryOut_eq (wall : Nat) (b : Bulb) (p : Progress) (plan : Plan) :
    ∃ notices, p.carryOut wall b plan =
      { plan.all.foldl (move wall b) p with notices } := by
  cases plan with
  | unsupported operation => exact ⟨_, rfl⟩
  | noSession => exact ⟨_, rfl⟩
  | moves stretches =>
    exists (p.carryOut wall b (.moves stretches)).notices
    simp only [carryOut, Plan.all, stretches_eq]

inductive Moved (wall : Nat) (b : Bulb) (p p' : Progress) : Move → Prop where
  | idle (m : Move) (refused : p.refusal.isSome) (offer : p.offer wall b m = none) (same : p' = p) :
    Moved wall b p p' m
  | stored (record : LightState → LightState) (same : p' = { p with state := record p.state }) :
    Moved wall b p p' (.store record)
  | accepted (c : Command) (record : LightState → LightState) (h : Wire.Header)
      (offer : p.offer wall b (.send c record) = some (b.frame h c))
      (result : (p.link.queue.enqueue (b.frame h c)).2 = .ok ())
      (queue : p'.link.queue = (p.link.queue.enqueue (b.frame h c)).1)
      (valid : p'.link.isValid = p.link.isValid) (state : p'.state = record p.state)
      (refusal : p'.refusal = none) :
    Moved wall b p p' (.send c record)
  | rejected (c : Command) (record : LightState → LightState) (h : Wire.Header) (fault : Fault)
      (offer : p.offer wall b (.send c record) = some (b.frame h c))
      (result : (p.link.queue.enqueue (b.frame h c)).2 = .error fault)
      (queue : p'.link.queue = (p.link.queue.enqueue (b.frame h c)).1)
      (valid : p'.link.isValid = p.link.isValid) (state : p'.state = p.state)
      (refusal : p'.refusal = some fault) :
    Moved wall b p p' (.send c record)
  | dropped (c : Command) (record : LightState → LightState)
      (offer : p.offer wall b (.send c record) = none) (invalid : p.link.isValid = false)
      (inSession : ∀ x y, c.payload ≠ .plain x y) (queue : p'.link.queue = p.link.queue)
      (valid : p'.link.isValid = p.link.isValid) :
    Moved wall b p p' (.send c record)

theorem move_moved (wall : Nat) (b : Bulb) (p : Progress) (m : Move) :
    Moved wall b p (p.move wall b m) m := by
  cases hr : p.refusal with
  | some fault =>
    have hs : p.refusal.isSome := by simp [hr]
    have ho : p.offer wall b m = none := by cases m <;> simp [offer, hr]
    exact .idle m hs ho (move_refused wall b hs m)
  | none =>
    cases m with
    | store record => exact .stored record (by simp [move, hr])
    | send c record =>
      have ho : p.offer wall b (.send c record) = p.link.offered wall b c := by simp [offer, hr]
      have hc := p.link.send_cases wall b c
      rcases hs : p.link.send wall b c with ⟨link, notices, result⟩
      rw [hs] at hc
      cases result with
      | ok u =>
        have hm : p.move wall b (.send c record) =
            { p with link, state := record p.state, notices := p.notices ++ notices } := by
          simp [move, hr, hs]
        rw [hm]
        rcases hc with ⟨h, hf, hq, hv, hres⟩ | ⟨hf, hn, hc, hq, hv, _⟩
        · exact .accepted c record h (ho.trans hf) hres.symm hq hv rfl hr
        · exact .dropped c record (ho.trans hf) hn hc hq hv
      | error fault =>
        have hm : p.move wall b (.send c record) =
            { p with link, notices := p.notices ++ notices, refusal := some fault } := by
          simp [move, hr, hs]
        rw [hm]
        rcases hc with ⟨h, hf, hq, hv, hres⟩ | ⟨_, _, _, _, _, hres⟩
        · exact .rejected c record h fault (ho.trans hf) hres.symm hq hv rfl rfl
        · cases hres

theorem move_isValid (wall : Nat) (b : Bulb) (p : Progress) (m : Move) :
    (p.move wall b m).link.isValid = p.link.isValid := by
  cases move_moved wall b p m with
  | idle _ refused offer same => rw [same]
  | stored record same => rw [same]
  | accepted c record h offer result queue valid => exact valid
  | rejected c record h fault offer result queue valid => exact valid
  | dropped c record offer invalid inSession queue valid => exact valid

theorem offers_frame (wall : Nat) (b : Bulb) (ms : List Move) (p : Progress) {f : Frame}
    (h : f ∈ offers wall b ms p) :
    ∃ header command record, .send command record ∈ ms ∧ f = b.frame header command := by
  induction ms generalizing p with
  | nil => cases h
  | cons m ms ih =>
    rcases List.mem_append.mp h with h | h
    · rw [Option.mem_toList] at h
      cases move_moved wall b p m with
      | idle _ refused offer => simp [offer] at h
      | stored record => simp [offer] at h
      | accepted command record header offer =>
        exact ⟨header, command, record, by simp, by simpa [offer] using h.symm⟩
      | rejected command record header fault offer =>
        exact ⟨header, command, record, by simp, by simpa [offer] using h.symm⟩
      | dropped command record offer => simp [offer] at h
    · obtain ⟨header, command, record, hm, hf⟩ := ih _ h
      exact ⟨header, command, record, List.mem_cons_of_mem _ hm, hf⟩

/-- A plan only touches the queue by what it offers. -/
theorem foldl_queue {α : Type} (mark : α) (wall : Nat) (b : Bulb) (ms : List Move)
    (p : Progress) :
    (ms.foldl (move wall b) p).link.queue =
      Queue.run ((offers wall b ms p).map (.enqueue mark)) p.link.queue := by
  induction ms generalizing p with
  | nil => rfl
  | cons m ms ih =>
    rw [List.foldl_cons, ih, offers, List.map_append, Queue.run_append]
    congr 1
    cases move_moved wall b p m with
    | idle _ refused offer same => simp [offer, same, Queue.run]
    | stored record same => rw [same]; rfl
    | accepted c record h offer result queue => simp [offer, queue, Queue.run, Queue.call]
    | rejected c record h fault offer result queue => simp [offer, queue, Queue.run, Queue.call]
    | dropped c record offer invalid inSession queue => simp [offer, queue, Queue.run]

theorem offers_refused (wall : Nat) (b : Bulb) {p : Progress} (h : p.refusal.isSome)
    (ms : List Move) : offers wall b ms p = [] := by
  induction ms with
  | nil => rfl
  | cons m ms ih =>
    rw [offers, move_refused wall b h, ih]
    cases m <;> simp [offer, h]

def taken (wall : Nat) (b : Bulb) (ms : List Move) (p : Progress) : List Frame :=
  (Queue.accepted ((offers wall b ms p).map (.enqueue (some b))) p.link.queue).map (·.2)

theorem taken_cons (wall : Nat) (b : Bulb) (m : Move) (ms : List Move) (p : Progress) :
    taken wall b (m::ms) p = taken wall b [m] p ++ taken wall b ms (p.move wall b m) := by
  have hq : (p.move wall b m).link.queue = _ := foldl_queue (some b) wall b [m] p
  simp only [taken, offers, List.append_nil] at hq ⊢
  rw [List.map_append, Queue.accepted_append, List.map_append, ← hq]

theorem taken_refused (wall : Nat) (b : Bulb) {p : Progress} (h : p.refusal.isSome)
    (ms : List Move) : taken wall b ms p = [] := by
  rw [taken, offers_refused wall b h]
  rfl

theorem taken_unoffered {wall : Nat} {b : Bulb} {m : Move} {p : Progress}
    (h : p.offer wall b m = none) : taken wall b [m] p = [] := by
  simp [taken, offers, h, Queue.accepted]

/-- A move gets the frame accepted that it offers, or refused. -/
theorem taken_offered {wall : Nat} {b : Bulb} {m : Move} {p : Progress} {f : Frame}
    (h : p.offer wall b m = some f) :
    taken wall b [m] p = if (p.link.queue.enqueue f).2.isOk then [f] else [] := by
  have ho : offers wall b [m] p = [f] := by simp [offers, h]
  simp only [taken, ho, Queue.accepted, Queue.taken, List.map_cons, List.map_nil]
  split <;> rfl

theorem taken_accepted {wall : Nat} {b : Bulb} {m : Move} {p : Progress} {f : Frame}
    (h : p.offer wall b m = some f) (hr : (p.link.queue.enqueue f).2 = .ok ()) :
    taken wall b [m] p = [f] := by
  rw [taken_offered h, hr]
  rfl

theorem taken_rejected {wall : Nat} {b : Bulb} {m : Move} {p : Progress} {f : Frame}
    {fault : Fault} (h : p.offer wall b m = some f)
    (hr : (p.link.queue.enqueue f).2 = .error fault) : taken wall b [m] p = [] := by
  rw [taken_offered h, hr]
  rfl

end Progress

namespace Light

def offers (wall : Nat) (light : Light) (l : Link) (operation : Operation) : List Frame :=
  Progress.offers wall light.bulb (light.bulb.plan l.isValid light.state operation).all
    (.begin l light.state)

/-- An operation is its moves, one by one. -/
theorem operate_eq (wall : Nat) (light : Light) (l : Link) (operation : Operation) :
    ∃ notices, light.operate wall l operation =
      { (light.bulb.plan l.isValid light.state operation).all.foldl
        (Progress.move wall light.bulb) (.begin l light.state) with notices } :=
  Progress.carryOut_eq wall light.bulb _ _

theorem operate_queue {α : Type} (mark : α) (wall : Nat) (light : Light) (l : Link)
    (operation : Operation) :
    (light.operate wall l operation).link.queue =
      Queue.run ((light.offers wall l operation).map (.enqueue mark)) l.queue := by
  obtain ⟨notices, h⟩ := light.operate_eq wall l operation
  rw [h]
  exact Progress.foldl_queue mark wall light.bulb _ _

end Light

end LightBridge
