import LightBridge.Proofs.Queue.Call

/-!
# The ledger of a queue

The ledger of a run lists the accepted frames in order, each with the number of
the call that accepted it and what became of it. A frame is overtaken when a
later one of its non-zero identity is accepted before it leaves.
-/

set_option autoImplicit false

namespace LightBridge.Queue

variable {α : Type}

/-- What became of an accepted frame; times are numbers of calls. -/
inductive Fate where
  | waiting
  | left (time : Nat)
  | replaced (time : Nat)
  deriving DecidableEq, Repr

structure Passage (α : Type) where
  mark : α
  frame : Frame
  accepted : Nat
  fate : Fate
  deriving DecidableEq, Repr

namespace Passage

def isWaiting (p : Passage α) : Bool := p.fate == .waiting

def left? (p : Passage α) : Option Nat :=
  match p.fate with
  | .left t => some t
  | _ => none

def isReplaced (p : Passage α) : Bool := !p.isWaiting && p.left?.isNone

def entry (p : Passage α) : Nat × α × Frame := (p.accepted, p.mark, p.frame)

def departure? (p : Passage α) : Option (Nat × Frame) := p.left?.map (·, p.frame)

def sameIdentity (p r : Passage α) : Bool :=
  p.frame.identity != 0 && r.frame.identity == p.frame.identity

/-- Whether one of the later frames has the same non-zero identity and was
accepted before this one left. -/
def overtaken (p : Passage α) (later : List (Passage α)) : Bool :=
  later.any fun r => p.sameIdentity r && p.left?.all (r.accepted < ·)

/-- The passage when a frame is accepted. -/
def yield (f : Frame) (time : Nat) (p : Passage α) : Passage α :=
  if p.isWaiting && f.identity != 0 && p.frame.identity == f.identity then
    { p with fate := .replaced time }
  else p

end Passage

/-- The passages that no later one overtook. -/
def delivered : List (Passage α) → List (Passage α)
  | [] => []
  | p::later => if p.overtaken later then delivered later else p :: delivered later

/-! ## The ledger of a run -/

def depart (time : Nat) : List (Passage α) → List (Passage α)
  | [] => []
  | p::ps => if p.isWaiting then { p with fate := .left time } :: ps else p :: depart time ps

def record (time : Nat) (q : Queue) (c : Call α) (ps : List (Passage α)) : List (Passage α) :=
  match q.taken c with
  | some (mark, f) => ps.map (Passage.yield f time) ++ [⟨mark, f, time, .waiting⟩]
  | none => (q.call c).2.foldl (fun ps _ => depart time ps) ps

def ledgerFrom : Nat → List (Passage α) → List (Call α) → Queue → List (Passage α)
  | _, ps, [], _ => ps
  | time, ps, c::cs, q => ledgerFrom (time+1) (record time q c ps) cs (q.call c).1

def ledger (cs : List (Call α)) (q : Queue) : List (Passage α) := ledgerFrom 0 [] cs q

/-- The accepted frames with the numbers of their calls. -/
def acceptances : Nat → List (Call α) → Queue → List (Nat × α × Frame)
  | _, [], _ => []
  | time, c::cs, q => (q.taken c).toList.map (time, ·) ++ acceptances (time+1) cs (q.call c).1

/-- The frames that left with the numbers of their calls. -/
def departures : Nat → List (Call α) → Queue → List (Nat × Frame)
  | _, [], _ => []
  | time, c::cs, q => (q.call c).2.map (time, ·) ++ departures (time+1) cs (q.call c).1

theorem acceptances_snd (time : Nat) (cs : List (Call α)) (q : Queue) :
    (acceptances time cs q).map (·.2) = accepted cs q := by
  induction cs generalizing time q with
  | nil => rfl
  | cons c cs ih => simp [acceptances, accepted, ih, Function.comp_def]

theorem acceptances_append (time : Nat) (cs ds : List (Call α)) (q : Queue) :
    acceptances time (cs++ds) q =
      acceptances time cs q ++ acceptances (time+cs.length) ds (run cs q) := by
  induction cs generalizing time q with
  | nil => rfl
  | cons c cs ih =>
    rw [List.length_cons, Nat.add_comm cs.length, ← Nat.add_assoc]
    simp [acceptances, run, ih]

theorem departures_snd (time : Nat) (cs : List (Call α)) (q : Queue) :
    (departures time cs q).map (·.2) = sent cs q := by
  induction cs generalizing time q with
  | nil => rfl
  | cons c cs ih => simp [departures, sent, ih, Function.comp_def]

/-! ## One passage -/

namespace Passage

/-- A passage waits, has left, or was replaced. -/
theorem standing (p : Passage α) :
    (p.isWaiting = true ∧ p.left? = none ∧ p.isReplaced = false) ∨
    (∃ t, p.isWaiting = false ∧ p.left? = some t ∧ p.isReplaced = false) ∨
    (p.isWaiting = false ∧ p.left? = none ∧ p.isReplaced = true) := by
  cases hf : p.fate <;> simp [isReplaced, isWaiting, left?, hf]

@[simp] theorem yield_entry (f : Frame) (time : Nat) (p : Passage α) :
    (p.yield f time).entry = p.entry := by
  unfold yield
  split <;> rfl

@[simp] theorem yield_left (f : Frame) (time : Nat) (p : Passage α) :
    (p.yield f time).left? = p.left? := by
  unfold yield
  split
  · rename_i h
    have hw : p.fate = .waiting := by simpa [isWaiting] using (Bool.and_eq_true_iff.mp
      (Bool.and_eq_true_iff.mp h).1).1
    simp [left?, hw]
  · rfl

theorem yield_isWaiting (f : Frame) (time : Nat) (p : Passage α) :
    (p.yield f time).isWaiting =
      (p.isWaiting && !(f.identity != 0 && p.frame.identity == f.identity)) := by
  unfold yield
  rw [Bool.and_assoc]
  cases hw : p.isWaiting <;> cases hs : f.identity != 0 && p.frame.identity == f.identity <;>
    simp [hw]
  rfl

theorem yield_isReplaced (f : Frame) (time : Nat) (p : Passage α) :
    (p.yield f time).isReplaced =
      (p.isReplaced || p.isWaiting && (f.identity != 0 && p.frame.identity == f.identity)) := by
  rw [isReplaced, yield_isWaiting, yield_left, isReplaced]
  rcases p.standing with ⟨hw, hl, _⟩ | ⟨t, hw, hl, _⟩ | ⟨hw, hl, _⟩ <;> simp [hw, hl]

theorem yield_departure (f : Frame) (time : Nat) (p : Passage α) :
    (p.yield f time).departure? = p.departure? := by
  have hf := congrArg (·.2.2) (yield_entry f time p)
  simp only [entry] at hf
  simp [departure?, hf]

/-- Only the entries of the later passages matter. -/
theorem overtaken_entries (p : Passage α) (later : List (Passage α)) :
    p.overtaken later = (later.map entry).any fun e =>
      p.frame.identity != 0 && e.2.2.identity == p.frame.identity && p.left?.all (e.1 < ·) := by
  rw [List.any_map]
  rfl

theorem overtaken_congr (p : Passage α) {later later' : List (Passage α)}
    (h : later'.map entry = later.map entry) : p.overtaken later' = p.overtaken later := by
  rw [overtaken_entries, overtaken_entries, h]

end Passage

/-! ## The frames of other marks -/

theorem ledgerFrom_append (time : Nat) (ps : List (Passage α)) (cs ds : List (Call α))
    (q : Queue) :
    ledgerFrom time ps (cs++ds) q =
      ledgerFrom (time+cs.length) (ledgerFrom time ps cs q) ds (run cs q) := by
  induction cs generalizing time ps q with
  | nil => rfl
  | cons c cs ih =>
    rw [List.length_cons, Nat.add_comm cs.length, ← Nat.add_assoc]
    exact ih _ _ _

/-- The waiting frames that were not offered under a mark. -/
def others [DecidableEq α] (mark : α) (ps : List (Passage α)) : List (Passage α) :=
  ps.filter fun p => p.isWaiting && decide (p.mark ≠ mark)

theorem yield_others [DecidableEq α] (mark : α) (f : Frame) (time : Nat) (ps : List (Passage α))
    (h : ∀ p ∈ others mark ps, f.identity ≠ 0 → p.frame.identity ≠ f.identity) :
    others mark (ps.map (Passage.yield f time)) = others mark ps := by
  induction ps with
  | nil => rfl
  | cons p ps ih =>
    have hm : (p.yield f time).mark = p.mark := congrArg (·.2.1) (p.yield_entry f time)
    unfold others at h ih ⊢
    rw [List.filter_cons] at h
    rw [List.map_cons, List.filter_cons, List.filter_cons, hm]
    by_cases hp : (p.isWaiting && decide (p.mark ≠ mark)) = true
    · rw [if_pos hp, List.forall_mem_cons] at h
      -- A frame of another mark has another identity, so it does not give way.
      have hn : (f.identity != 0 && p.frame.identity == f.identity) = false := by
        rw [Bool.and_eq_false_imp, bne_iff_ne, beq_eq_false_iff_ne]
        exact h.1
      have hy : p.yield f time = p := by
        unfold Passage.yield
        rw [Bool.and_assoc, hn, Bool.and_false, if_neg Bool.false_ne_true]
      rw [hy, if_pos hp, if_pos hp, ih h.2]
    · rw [if_neg hp] at h
      have hy : ((p.yield f time).isWaiting && decide (p.mark ≠ mark)) = false := by
        rw [Passage.yield_isWaiting, Bool.and_right_comm, Bool.eq_false_iff.mpr hp, Bool.false_and]
      rw [hy, if_neg hp, if_neg Bool.false_ne_true, ih h]

theorem record_others [DecidableEq α] (mark : α) (f : Frame) (time : Nat) (q : Queue)
    (ps : List (Passage α))
    (h : ∀ p ∈ others mark ps, f.identity ≠ 0 → p.frame.identity ≠ f.identity) :
    others mark (record time q (.enqueue mark f) ps) = others mark ps := by
  unfold record taken
  dsimp only
  split <;> rename_i ht
  · split at ht <;> cases ht
    have hn : others mark [(⟨mark, f, time, .waiting⟩ : Passage α)] = [] := by simp [others]
    rw [others, List.filter_append]
    change others mark _ ++ others mark _ = _
    rw [hn, List.append_nil, yield_others mark f time ps h]
  · rfl

/-- Offers under one mark leave the waiting frames of all others in place if
they share no identity with them. -/
theorem offers_others [DecidableEq α] (mark : α) (fs : List Frame) (time : Nat) (q : Queue)
    (ps : List (Passage α))
    (h : ∀ f ∈ fs, ∀ p ∈ others mark ps, f.identity ≠ 0 → p.frame.identity ≠ f.identity) :
    others mark (ledgerFrom time ps (fs.map (.enqueue mark)) q) = others mark ps := by
  induction fs generalizing time ps q with
  | nil => rfl
  | cons f fs ih =>
    rw [List.forall_mem_cons] at h
    have hr := record_others mark f time q ps h.1
    rw [List.map_cons, ledgerFrom, ih _ _ _ (by rw [hr]; exact h.2), hr]

/-! ## What every call keeps -/

/-- A passage is marked replaced exactly when it was overtaken. -/
def Honest : List (Passage α) → Prop
  | [] => True
  | p::later => p.isReplaced = p.overtaken later ∧ Honest later

structure Tallies (time : Nat) (q : Queue) (ps : List (Passage α)) : Prop where
  waiting : (ps.filter Passage.isWaiting).map Passage.frame = q.waiting
  ordered : ps.Pairwise fun p r => p.isWaiting → r.left? = none
  past : ∀ p ∈ ps, ∀ t, p.left? = some t → t < time
  honest : Honest ps

theorem delivered_eq_filter (ps : List (Passage α)) (h : Honest ps) :
    delivered ps = ps.filter (!·.isReplaced) := by
  induction ps with
  | nil => rfl
  | cons p ps ih =>
    rw [delivered, ← h.1, ih h.2, List.filter_cons]
    cases p.isReplaced <;> rfl

theorem Honest.at {early : List (Passage α)} {p : Passage α} {late : List (Passage α)}
    (h : Honest (early ++ p::late)) : p.isReplaced = p.overtaken late := by
  induction early with
  | nil => exact h.1
  | cons r early ih => exact ih h.2

/-- Whatever left did so before the frames that wait. -/
theorem delivered_split (ps : List (Passage α)) (h : Honest ps)
    (ho : ps.Pairwise fun p r => p.isWaiting → r.left? = none) :
    delivered ps = ps.filter (·.left?.isSome) ++ ps.filter Passage.isWaiting := by
  rw [delivered_eq_filter ps h]
  clear h
  induction ps with
  | nil => rfl
  | cons p ps ih =>
    obtain ⟨hp, hps⟩ := List.pairwise_cons.mp ho
    have hi := ih hps
    rcases p.standing with ⟨hw, hl, hr⟩ | ⟨t, hw, hl, hr⟩ | ⟨hw, hl, hr⟩
    · have hn : ps.filter (·.left?.isSome) = [] := by
        rw [List.filter_eq_nil_iff]
        intro r hr
        simp [hp r hr hw]
      simp [hw, hl, hr, hi, hn]
    · simp [hw, hl, hr, hi]
    · simp [hw, hl, hr, hi]

end LightBridge.Queue
