import LightBridge.Proofs.Queue.Delivery

/-!
# What the frames of a queue do

A receiver takes frames one by one. That some were overtaken makes no difference
to it where the overtaken frame does nothing, or the one that overtook it leads
to the same place from everywhere.
-/

set_option autoImplicit false

namespace LightBridge.Queue

variable {α β : Type} (effect : Frame → β → β)

/-- The receiver after some frames. -/
def absorb : List Frame → β → β
  | [], x => x
  | f::fs, x => absorb fs (effect f x)

theorem absorb_append (fs gs : List Frame) (x : β) :
    absorb effect (fs++gs) x = absorb effect gs (absorb effect fs x) := by
  induction fs generalizing x with
  | nil => rfl
  | cons f fs ih => exact ih _

theorem absorb_inert {fs : List Frame} (h : ∀ f ∈ fs, ∀ x, effect f x = x) (x : β) :
    absorb effect fs x = x := by
  induction fs with
  | nil => rfl
  | cons f fs ih =>
    rw [List.forall_mem_cons] at h
    rw [absorb, h.1, ih h.2]

/-- A later frame of the identity of an earlier one makes up for it. -/
def Overrides (fs : List Frame) : Prop :=
  ∀ f ∈ fs, ∀ g ∈ fs, f.identity ≠ 0 → g.identity = f.identity →
    (∀ x, effect f x = x) ∨ ∀ x y, effect g x = effect g y

variable {effect}

theorem absorb_reset {fs : List Frame} {g : Frame} (hm : g ∈ fs)
    (hg : ∀ x y, effect g x = effect g y) (x y : β) :
    absorb effect fs x = absorb effect fs y := by
  obtain ⟨before, after, rfl⟩ := List.append_of_mem hm
  rw [absorb_append, absorb_append, absorb, absorb, hg]

/-- A receiver is not affected by what was overtaken. -/
theorem absorb_delivered {ps : List (Passage α)} (h : Overrides effect (ps.map Passage.frame))
    (x : β) :
    absorb effect ((delivered ps).map Passage.frame) x =
      absorb effect (ps.map Passage.frame) x := by
  induction ps generalizing x with
  | nil => rfl
  | cons p ps ih =>
    have hps : Overrides effect (ps.map Passage.frame) := fun f hf g hg =>
      h f (List.mem_cons_of_mem _ hf) g (List.mem_cons_of_mem _ hg)
    rw [delivered, List.map_cons, absorb]
    split
    · rename_i ho
      obtain ⟨r, hr, hs⟩ := List.any_eq_true.mp ho
      simp only [Passage.sameIdentity, Bool.and_eq_true, bne_iff_ne, beq_iff_eq] at hs
      have hm : r.frame ∈ ps.map Passage.frame := List.mem_map_of_mem hr
      rw [ih hps]
      rcases h p.frame (by simp) r.frame (by simp [hm]) hs.1.1 hs.1.2 with hi | hg
      · rw [hi]
      · exact absorb_reset hm hg _ _
    · rw [List.map_cons, absorb, ih hps]

/-- What left, followed by what waits, does what the accepted frames do. -/
theorem absorb_sent (cs : List (Call α)) {q : Queue} (hq : q.Fresh)
    (h : Overrides effect ((accepted cs q).map (·.2))) (x : β) :
    absorb effect (sent cs q ++ (run cs q).waiting) x =
      absorb effect ((accepted cs q).map (·.2)) x := by
  rw [← ledger_frames cs hq] at h ⊢
  rw [← delivered_frames cs hq, absorb_delivered h]

end LightBridge.Queue
