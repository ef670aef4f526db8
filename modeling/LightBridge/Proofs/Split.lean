import Mathlib.Data.List.Basic

/-!
# Places of a list

A place of a list is told by what stands before it and after it. What holds of
every place of a history has to be shown, when one more entry comes, of this
entry only.
-/

set_option autoImplicit false

namespace LightBridge

variable {β : Type}

/-- What holds of every place of a list and one more. -/
theorem forall_split_concat {P : List β → β → Prop} (xs : List β) (x : β) :
    (∀ early y late, xs++[x] = early ++ y::late → P early y) ↔
      (∀ early y late, xs = early ++ y::late → P early y) ∧ P xs x := by
  constructor
  · intro h
    have hxs : ∀ early y late, xs = early ++ y::late → P early y := by
      intro early y late he
      exact h early y (late++[x]) (by simp [he])
    exact ⟨hxs, h xs x [] rfl⟩
  · rintro ⟨h, hx⟩ early y late he
    rcases List.eq_nil_or_concat late with rfl | ⟨late, z, rfl⟩
    · obtain ⟨rfl, hy⟩ := List.append_inj' he rfl
      rw [List.cons.injEq] at hy
      exact hy.1 ▸ hx
    · rw [List.concat_eq_append, ← List.cons_append, ← List.append_assoc] at he
      exact h early y late (List.append_inj' he rfl).1

/-- A place after which everything passes is the last one, or was such a place
before and the last one passes. -/
theorem exists_split_concat {P : β → Prop} (xs : List β) (x y : β) :
    (∃ early late, xs++[x] = early ++ y::late ∧ ∀ z ∈ late, P z) ↔
      x = y ∨ (∃ early late, xs = early ++ y::late ∧ ∀ z ∈ late, P z) ∧ P x := by
  constructor
  · rintro ⟨early, late, he, hl⟩
    rcases List.eq_nil_or_concat late with rfl | ⟨late, z, rfl⟩
    · exact .inl (List.head_eq_of_cons_eq (List.append_inj' he rfl).2)
    · rw [List.concat_eq_append, ← List.cons_append, ← List.append_assoc] at he
      obtain ⟨hxs, hz⟩ := List.append_inj' he rfl
      obtain rfl := List.head_eq_of_cons_eq hz
      rw [List.concat_eq_append, List.forall_mem_append, List.forall_mem_singleton] at hl
      exact .inr ⟨⟨early, late, hxs, hl.1⟩, hl.2⟩
  · rintro (rfl | ⟨⟨early, late, rfl, hl⟩, hx⟩)
    · exact ⟨xs, [], rfl, List.forall_mem_nil _⟩
    · refine ⟨early, late++[x], by simp, ?_⟩
      rw [List.forall_mem_append, List.forall_mem_singleton]
      exact ⟨hl, hx⟩

end LightBridge
