import LightBridge.Pending
import LightBridge.Proofs.Split
import Mathlib.Data.List.Perm.Subperm
import Mathlib.Data.Set.Card

/-!
# The numbers that are pending

What is pending is told by the history of the calls: a number is, if nothing
ended the wait since it was inserted last. An acknowledgment ends it, and a
pruning more than two seconds after the insertion. Times need not increase, and
a pruning from before the insertion ends nothing.
-/

set_option autoImplicit false

namespace LightBridge.Pending

/-! ## The entries after a call -/

theorem contains_iff (p : Pending) (n : UInt8) :
    p.contains n = true ↔ ∃ e ∈ p.entries, e.1 = n := by
  simp [contains]

theorem mem_insert {p : Pending} {n : UInt8} {now : Nat} {e : UInt8 × Nat} :
    e ∈ (p.insert n now).entries ↔ e = (n, now) ∨ e ∈ p.entries ∧ e.1 ≠ n := by
  simp only [insert, List.mem_append, List.mem_cons, List.mem_filter, decide_eq_true_eq]
  constructor
  · rintro (⟨he, hn⟩ | rfl | ⟨he, hn⟩)
    · exact .inr ⟨he, UInt8.ne_of_lt hn⟩
    · exact .inl rfl
    · exact .inr ⟨he, (UInt8.ne_of_lt hn).symm⟩
  · rintro (rfl | ⟨he, hn⟩)
    · exact .inr (.inl rfl)
    · rcases UInt8.lt_or_lt_of_ne hn with hn | hn
      · exact .inl ⟨he, hn⟩
      · exact .inr (.inr ⟨he, hn⟩)

theorem mem_acknowledge {p : Pending} {n : UInt8} {e : UInt8 × Nat} :
    e ∈ (p.acknowledge n).1.entries ↔ e ∈ p.entries ∧ e.1 ≠ n := by
  simp [acknowledge]

theorem isLost_iff {now : Nat} {e : UInt8 × Nat} : isLost now e = true ↔ e.2+patience < now := by
  simp only [isLost, decide_eq_true_eq]
  omega

theorem mem_prune {p : Pending} {now : Nat} {e : UInt8 × Nat} :
    e ∈ (p.prune now).1.entries ↔ e ∈ p.entries ∧ ¬ e.2+patience < now := by
  simp only [prune, List.mem_filter, Bool.not_eq_true', ← Bool.not_eq_true, isLost_iff]

theorem mem_lost {p : Pending} {now : Nat} {n : UInt8} :
    n ∈ (p.prune now).2 ↔ ∃ t, (n, t) ∈ p.entries ∧ t+patience < now := by
  simp [prune, isLost_iff]

theorem contains_insert (p : Pending) (m n : UInt8) (now : Nat) :
    (p.insert m now).contains n = true ↔ n = m ∨ p.contains n = true := by
  simp only [contains_iff, mem_insert]
  constructor
  · rintro ⟨e, rfl | ⟨he, _⟩, rfl⟩
    · exact .inl rfl
    · exact .inr ⟨e, he, rfl⟩
  · rintro (rfl | ⟨e, he, rfl⟩)
    · exact ⟨(n, now), .inl rfl, rfl⟩
    · by_cases hm : e.1 = m
      · exact ⟨(m, now), .inl rfl, hm.symm⟩
      · exact ⟨e, .inr ⟨he, hm⟩, rfl⟩

theorem contains_acknowledge (p : Pending) (m n : UInt8) :
    (p.acknowledge m).1.contains n = true ↔ p.contains n = true ∧ n ≠ m := by
  simp only [contains_iff, mem_acknowledge]
  constructor
  · rintro ⟨e, ⟨he, hm⟩, rfl⟩
    exact ⟨⟨e, he, rfl⟩, hm⟩
  · rintro ⟨⟨e, he, rfl⟩, hm⟩
    exact ⟨e, ⟨he, hm⟩, rfl⟩

/-- What is left of the entries was there. -/
theorem contains_mono {p p' : Pending} (h : p'.entries ⊆ p.entries) {n : UInt8}
    (hn : p'.contains n = true) : p.contains n = true := by
  rw [contains_iff] at hn ⊢
  obtain ⟨e, he, hn⟩ := hn
  exact ⟨e, h he, hn⟩

theorem prune_subset (p : Pending) (now : Nat) : (p.prune now).1.entries ⊆ p.entries :=
  List.filter_subset_self _

theorem acknowledge_subset (p : Pending) (n : UInt8) : (p.acknowledge n).1.entries ⊆ p.entries :=
  List.filter_subset_self _

/-- Nothing is lost before it is overdue. -/
theorem prune_patient {p : Pending} {now : Nat} (h : ∀ e ∈ p.entries, now ≤ e.2+patience) :
    (p.prune now).1 = p := by
  have hkept : p.entries.filter (fun e => !isLost now e) = p.entries := by
    rw [List.filter_eq_self]
    intro e he
    rw [Bool.not_eq_true', ← Bool.not_eq_true, isLost_iff]
    exact Nat.not_lt.mpr (h e he)
  simp only [prune, hkept]

/-! ## The order of the numbers -/

/-- The numbers are in order, so none is there twice. -/
def Ordered (p : Pending) : Prop := p.entries.Pairwise fun e e' => e.1 < e'.1

theorem insert_ordered {p : Pending} (h : p.Ordered) (n : UInt8) (now : Nat) :
    (p.insert n now).Ordered := by
  rw [Ordered, insert, List.pairwise_append, List.pairwise_cons]
  refine ⟨h.sublist List.filter_sublist, ⟨?_, h.sublist List.filter_sublist⟩, ?_⟩
  · intro e he
    simpa using (List.mem_filter.mp he).2
  · intro e he e' he'
    have hn : e.1 < n := by simpa using (List.mem_filter.mp he).2
    rcases List.mem_cons.mp he' with rfl | he'
    · exact hn
    · have hn' : n < e'.1 := by simpa using (List.mem_filter.mp he').2
      exact UInt8.lt_trans hn hn'

theorem acknowledge_ordered {p : Pending} (h : p.Ordered) (n : UInt8) :
    (p.acknowledge n).1.Ordered :=
  h.sublist List.filter_sublist

theorem prune_ordered {p : Pending} (h : p.Ordered) (now : Nat) :
    (p.prune now).1.Ordered ∧ (p.prune now).2.Pairwise (· < ·) :=
  ⟨h.sublist List.filter_sublist, List.pairwise_map.mpr (h.sublist List.filter_sublist)⟩

theorem Ordered.nodup {p : Pending} (h : p.Ordered) : (p.entries.map (·.1)).Nodup :=
  (List.pairwise_map.mpr h).imp UInt8.ne_of_lt

theorem Ordered.size_eq {p : Pending} (h : p.Ordered) :
    p.size = {n | p.contains n = true}.ncard := by
  have hset : {n | p.contains n = true} = ((p.entries.map (·.1)).toFinset : Set UInt8) := by
    ext n
    simp [contains_iff]
  rw [hset, Set.ncard_coe_finset, List.toFinset_card_of_nodup h.nodup, List.length_map, size]

theorem Ordered.size_le {p : Pending} (h : p.Ordered) : p.size ≤ 256 := by
  have hnodup : ((p.entries.map (·.1)).map UInt8.toNat).Nodup :=
    h.nodup.map fun _ _ => UInt8.toNat_inj.mp
  have hrange : (p.entries.map (·.1)).map UInt8.toNat ⊆ List.range 256 := by
    intro k hk
    obtain ⟨n, _, rfl⟩ := List.mem_map.mp hk
    exact List.mem_range.mpr n.toNat_lt
  simpa [size] using (hnodup.subperm hrange).length_le

/-! ## The history of the calls -/

inductive Call where
  | insert (n : UInt8) (now : Nat)
  | acknowledge (n : UInt8)
  | prune (now : Nat)
  deriving DecidableEq, Repr

def call (p : Pending) : Call → Pending
  | .insert n now => p.insert n now
  | .acknowledge n => (p.acknowledge n).1
  | .prune now => (p.prune now).1

def run : List Call → Pending → Pending
  | [], p => p
  | c::cs, p => run cs (p.call c)

/-- The call ends the wait for a number that was inserted at the given time, or
makes it wait anew. -/
def Call.Ends (n : UInt8) (t : Nat) : Call → Prop
  | .insert m _ => m = n
  | .acknowledge m => m = n
  | .prune now => t+patience < now

/-- The number was inserted last at the given time, and nothing ended the wait
since then. -/
def Outstanding (cs : List Call) (n : UInt8) (t : Nat) : Prop :=
  ∃ early late, cs = early ++ .insert n t::late ∧ ∀ c ∈ late, ¬ c.Ends n t

theorem run_append (cs ds : List Call) (p : Pending) : run (cs++ds) p = run ds (run cs p) := by
  induction cs generalizing p with
  | nil => rfl
  | cons c cs ih => exact ih _

theorem mem_call {p : Pending} {c : Call} {n : UInt8} {t : Nat} :
    (n, t) ∈ (p.call c).entries ↔ c = .insert n t ∨ (n, t) ∈ p.entries ∧ ¬ c.Ends n t := by
  cases c with
  | insert m now =>
    simp only [call, mem_insert, Call.Ends, Prod.mk.injEq, Call.insert.injEq, eq_comm, ne_eq]
  | acknowledge m => simp [call, mem_acknowledge, Call.Ends, eq_comm]
  | prune now => simp [call, mem_prune, Call.Ends]

theorem call_ordered {p : Pending} (h : p.Ordered) (c : Call) : (p.call c).Ordered := by
  cases c with
  | insert n now => exact insert_ordered h n now
  | acknowledge n => exact acknowledge_ordered h n
  | prune now => exact (prune_ordered h now).1

theorem run_ordered (cs : List Call) {p : Pending} (h : p.Ordered) : (run cs p).Ordered := by
  induction cs generalizing p with
  | nil => exact h
  | cons c cs ih => exact ih (call_ordered h c)

/-- The entries are what is outstanding, each with the time of its insertion. -/
theorem mem_run (cs : List Call) (n : UInt8) (t : Nat) :
    (n, t) ∈ (run cs empty).entries ↔ Outstanding cs n t := by
  induction cs using List.reverseRecOn with
  | nil => simp [run, empty, Outstanding]
  | append_singleton cs c ih =>
    rw [run_append, Outstanding, exists_split_concat cs c (.insert n t), ← Outstanding, ← ih]
    exact mem_call

/-- After any calls the pending numbers are those whose wait nothing has ended
since they were inserted last. An acknowledgment finds whether its number is one
of them, a pruning gives up those that were inserted more than two seconds
before it, in order and each once, and the size is how many there are. -/
theorem history_tells_pending (cs : List Call) :
    let p := run cs empty
    (∀ n, p.contains n = true ↔ ∃ t, Outstanding cs n t) ∧
    (∀ n, (p.acknowledge n).2 = true ↔ ∃ t, Outstanding cs n t) ∧
    (∀ now, (p.prune now).2.Pairwise (· < ·) ∧
      ∀ n, n ∈ (p.prune now).2 ↔ ∃ t, Outstanding cs n t ∧ t+2000000 < now) ∧
    p.size = {n | ∃ t, Outstanding cs n t}.ncard ∧
    (p.isEmpty = true ↔ ∀ n t, ¬ Outstanding cs n t) := by
  intro p
  have hp : p.Ordered := run_ordered cs List.Pairwise.nil
  have hmem : ∀ n t, (n, t) ∈ p.entries ↔ Outstanding cs n t := mem_run cs
  have hcontains : ∀ n, p.contains n = true ↔ ∃ t, Outstanding cs n t := by
    intro n
    simp [contains_iff, ← hmem]
  refine ⟨hcontains, hcontains, fun now => ⟨(prune_ordered hp now).2, fun n => ?_⟩, ?_, ?_⟩
  · rw [mem_lost]
    simp only [hmem, patience]
  · rw [hp.size_eq]
    simp only [hcontains]
  · rw [isEmpty, List.isEmpty_iff, List.eq_nil_iff_forall_not_mem]
    simp [← hmem]

end LightBridge.Pending
