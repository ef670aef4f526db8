import LightBridge.Proofs.Queue.Call

/-!
# Room in a queue

However a queue is used, also once it is disposed of, at most twenty frames
wait and no two of them have one non-zero identity. An offer gives up the
waiting frame of its identity before it looks for room. It finds none only if
it gave up nothing, so a refusal loses no frame.
-/

set_option autoImplicit false

namespace LightBridge.Queue

variable {α : Type}

inductive Use (α : Type) where
  | call (c : Call α)
  | dispose
  deriving DecidableEq, Repr

def use (q : Queue) : Use α → Queue
  | .call c => (q.call c).1
  | .dispose => q.dispose.1

def uses : List (Use α) → Queue → Queue
  | [], q => q
  | u::us, q => uses us (q.use u)

/-! ## What an offer leaves in place -/

theorem kept_eq_filter (waiting : List Frame) (identity : Nat) :
    kept waiting identity = waiting.filter fun g => identity == 0 || g.identity != identity := by
  unfold kept
  split
  · rename_i h
    rw [List.filter_eq_self.mpr]
    simp [h]
  · rename_i h
    simp only [beq_false_of_ne h, Bool.false_or]

theorem mem_kept {waiting : List Frame} {identity : Nat} {g : Frame} :
    g ∈ kept waiting identity ↔ g ∈ waiting ∧ (identity ≠ 0 → g.identity ≠ identity) := by
  simp only [kept_eq_filter, List.mem_filter, Bool.or_eq_true, beq_iff_eq, bne_iff_ne,
    Decidable.or_iff_not_imp_left, ne_eq]

/-- The waiting frames that have an identity have different ones. -/
def Distinct (waiting : List Frame) : Prop :=
  waiting.Pairwise fun f g => f.identity ≠ 0 → g.identity ≠ f.identity

theorem distinct_accept {waiting : List Frame} (h : Distinct waiting) (f : Frame) :
    Distinct (kept waiting f.identity ++ [f]) := by
  have hk : Distinct (kept waiting f.identity) := h.sublist (kept_sublist _ _)
  rw [Distinct, List.pairwise_append]
  refine ⟨hk, List.pairwise_singleton _ _, ?_⟩
  intro g hg e he hn
  rw [List.mem_singleton.mp he]
  intro hi
  exact (mem_kept.mp hg).2 (hi ▸ hn) hi.symm

theorem call_distinct {q : Queue} (hq : q.Sound) (h : Distinct q.waiting) (c : Call α) :
    Distinct (q.call c).1.waiting := by
  cases c with
  | enqueue mark f =>
    rcases enqueue_cases hq f with ⟨he, _, _⟩ | ⟨he, _⟩ <;> simp only [call, he]
    · exact h
    · exact distinct_accept h f
  | setDelay microseconds => exact h
  | setCopies n => exact h
  | poll now =>
    simp only [call]
    rcases poll_cases now q with ⟨f, rest, _, hw, hp⟩ | ⟨_, _, hp⟩ | ⟨n, _, _, hp⟩ |
      ⟨t, _, _, hp⟩ | hp <;> rw [hp]
    · rw [hw] at h
      exact (List.pairwise_cons.mp h).2
    all_goals exact h

/-! ## What every use keeps -/

structure Tidy (q : Queue) : Prop where
  distinct : Distinct q.waiting
  living : q.closed = false → q.Sound
  ended : q.closed = true → q.waiting = [] ∧ q.drain = .stopped

theorem start_tidy : start.Tidy :=
  ⟨List.Pairwise.nil, fun _ => start_fresh.sound, fun h => nomatch h⟩

theorem enqueue_closed {q : Queue} (h : q.closed = true) (f : Frame) :
    q.enqueue f = (q, .error .queueClosed) := by
  simp [enqueue, h]

theorem call_closed {q : Queue} (h : q.closed = true) (hd : q.drain = .stopped) (c : Call α) :
    (q.call c).1.closed = true ∧ (q.call c).1.waiting = q.waiting ∧
      (q.call c).1.drain = .stopped := by
  cases c with
  | enqueue mark f => simp [call, enqueue_closed h, h, hd]
  | setDelay microseconds => exact ⟨h, rfl, hd⟩
  | setCopies n => exact ⟨h, rfl, hd⟩
  | poll now => simp [call, poll, h, hd]

theorem use_tidy {q : Queue} (h : q.Tidy) (u : Use α) : (q.use u).Tidy := by
  cases u with
  | dispose => exact ⟨List.Pairwise.nil, fun h => (nomatch h), fun _ => ⟨rfl, rfl⟩⟩
  | call c =>
    by_cases hc : q.closed = true
    · obtain ⟨hw, hd⟩ := h.ended hc
      obtain ⟨hc', hw', hd'⟩ := call_closed hc hd c
      rw [hw] at hw'
      constructor
      · change Distinct (q.call c).1.waiting
        rw [hw']
        exact List.Pairwise.nil
      · intro ho
        exact absurd (hc'.symm.trans ho) (by simp)
      · exact fun _ => ⟨hw', hd'⟩
    · have hq := h.living (by simpa using hc)
      have hs := call_sound hq c
      constructor
      · exact call_distinct hq h.distinct c
      · exact fun _ => hs
      · intro ho
        exact absurd (hs.isOpen.symm.trans ho) (by simp)

theorem uses_tidy (us : List (Use α)) {q : Queue} (h : q.Tidy) : (uses us q).Tidy := by
  induction us generalizing q with
  | nil => exact h
  | cons u us ih => exact ih (use_tidy h u)

theorem Tidy.room {q : Queue} (h : q.Tidy) : q.waiting.length ≤ capacity := by
  by_cases hc : q.closed = true
  · simp [(h.ended hc).1]
  · exact (h.living (by simpa using hc)).room

/-- Only disposal closes a queue, for ever. -/
theorem uses_closed (us : List (Use α)) {q : Queue} (h : q.Tidy) :
    (uses us q).closed = true ↔ q.closed = true ∨ .dispose ∈ us := by
  induction us generalizing q with
  | nil => simp [uses]
  | cons u us ih =>
    rw [uses, ih (use_tidy h u), List.mem_cons]
    cases u with
    | dispose => simp [use, dispose]
    | call c =>
      have hu : (q.use (.call c)).closed = q.closed := by
        by_cases hc : q.closed = true
        · exact (call_closed hc (h.ended hc).2 c).1.trans hc.symm
        · have hq := h.living (by simpa using hc)
          exact (call_sound hq c).isOpen.trans hq.isOpen.symm
      simp [hu]

/-! ## An offer -/

/-- An open queue refuses a frame exactly if it is full and none of the waiting
frames gives way. -/
theorem enqueue_full_iff {q : Queue} (h : q.Sound) (f : Frame) :
    (q.enqueue f).2 = .error (.queueFull capacity) ↔
      q.waiting.length = capacity ∧
        ∀ g ∈ q.waiting, f.identity ≠ 0 → g.identity ≠ f.identity := by
  rcases enqueue_cases h f with ⟨he, hl, hk⟩ | ⟨he, hk⟩ <;> rw [he]
  · have hg : ∀ g ∈ q.waiting, f.identity ≠ 0 → g.identity ≠ f.identity := by
      intro g hg
      rw [← hk] at hg
      exact (mem_kept.mp hg).2
    exact iff_of_true rfl ⟨hl, hg⟩
  · refine iff_of_false (by simp) ?_
    rintro ⟨hl, hg⟩
    have hk' : kept q.waiting f.identity = q.waiting := by
      rw [kept_eq_filter, List.filter_eq_self]
      intro g hm
      have hn := hg g hm
      by_cases h0 : f.identity = 0
      · simp [h0]
      · simp [hn h0]
    rw [hk', hl] at hk
    exact absurd hk (Nat.lt_irrefl _)

/-- An offer to an open queue is refused as a whole, or it succeeds: then the
frame is the last and only the frame of its identity is gone. -/
theorem enqueue_open {q : Queue} (h : q.Sound) (f : Frame) :
    ((q.enqueue f).2 = .error (.queueFull capacity) → (q.enqueue f).1 = q) ∧
    ((q.enqueue f).2 ≠ .error (.queueFull capacity) → (q.enqueue f).2 = .ok () ∧
      (q.enqueue f).1.waiting =
        q.waiting.filter (fun g => f.identity == 0 || g.identity != f.identity) ++ [f]) := by
  rcases enqueue_cases h f with ⟨he, _, _⟩ | ⟨he, _⟩ <;> rw [he]
  · exact ⟨fun _ => rfl, fun hn => absurd rfl hn⟩
  · constructor
    · intro hn
      cases hn
    · intro _
      rw [← kept_eq_filter]
      exact ⟨rfl, rfl⟩

/-- At no time do more than twenty frames wait, or two of one identity. A frame
is refused for want of room exactly if twenty frames wait and none of them gives
way to it, and a refusal changes nothing. -/
theorem offer_all_or_nothing (us : List (Use α)) (f : Frame) :
    let q := uses us start
    q.waiting.length ≤ 20 ∧
    q.waiting.Pairwise (fun g h => g.identity ≠ 0 → h.identity ≠ g.identity) ∧
    (.dispose ∉ us →
      ((q.enqueue f).2 = .error (.queueFull 20) ↔
        q.waiting.length = 20 ∧ ∀ g ∈ q.waiting, f.identity ≠ 0 → g.identity ≠ f.identity) ∧
      ((q.enqueue f).2 = .error (.queueFull 20) → (q.enqueue f).1 = q) ∧
      ((q.enqueue f).2 ≠ .error (.queueFull 20) → (q.enqueue f).2 = .ok () ∧
        (q.enqueue f).1.waiting =
          q.waiting.filter (fun g => f.identity == 0 || g.identity != f.identity) ++ [f])) ∧
    (.dispose ∈ us → q.enqueue f = (q, .error .queueClosed)) := by
  intro q
  have ht : q.Tidy := uses_tidy us start_tidy
  have hc : q.closed = true ↔ .dispose ∈ us := by
    rw [uses_closed us start_tidy]
    exact or_iff_right Bool.false_ne_true
  refine ⟨ht.room, ht.distinct, ?_, ?_⟩
  · intro hd
    have hq : q.Sound := ht.living (Bool.eq_false_iff.mpr fun h => hd (hc.mp h))
    exact ⟨enqueue_full_iff hq f, enqueue_open hq f⟩
  · intro hd
    exact enqueue_closed (hc.mpr hd) f

/-- Twenty frames with identities from 501 on. -/
def crowd : List (Use Unit) :=
  (List.range 20).map fun n => .call (.enqueue () ⟨[0x4E, n.toUInt8, 0x55], 501+n, true⟩)

/-- A full queue refuses one more identity, and takes a newer frame of one that waits. -/
theorem crowd_full :
    (uses crowd start).enqueue ⟨[0x4E, 27, 0x55], 521, true⟩ =
      (uses crowd start, .error (.queueFull 20)) ∧
    ((uses crowd start).enqueue ⟨[0x4E, 27, 0x55], 507, true⟩).2 = .ok () ∧
    ((uses crowd start).enqueue ⟨[0x4E, 27, 0x55], 507, true⟩).1.waiting.map Frame.identity =
      [501, 502, 503, 504, 505, 506, 508, 509, 510, 511, 512, 513, 514, 515, 516, 517, 518, 519,
        520, 507] := by
  have hd : Use.dispose ∉ crowd := by decide
  obtain ⟨hiff, hsame, _⟩ :=
    (offer_all_or_nothing crowd ⟨[0x4E, 27, 0x55], 521, true⟩).2.2.1 hd
  obtain ⟨hiff', _, htaken⟩ :=
    (offer_all_or_nothing crowd ⟨[0x4E, 27, 0x55], 507, true⟩).2.2.1 hd
  have hfull := hiff.mpr (by decide)
  have hroom := htaken (mt hiff'.mp (by decide))
  refine ⟨Prod.ext (hsame hfull) hfull, hroom.1, ?_⟩
  rw [hroom.2]
  decide

end LightBridge.Queue
