import LightBridge.Proofs.Queue.Tally

/-!
# Delivery

What left, followed by what waits, is what was accepted without the frames that
a newer one of their identity overtook before they left.
-/

set_option autoImplicit false

namespace LightBridge.Queue

variable {α : Type}

/-! ## What the overtaken frames leave behind -/

def newest (identity : Nat) (fs : List Frame) : Option Frame :=
  (fs.filter (·.identity == identity)).getLast?

theorem newest_cons (identity : Nat) (f : Frame) (fs : List Frame) :
    newest identity (f::fs) =
      (newest identity fs).or (if f.identity = identity then some f else none) := by
  unfold newest
  by_cases h : f.identity = identity
  · simp [h, List.getLast?_cons]
  · simp [h]

theorem newest_append (identity : Nat) (fs gs : List Frame) :
    newest identity (fs++gs) = (newest identity gs).or (newest identity fs) := by
  simp [newest, List.getLast?_append]

theorem newest_isSome (identity : Nat) (fs : List Frame) :
    (newest identity fs).isSome ↔ ∃ f ∈ fs, f.identity = identity := by
  rw [newest, List.getLast?_isSome, ne_eq, List.filter_eq_nil_iff]
  simp

/-- The newest frame of each identity is delivered. -/
theorem newest_delivered (identity : Nat) (ps : List (Passage α)) :
    newest identity ((delivered ps).map Passage.frame) =
      newest identity (ps.map Passage.frame) := by
  induction ps with
  | nil => rfl
  | cons p ps ih =>
    rw [delivered, List.map_cons, newest_cons]
    split
    · rename_i ho
      rw [ih]
      by_cases hi : p.frame.identity = identity
      · obtain ⟨r, hr, hs⟩ := List.any_eq_true.mp ho
        simp only [Passage.sameIdentity, Bool.and_eq_true, beq_iff_eq] at hs
        have hm : (newest identity (ps.map Passage.frame)).isSome := by
          rw [newest_isSome]
          exact ⟨r.frame, List.mem_map_of_mem hr, hs.1.2.trans hi⟩
        rw [Option.or_of_isSome hm]
      · simp [hi]
    · rw [List.map_cons, newest_cons, ih]

theorem delivered_plain (ps : List (Passage α)) :
    ((delivered ps).map Passage.frame).filter (·.identity == 0) =
      (ps.map Passage.frame).filter (·.identity == 0) := by
  induction ps with
  | nil => rfl
  | cons p ps ih =>
    rw [delivered]
    split
    · rename_i ho
      obtain ⟨r, hr, hs⟩ := List.any_eq_true.mp ho
      simp only [Passage.sameIdentity, Bool.and_eq_true, bne_iff_ne] at hs
      rw [List.map_cons, List.filter_cons_of_neg (by simpa using hs.1.1), ih]
    · simp only [List.map_cons, List.filter_cons, ih]

/-! ## The law -/

theorem ledger_frames (cs : List (Call α)) {q : Queue} (hq : q.Fresh) :
    (ledger cs q).map Passage.frame = (accepted cs q).map (·.2) := by
  have h := congrArg (List.map (·.2.2)) (ledger_tallies cs hq).2.1
  rw [List.map_map] at h
  rw [← acceptances_snd 0 cs q, List.map_map]
  exact h

def leftFrames (ps : List (Passage α)) : List Frame :=
  (ps.filter (·.left?.isSome)).map Passage.frame

theorem leftFrames_append (ps rs : List (Passage α)) :
    leftFrames (ps++rs) = leftFrames ps ++ leftFrames rs := by
  simp [leftFrames]

theorem leftFrames_cons (p : Passage α) (ps : List (Passage α)) :
    leftFrames (p::ps) = (if p.left?.isSome then [p.frame] else []) ++ leftFrames ps := by
  rw [leftFrames, List.filter_cons]
  split <;> rfl

theorem leftFrames_eq (ps : List (Passage α)) :
    leftFrames ps = (ps.filterMap Passage.departure?).map (·.2) := by
  induction ps with
  | nil => rfl
  | cons p ps ih => cases h : p.left? <;> simp [leftFrames_cons, Passage.departure?, h, ih]

/-- The frames of the ledger that left are those that the run sent. -/
theorem sent_eq_left (cs : List (Call α)) {q : Queue} (hq : q.Fresh) :
    sent cs q = leftFrames (ledger cs q) := by
  rw [leftFrames_eq, (ledger_tallies cs hq).2.2, departures_snd]

/-- What left, followed by what waits, is what was delivered. -/
theorem delivered_frames (cs : List (Call α)) {q : Queue} (hq : q.Fresh) :
    (delivered (ledger cs q)).map Passage.frame = sent cs q ++ (run cs q).waiting := by
  have ht := (ledger_tallies cs hq).1
  rw [delivered_split _ ht.honest ht.ordered, List.map_append, ht.waiting, sent_eq_left cs hq]
  rfl

/-- The newest accepted frame of an identity is the newest of those that left
or wait. -/
theorem newest_accepted (cs : List (Call α)) {q : Queue} (hq : q.Fresh) (identity : Nat) :
    newest identity (sent cs q ++ (run cs q).waiting) =
      newest identity ((accepted cs q).map (·.2)) := by
  rw [← delivered_frames cs hq, newest_delivered, ledger_frames cs hq]

/-- Before a frame that left, every frame left or was overtaken. -/
theorem left_or_overtaken (cs : List (Call α)) {q : Queue} (hq : q.Fresh)
    {before after late : List (Passage α)} {r p : Passage α}
    (h : ledger cs q = before ++ r :: (after ++ p::late)) (hp : p.left?.isSome = true) :
    r.left?.isSome = !r.overtaken (after ++ p::late) := by
  have ht := (ledger_tallies cs hq).1
  rw [h] at ht
  rw [← ht.honest.at]
  -- A frame that waits would stand before one that left.
  have ho := (List.pairwise_cons.mp (List.pairwise_append.mp ht.ordered).2.1).1 p (by simp)
  rcases r.standing with ⟨hw, _, _⟩ | ⟨t, _, hl, hr⟩ | ⟨_, hl, hr⟩
  · rw [ho hw] at hp
    cases hp
  · simp [hl, hr]
  · simp [hl, hr]

/-- An accepted frame leaves or waits, unless a later one overtook it. -/
theorem accepted_fate (cs ds : List (Call α)) {q : Queue} (hq : q.Fresh) (mark : α) {f : Frame}
    (hf : ((run cs q).enqueue f).2 = .ok ()) :
    let all := cs ++ .enqueue mark f::ds
    ∃ before p after, ledger all q = before ++ p::after ∧ p.entry = (cs.length, mark, f) ∧
      (p.left?.isSome = true ∧ f ∈ sent all q ∨
        p.isWaiting = true ∧ f ∈ (run all q).waiting ∨ p.overtaken after = true) := by
  intro all
  obtain ⟨ht, ha, _⟩ := ledger_tallies all hq
  have htaken : (run cs q).taken (.enqueue mark f) = some (mark, f) := by
    simp [taken, hf, Except.isOk, Except.toBool]
  rw [acceptances_append, acceptances, htaken, Nat.zero_add] at ha
  obtain ⟨before, rest, hl, _, hrest⟩ := List.map_eq_append_iff.mp ha
  obtain ⟨p, after, rfl, hp, _⟩ := List.map_eq_cons_iff.mp hrest
  refine ⟨before, p, after, hl, hp, ?_⟩
  have hframe : p.frame = f := congrArg (·.2.2) hp
  have hmem : p ∈ ledger all q := by simp [hl]
  have hhonest := ht.honest
  rw [hl] at hhonest
  rcases p.standing with ⟨hw, _, _⟩ | ⟨t, _, hleft, _⟩ | ⟨_, _, hr⟩
  · refine .inr (.inl ⟨hw, ?_⟩)
    rw [← ht.waiting, ← hframe]
    exact List.mem_map_of_mem (List.mem_filter.mpr ⟨hmem, hw⟩)
  · have hleft : p.left?.isSome = true := by simp [hleft]
    refine .inl ⟨hleft, ?_⟩
    rw [sent_eq_left all hq, ← hframe]
    exact List.mem_map_of_mem (List.mem_filter.mpr ⟨hmem, hleft⟩)
  · exact .inr (.inr (hhonest.at ▸ hr))

/-- Frames leave in order of acceptance, each once, except for those that were
overtaken. A loop that is blocked without a ring has left nothing behind. -/
theorem delivery_law (cs : List (Call α)) (q : Queue) (hq : q.Fresh) :
    (ledger cs q).map Passage.entry = acceptances 0 cs q ∧
    (ledger cs q).filterMap Passage.departure? = departures 0 cs q ∧
    delivered (ledger cs q) =
      (ledger cs q).filter (·.left?.isSome) ++ (ledger cs q).filter Passage.isWaiting ∧
    (delivered (ledger cs q)).map Passage.frame = sent cs q ++ (run cs q).waiting ∧
    (sent cs q ++ (run cs q).waiting).filter (·.identity == 0) =
      ((accepted cs q).map (·.2)).filter (·.identity == 0) ∧
    (∀ identity, newest identity (sent cs q ++ (run cs q).waiting) =
      newest identity ((accepted cs q).map (·.2))) ∧
    ((run cs q).drain = .blocked → (run cs q).rings = 0 → (run cs q).waiting = []) := by
  obtain ⟨ht, ha, hd⟩ := ledger_tallies cs hq
  have hp : (sent cs q ++ (run cs q).waiting).filter (·.identity == 0) =
      ((accepted cs q).map (·.2)).filter (·.identity == 0) := by
    rw [← delivered_frames cs hq, delivered_plain, ledger_frames cs hq]
  have hw : (run cs q).drain = .blocked → (run cs q).rings = 0 → (run cs q).waiting = [] := by
    intro hb hr
    have hl := (run_sound cs hq.sound).heard hb
    rw [hr] at hl
    exact List.eq_nil_of_length_eq_zero (Nat.le_zero.mp hl)
  exact ⟨ha, hd, delivered_split _ ht.honest ht.ordered, delivered_frames cs hq, hp,
    newest_accepted cs hq, hw⟩

/-- Three values of one identity, with a step between the last two. -/
def dimming : List (Call Unit) :=
  [.enqueue () ⟨[0x4E, 2, 0x55], 511, true⟩, .poll 0, .enqueue () ⟨[0x4E, 9, 0x55], 511, true⟩,
    .enqueue () (.relative [0x4D, 0, 0x55]), .setCopies 3,
    .enqueue () ⟨[0x4E, 17, 0x55], 511, true⟩, .poll 100, .poll 100]

theorem dimming_delivered :
    start.Fresh ∧
    (delivered (ledger dimming start)).map Passage.frame =
      sent dimming start ++ (run dimming start).waiting ∧
    sent dimming start = [⟨[0x4E, 2, 0x55], 511, true⟩, .relative [0x4D, 0, 0x55]] ∧
    (run dimming start).waiting = [⟨[0x4E, 17, 0x55], 511, true⟩] :=
  ⟨start_fresh, (delivery_law dimming start start_fresh).2.2.2.1, by decide, by decide⟩

end LightBridge.Queue
