import LightBridge.Proofs.Queue.Ledger

/-!
# What a run writes into its ledger

Each call keeps the tallies of the ledger: the frames that still wait are the
queue, none of them stands before one that left, and a passage is marked
replaced exactly when it was overtaken.
-/

set_option autoImplicit false

namespace LightBridge.Queue

variable {α : Type}

/-! ## An accepted frame -/

theorem yield_waiting (f : Frame) (time : Nat) (ps : List (Passage α)) :
    ((ps.map (Passage.yield f time)).filter Passage.isWaiting).map Passage.frame =
      kept ((ps.filter Passage.isWaiting).map Passage.frame) f.identity := by
  induction ps with
  | nil => simp [kept]
  | cons p ps ih =>
    have hf : (p.yield f time).frame = p.frame := congrArg (·.2.2) (p.yield_entry f time)
    unfold kept at ih ⊢
    rw [List.map_cons, List.filter_cons, Passage.yield_isWaiting]
    by_cases hw : p.isWaiting <;> by_cases h0 : f.identity = 0 <;>
      by_cases hs : p.frame.identity = f.identity <;> simp_all

theorem map_yield_entry (f : Frame) (time : Nat) (ps : List (Passage α)) :
    (ps.map (Passage.yield f time)).map Passage.entry = ps.map Passage.entry := by
  simp [Function.comp_def]

theorem map_yield_departures (f : Frame) (time : Nat) (ps : List (Passage α)) :
    (ps.map (Passage.yield f time)).filterMap Passage.departure? =
      ps.filterMap Passage.departure? := by
  rw [List.filterMap_map]
  congr 1
  funext p
  exact p.yield_departure f time

/-- A frame that has left is not overtaken by a later acceptance; one that
waits is overtaken by any of its identity. -/
theorem yield_overtaken (mark : α) (f : Frame) (time : Nat) (p : Passage α)
    (later : List (Passage α)) (hp : ∀ t, p.left? = some t → t < time)
    (h : p.isReplaced = p.overtaken later) :
    (p.yield f time).isReplaced = (p.yield f time).overtaken
      (later.map (Passage.yield f time) ++ [⟨mark, f, time, .waiting⟩]) := by
  have hf : (p.yield f time).frame = p.frame := congrArg (·.2.2) (p.yield_entry f time)
  have hl := p.overtaken_congr (map_yield_entry f time later)
  have ha : (p.yield f time).overtaken
      (later.map (Passage.yield f time) ++ [⟨mark, f, time, .waiting⟩]) =
        (p.overtaken later || p.frame.identity != 0 && f.identity == p.frame.identity &&
          p.left?.all (time < ·)) := by
    rw [← hl]
    simp [Passage.overtaken, Passage.sameIdentity, hf]
  rw [ha, ← h, Passage.yield_isReplaced]
  rcases p.standing with ⟨hw, hn, hr⟩ | ⟨t, hw, hn, hr⟩ | ⟨hw, hn, hr⟩
  · by_cases hs : p.frame.identity = f.identity
    · simp [hw, hn, hr, hs]
    · have h1 := beq_eq_false_iff_ne.mpr hs
      have h2 := beq_eq_false_iff_ne.mpr (Ne.symm hs)
      simp [hw, hn, hr, h1, h2]
  · have ht : ¬ time < t := Nat.not_lt.mpr (Nat.le_of_lt (hp t hn))
    simp [hw, hn, hr, ht]
  · simp [hr]

theorem honest_accept (mark : α) (f : Frame) (time : Nat) (ps : List (Passage α))
    (hp : ∀ p ∈ ps, ∀ t, p.left? = some t → t < time) (h : Honest ps) :
    Honest (ps.map (Passage.yield f time) ++ [⟨mark, f, time, .waiting⟩]) := by
  induction ps with
  | nil => exact ⟨rfl, trivial⟩
  | cons p ps ih =>
    exact ⟨yield_overtaken mark f time p ps (hp p (by simp)) h.1,
      ih (fun r hr => hp r (by simp [hr])) h.2⟩

theorem tallies_accept {time : Nat} {q : Queue} {ps : List (Passage α)}
    (h : Tallies time q ps) (mark : α) (f : Frame) :
    Tallies (time+1) { q with
        waiting := kept q.waiting f.identity ++ [f]
        rings := q.rings+1 }
      (ps.map (Passage.yield f time) ++ [⟨mark, f, time, .waiting⟩]) := by
  constructor
  · rw [List.filter_append, List.map_append, yield_waiting, h.waiting]
    rfl
  · have hy : (ps.map (Passage.yield f time)).Pairwise fun p r =>
        p.isWaiting → r.left? = none := by
      rw [List.pairwise_map]
      apply h.ordered.imp
      intro p r hpr hw
      rw [Passage.yield_isWaiting, Bool.and_eq_true] at hw
      rw [Passage.yield_left]
      exact hpr hw.1
    rw [List.pairwise_append]
    exact ⟨hy, List.pairwise_singleton _ _, fun p _ r hr _ => List.mem_singleton.mp hr ▸ rfl⟩
  · intro p hp t ht
    rcases List.mem_append.mp hp with hp | hp
    · obtain ⟨r, hr, rfl⟩ := List.mem_map.mp hp
      rw [Passage.yield_left] at ht
      exact Nat.lt_succ_of_lt (h.past r hr t ht)
    · rw [List.mem_singleton.mp hp] at ht
      cases ht
  · exact honest_accept mark f time ps h.past h.honest

/-! ## A departure -/

theorem map_depart_entry (time : Nat) (ps : List (Passage α)) :
    (depart time ps).map Passage.entry = ps.map Passage.entry := by
  induction ps with
  | nil => rfl
  | cons p ps ih =>
    rw [depart]
    split
    · rfl
    · simp [ih]

/-- A frame that was overtaken by none while it waited is overtaken by none
once it left. -/
theorem left_overtaken (time : Nat) (p : Passage α) (later : List (Passage α))
    (hn : p.left? = none) (h : p.overtaken later = false) :
    ({ p with fate := .left time } : Passage α).overtaken later = false := by
  unfold Passage.overtaken at h ⊢
  rw [List.any_eq_false] at h ⊢
  intro r hr
  have hs := h r hr
  rw [hn] at hs
  simp only [Option.all_none, Bool.and_true] at hs
  simp only [Bool.and_eq_true, not_and]
  intro hs'
  exact absurd hs' hs

theorem honest_depart (time : Nat) (ps : List (Passage α)) (h : Honest ps) :
    Honest (depart time ps) := by
  induction ps with
  | nil => trivial
  | cons p ps ih =>
    rw [depart]
    split
    · rename_i hw
      rcases p.standing with ⟨_, hn, hr⟩ | ⟨t, hf, _⟩ | ⟨hf, _⟩
      · exact ⟨(left_overtaken time p ps hn (h.1.symm.trans hr)).symm, h.2⟩
      · simp [hw] at hf
      · simp [hw] at hf
    · exact ⟨h.1.trans (p.overtaken_congr (map_depart_entry time ps)).symm, ih h.2⟩

theorem depart_waiting (time : Nat) (ps : List (Passage α)) {f : Frame} {rest : List Frame}
    (h : (ps.filter Passage.isWaiting).map Passage.frame = f::rest) :
    ((depart time ps).filter Passage.isWaiting).map Passage.frame = rest := by
  induction ps with
  | nil => simp at h
  | cons p ps ih =>
    rw [depart]
    rw [List.filter_cons] at h
    split
    · rename_i hw
      rw [if_pos hw, List.map_cons, List.cons.injEq] at h
      rw [List.filter_cons, if_neg (by simp [Passage.isWaiting])]
      exact h.2
    · rename_i hw
      rw [if_neg hw] at h
      rw [List.filter_cons, if_neg hw]
      exact ih h

theorem depart_left (time : Nat) (ps : List (Passage α)) (p : Passage α)
    (hp : p ∈ depart time ps) (t : Nat) (ht : p.left? = some t) :
    t = time ∨ ∃ r ∈ ps, r.left? = some t := by
  induction ps with
  | nil => simp [depart] at hp
  | cons r ps ih =>
    rw [depart] at hp
    split at hp
    · rcases List.mem_cons.mp hp with rfl | hp
      · exact .inl (by simpa [Passage.left?] using ht.symm)
      · exact .inr ⟨p, by simp [hp], ht⟩
    · rcases List.mem_cons.mp hp with rfl | hp
      · exact .inr ⟨p, by simp, ht⟩
      · rcases ih hp with h | ⟨s, hs, h⟩
        · exact .inl h
        · exact .inr ⟨s, by simp [hs], h⟩

theorem depart_ordered (time : Nat) (ps : List (Passage α))
    (h : ps.Pairwise fun p r => p.isWaiting → r.left? = none) :
    (depart time ps).Pairwise fun p r => p.isWaiting → r.left? = none := by
  induction ps with
  | nil => exact List.Pairwise.nil
  | cons p ps ih =>
    obtain ⟨hp, hps⟩ := List.pairwise_cons.mp h
    rw [depart]
    split
    · rw [List.pairwise_cons]
      exact ⟨fun r _ hw => by simp [Passage.isWaiting] at hw, hps⟩
    · rename_i hw
      rw [List.pairwise_cons]
      exact ⟨fun r _ hw' => absurd hw' hw, ih hps⟩

/-- What left before precedes the frame that leaves now. -/
theorem depart_departures (time : Nat) (ps : List (Passage α)) {f : Frame} {rest : List Frame}
    (h : (ps.filter Passage.isWaiting).map Passage.frame = f::rest)
    (ho : ps.Pairwise fun p r => p.isWaiting → r.left? = none) :
    (depart time ps).filterMap Passage.departure? =
      ps.filterMap Passage.departure? ++ [(time, f)] := by
  induction ps with
  | nil => simp at h
  | cons p ps ih =>
    obtain ⟨hp, hps⟩ := List.pairwise_cons.mp ho
    rw [depart]
    rw [List.filter_cons] at h
    split
    · rename_i hw
      rw [if_pos hw, List.map_cons, List.cons.injEq] at h
      have hn : ps.filterMap Passage.departure? = [] := by
        rw [List.filterMap_eq_nil_iff]
        intro r hr
        simp [Passage.departure?, hp r hr hw]
      have hf : p.departure? = none := by
        rcases p.standing with ⟨_, hl, _⟩ | ⟨t, hf, _⟩ | ⟨hf, _⟩
        · simp [Passage.departure?, hl]
        · simp [hw] at hf
        · simp [hw] at hf
      rw [List.filterMap_cons_none hf, hn, List.filterMap_cons, hn]
      simp [Passage.departure?, Passage.left?, h.1]
    · rename_i hw
      rw [if_neg hw] at h
      simp only [List.filterMap_cons, ih h hps]
      split <;> rfl

theorem tallies_depart {time : Nat} {q : Queue} {ps : List (Passage α)}
    (h : Tallies time q ps) {f : Frame} {rest : List Frame} (hw : q.waiting = f::rest) (d : Drain) :
    Tallies (time+1) { q with waiting := rest, drain := d } (depart time ps) := by
  have hf := h.waiting.trans hw
  constructor
  · exact depart_waiting time ps hf
  · exact depart_ordered time ps h.ordered
  · intro p hp t ht
    rcases depart_left time ps p hp t ht with rfl | ⟨r, hr, h'⟩
    · exact Nat.lt_succ_self _
    · exact Nat.lt_succ_of_lt (h.past r hr t h')
  · exact honest_depart time ps h.honest

/-! ## A call, and a run -/

theorem Tallies.later {time : Nat} {q : Queue} {ps : List (Passage α)} (h : Tallies time q ps)
    {q' : Queue} (hq : q'.waiting = q.waiting) : Tallies (time+1) q' ps :=
  ⟨hq ▸ h.waiting, h.ordered, fun p hp t ht => Nat.lt_succ_of_lt (h.past p hp t ht), h.honest⟩

/-- What a call writes into the ledger. -/
theorem record_call {time : Nat} {q : Queue} {ps : List (Passage α)} (hq : q.Sound)
    (h : Tallies time q ps) (c : Call α) :
    Tallies (time+1) (q.call c).1 (record time q c ps) ∧
    (record time q c ps).map Passage.entry =
      ps.map Passage.entry ++ (q.taken c).toList.map (time, ·) ∧
    (record time q c ps).filterMap Passage.departure? =
      ps.filterMap Passage.departure? ++ (q.call c).2.map (time, ·) := by
  cases c with
  | enqueue mark f =>
    rcases enqueue_cases hq f with ⟨he, _, _⟩ | ⟨he, _⟩
    · have ht : q.taken (.enqueue mark f) = none := by simp [taken, he, Except.isOk, Except.toBool]
      have hc : q.call (.enqueue mark f) = (q, []) := by simp [call, he]
      simp only [record, ht, hc, List.foldl_nil, Option.toList_none, List.map_nil, List.append_nil]
      exact ⟨h.later rfl, trivial, trivial⟩
    · have ht : q.taken (.enqueue mark f) = some (mark, f) := by
        simp [taken, he, Except.isOk, Except.toBool]
      have hc : q.call (.enqueue mark f) = ({ q with
          waiting := kept q.waiting f.identity ++ [f]
          rings := q.rings+1 }, []) := by simp [call, he]
      have hn : (⟨mark, f, time, .waiting⟩ : Passage α).departure? = none := rfl
      simp only [record, ht, hc, List.map_append, List.filterMap_append, map_yield_entry,
        map_yield_departures, List.filterMap_cons_none hn]
      exact ⟨tallies_accept h mark f, rfl, rfl⟩
  | setDelay microseconds => exact ⟨h.later rfl, by simp [record, taken, call]⟩
  | setCopies n => exact ⟨h.later rfl, by simp [record, taken, call]⟩
  | poll now =>
    have ht : q.taken (.poll now : Call α) = none := rfl
    have hc : q.call (.poll now : Call α) = q.poll now := rfl
    simp only [record, ht, hc, Option.toList_none, List.map_nil, List.append_nil]
    rcases poll_cases now q with ⟨f, rest, _, hw, hp⟩ | ⟨_, _, hp⟩ | ⟨n, _, _, hp⟩ |
      ⟨t, _, _, hp⟩ | hp <;> rw [hp]
    · exact ⟨tallies_depart h hw _, map_depart_entry time ps,
        depart_departures time ps (h.waiting.trans hw) h.ordered⟩
    all_goals exact ⟨h.later rfl, by simp⟩

theorem ledger_from (time : Nat) (ps : List (Passage α)) (cs : List (Call α)) {q : Queue}
    (hq : q.Sound) (h : Tallies time q ps) :
    Tallies (time+cs.length) (run cs q) (ledgerFrom time ps cs q) ∧
    (ledgerFrom time ps cs q).map Passage.entry =
      ps.map Passage.entry ++ acceptances time cs q ∧
    (ledgerFrom time ps cs q).filterMap Passage.departure? =
      ps.filterMap Passage.departure? ++ departures time cs q := by
  induction cs generalizing time ps q with
  | nil => simpa [ledgerFrom, run, acceptances, departures] using h
  | cons c cs ih =>
    obtain ⟨ht, ha, hd⟩ := record_call hq h c
    obtain ⟨ht', ha', hd'⟩ := ih (time+1) (record time q c ps) (call_sound hq c) ht
    rw [ha, List.append_assoc] at ha'
    rw [hd, List.append_assoc] at hd'
    rw [List.length_cons, Nat.add_comm cs.length 1, ← Nat.add_assoc]
    exact ⟨ht', ha', hd'⟩

theorem ledger_tallies (cs : List (Call α)) {q : Queue} (hq : q.Fresh) :
    Tallies cs.length (run cs q) (ledger cs q) ∧
    (ledger cs q).map Passage.entry = acceptances 0 cs q ∧
    (ledger cs q).filterMap Passage.departure? = departures 0 cs q := by
  have h : Tallies 0 q ([] : List (Passage α)) :=
    ⟨hq.empty.symm, List.Pairwise.nil, by simp, trivial⟩
  simpa [ledger] using ledger_from 0 [] cs hq.sound h

end LightBridge.Queue
