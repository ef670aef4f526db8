import LightBridge.Proofs.Station.Awaited

/-!
# The numbers of a session

A session numbers its commands and its registrations with one counter, which
starts at 0, can be set, and wraps. Within two seconds no number is given up as
lost, so what is pending is told by two things: which numbers were handed out,
and which were acknowledged after that.
-/

set_option autoImplicit false

namespace LightBridge

/-! ## What a run hands out and hears back -/

namespace Session

inductive Mark where
  /-- The counter was set. -/
  | set (n : UInt8)
  | handed (n : UInt8)
  /-- An acknowledgment came. -/
  | cleared (n : UInt8)
  deriving DecidableEq, Repr

/-- The number that goes out with an input: that of the header, or of the
registration that is offered. -/
def handed? (now : Nat) (s : Session) : Input → Option UInt8
  | .nextHeader => (s.nextHeader now).2.1.map (·.sequence)
  | .packet bytes => (s.receive now bytes).2.1.bind (·.bytes[8]?)
  | _ => none

/-- The number that is acknowledged, with whatever status. -/
def Input.cleared? (i : Input) : Option UInt8 :=
  match i.packet? with
  | some (.acknowledged n _) => some n
  | _ => none

def mark? (now : Nat) (s : Session) : Input → Option Mark
  | .setSequence n => some (.set n)
  | i => ((s.handed? now i).map Mark.handed).or (i.cleared?.map Mark.cleared)

def marks : List (Nat × Input) → Session → List Mark
  | [], _ => []
  | (now, i)::is, s => (s.mark? now i).toList ++ marks is (s.take now i).1

/-- The number that the counter was set to last, and how many were handed out
since. -/
def count (ms : List Mark) : UInt8 × Nat :=
  ms.foldl (fun p m => match m with
    | .set n => (n, 0)
    | .handed _ => (p.1, p.2+1)
    | .cleared _ => p) (0, 0)

/-- A number was handed out, and no acknowledgment of it came after that. -/
def Awaited (n : UInt8) (ms : List Mark) : Prop :=
  ∃ early late, ms = early ++ .handed n::late ∧ .cleared n ∉ late

theorem awaited_concat (n : UInt8) (ms : List Mark) (m : Mark) :
    Awaited n (ms++[m]) ↔ m = .handed n ∨ (Awaited n ms ∧ m ≠ .cleared n) := by
  have hl : ∀ late : List Mark, .cleared n ∉ late ↔ ∀ z ∈ late, z ≠ .cleared n := by
    intro late
    rw [← List.forall_mem_ne]
    simp only [ne_eq, eq_comm]
  simp only [Awaited, hl]
  exact exists_split_concat ms m (.handed n)

/-! ## One input -/

/-- What an input does to the counter and to the pending numbers. -/
inductive Counts (now : Nat) (s s' : Session) : Option Mark → Prop
  | set (pending : s'.pending = s.pending) : Counts now s s' (some (.set s'.sequence))
  | handed (sequence : s'.sequence = s.sequence+1)
      (pending : s'.pending = s.pending.insert s.sequence now) :
      Counts now s s' (some (.handed s.sequence))
  | cleared (n : UInt8) (sequence : s'.sequence = s.sequence)
      (pending : s'.pending = (s.pending.acknowledge n).1) : Counts now s s' (some (.cleared n))
  | none (sequence : s'.sequence = s.sequence) (pending : s'.pending = s.pending) :
      Counts now s s' Option.none

section Step

variable {now : Nat} {s : Session}

theorem assign_patient (h : ∀ e ∈ s.pending.entries, now ≤ e.2+Pending.patience) :
    (s.assign now).1.pending = s.pending.insert s.sequence now := by
  apply Pending.prune_patient
  intro e he
  simp only [Pending.insert, List.mem_append, List.mem_cons, List.mem_filter] at he
  rcases he with ⟨he, _⟩ | rfl | ⟨he, _⟩
  · exact h e he
  · exact Nat.le_add_right _ _
  · exact h e he

theorem packet_counts (h : ∀ e ∈ s.pending.entries, now ≤ e.2+Pending.patience)
    (bytes : List UInt8) :
    Counts now s (s.take now (.packet bytes)).1 (s.mark? now (.packet bytes)) := by
  cases hp : Packet.parse bytes with
  | error fault =>
    have hm : s.mark? now (.packet bytes) = none := by
      simp [mark?, handed?, Input.cleared?, Input.packet?, receive, hp, Except.toOption]
    rw [hm]
    apply Counts.none <;> simp [take, receive, hp]
  | ok p =>
    have ht : (s.take now (.packet bytes)).1 = (s.apply now p).1 := by simp [take, receive, hp]
    have hm : s.mark? now (.packet bytes) =
        (((s.apply now p).2.1.bind (·.bytes[8]?)).map Mark.handed).or
          ((Input.packet bytes).cleared?.map Mark.cleared) := by
      simp [mark?, handed?, receive, hp]
    have hi : (Input.packet bytes).packet? = some p := by
      simp [Input.packet?, hp, Except.toOption]
    rw [ht, hm, Input.cleared?, hi]
    cases p with
    | sessionId mac sid1 sid2 =>
      by_cases hb : mac = s.bridge
      · simp only [apply, hb, if_true, Option.bind_some, registration_carries, Option.map_some,
          Option.some_or]
        exact .handed rfl (assign_patient h)
      · simp only [apply, hb, if_false]
        exact .none rfl rfl
    | registered mac | echo mac =>
      by_cases hb : mac = s.bridge <;> simp only [apply, hb, if_true, if_false] <;>
        exact .none rfl rfl
    | acknowledged n status => exact .cleared n rfl rfl

theorem take_counts (h : ∀ e ∈ s.pending.entries, now ≤ e.2+Pending.patience) (i : Input) :
    Counts now s (s.take now i).1 (s.mark? now i) := by
  cases i with
  | packet bytes => exact packet_counts h bytes
  | keepAlive =>
    apply Counts.none
    · obtain ⟨p, ⟨_, _, hs⟩ | ⟨_, _, _, hs⟩⟩ := keepAlive_cases now s <;> simp [take, hs]
    · exact (keepAlive_pending now s).trans (Pending.prune_patient h)
  | nextHeader =>
    cases hv : s.isValid with
    | true =>
      have hm : s.mark? now .nextHeader = some (.handed s.sequence) := by
        simp [mark?, handed?, nextHeader, hv, assign]
      rw [hm, take_nextHeader now hv]
      exact .handed (s.assign_number now).1 (assign_patient h)
    | false =>
      have hm : s.mark? now .nextHeader = none := by
        simp [mark?, handed?, nextHeader, hv, Input.cleared?, Input.packet?]
      rw [hm]
      apply Counts.none <;> simp [take, nextHeader, hv]
  | setPassword pw1 pw2 => exact .none rfl rfl
  | setSequence n => exact .set rfl

end Step

/-! ## A run within two seconds -/

theorem count_concat (ms : List Mark) (m : Mark) :
    count (ms++[m]) = match m with
      | .set n => (n, 0)
      | .handed _ => ((count ms).1, (count ms).2+1)
      | .cleared _ => count ms := by
  simp [count]

/-- The number that comes after so many of them. -/
def reached (p : UInt8 × Nat) : Nat := (p.1.toNat+p.2)%256

/-- Times less than two seconds after a given one. -/
def Within (t now : Nat) : Prop := t ≤ now ∧ now < t+Pending.patience

/-- A session as the marks tell it. -/
structure Numbered (t : Nat) (ms : List Mark) (s : Session) : Prop where
  next : s.sequence.toNat = reached (count ms)
  handed : ∀ early m late, ms = early ++ m::late → ∀ n, m = .handed n →
    n.toNat = reached (count early)
  awaited : ∀ n, s.pending.contains n = true ↔ Awaited n ms
  ordered : s.pending.Ordered
  recent : ∀ e ∈ s.pending.entries, t ≤ e.2

theorem start_numbered (id : String) (password : UInt8 × UInt8) (t : Nat) :
    Numbered t [] (start id password) := by
  constructor
  · rfl
  · intro early m late he
    simp at he
  · intro n
    simp [start, Pending.empty, Pending.contains, Awaited]
  · exact List.Pairwise.nil
  · simp [start, Pending.empty]

variable {t now : Nat} {s : Session} {ms : List Mark}

theorem Numbered.take (h : Numbered t ms s) (hw : Within t now) (i : Input) :
    Numbered t (ms ++ (s.mark? now i).toList) (s.take now i).1 := by
  have hpatient : ∀ e ∈ s.pending.entries, now ≤ e.2+Pending.patience := by
    intro e he
    have hle := h.recent e he
    have hlt := hw.2
    omega
  have hcounts := take_counts hpatient i
  generalize hs : (s.take now i).1 = s' at hcounts ⊢
  generalize s.mark? now i = m at hcounts ⊢
  clear hs
  cases hcounts with
  | set pending =>
    rw [Option.toList_some]
    constructor
    · rw [count_concat, reached, Nat.add_zero, Nat.mod_eq_of_lt s'.sequence.toNat_lt]
    · exact (forall_split_concat ms _).mpr ⟨h.handed, by simp⟩
    · intro n
      rw [pending, h.awaited, awaited_concat]
      simp
    · exact pending ▸ h.ordered
    · exact pending ▸ h.recent
  | handed sequence pending =>
    rw [Option.toList_some]
    constructor
    · have hnext := h.next
      rw [count_concat, sequence, UInt8.toNat_add]
      simp only [reached, UInt8.toNat_one] at hnext ⊢
      omega
    · refine (forall_split_concat ms _).mpr ⟨h.handed, ?_⟩
      rintro n ⟨⟩
      exact h.next
    · intro n
      rw [pending, Pending.contains_insert, h.awaited, awaited_concat]
      simp [eq_comm]
    · exact pending ▸ Pending.insert_ordered h.ordered _ now
    · intro e he
      simp only [pending, Pending.insert, List.mem_append, List.mem_cons, List.mem_filter] at he
      rcases he with ⟨he, _⟩ | rfl | ⟨he, _⟩
      · exact h.recent e he
      · exact hw.1
      · exact h.recent e he
  | cleared n sequence pending =>
    rw [Option.toList_some]
    constructor
    · rw [count_concat, sequence, h.next]
    · exact (forall_split_concat ms _).mpr ⟨h.handed, by simp⟩
    · intro m
      rw [pending, Pending.contains_acknowledge, h.awaited, awaited_concat]
      simp [eq_comm]
    · exact pending ▸ Pending.acknowledge_ordered h.ordered n
    · intro e he
      rw [pending] at he
      exact h.recent e (Pending.acknowledge_subset s.pending n he)
  | none sequence pending =>
    rw [Option.toList_none, List.append_nil]
    exact ⟨sequence ▸ h.next, h.handed, pending ▸ h.awaited, pending ▸ h.ordered,
      pending ▸ h.recent⟩

theorem Numbered.run (is : List (Nat × Input)) (hw : ∀ x ∈ is, Within t x.1)
    (h : Numbered t ms s) : Numbered t (ms ++ marks is s) (Session.run is s) := by
  induction is generalizing ms s with
  | nil => simpa [marks, Session.run] using h
  | cons x is ih =>
    rw [List.forall_mem_cons] at hw
    have hi := ih hw.2 (h.take hw.1 x.2)
    rw [List.append_assoc] at hi
    exact hi

/-- A number goes out with each header and with the answer to session bytes of
the bridge, and with nothing else. -/
theorem handed_iff (now : Nat) (s : Session) (i : Input) :
    (s.handed? now i).isSome = true ↔
      (i = .nextHeader ∧ s.stage = .valid) ∨
      ∃ bytes sid1 sid2, i = .packet bytes ∧
        Packet.parse bytes = .ok (.sessionId s.bridge sid1 sid2) := by
  cases i with
  | packet bytes =>
    cases hp : Packet.parse bytes with
    | error fault => simp [handed?, receive, hp]
    | ok p =>
      have hh : s.handed? now (.packet bytes) = (s.apply now p).2.1.bind (·.bytes[8]?) := by
        simp [handed?, receive, hp]
      rw [hh]
      cases p with
      | sessionId mac sid1 sid2 =>
        by_cases hb : mac = s.bridge
        · simp [apply, hb, registration_carries, hp]
        · simp [apply, hb, hp]
      | registered mac | echo mac => by_cases hb : mac = s.bridge <;> simp [apply, hb, hp]
      | acknowledged n status => simp [apply, hp]
  | nextHeader => cases hv : s.stage <;> simp [handed?, nextHeader, isValid, hv]
  | keepAlive => simp [handed?]
  | setPassword pw1 pw2 => simp [handed?]
  | setSequence n => simp [handed?]

end Session

/-! ## The numbers of a station -/

namespace Station

open Session (Within)

theorem perform_wall (s : Station) (d : Deed) :
    (s.perform d).wall = s.wall ∨ ∃ wall, d = .age wall ∧ (s.perform d).wall = wall := by
  cases d with
  | operate light operation => cases hl : s.lights[light]? <;> simp [perform, operate, hl]
  | session i => cases i <;> exact .inl rfl
  | age wall => exact .inr ⟨wall, rfl, rfl⟩
  | _ => exact .inl rfl

/-- The session takes the inputs of a deed at the time of the deed. -/
theorem inputs_wall (s : Station) (d : Deed) :
    ∀ x ∈ Link.inputs (s.acts d), x.1 = s.wall := by
  intro x hx
  obtain ⟨a, ha, hx⟩ := List.mem_filterMap.mp hx
  cases d with
  | operate light operation =>
    simp only [acts] at ha
    split at ha
    · cases ha
    · obtain ⟨c, _, _, rfl⟩ := Progress.acts_mem _ _ _ _ ha
      simp only [Link.Act.input?] at hx
      split at hx <;> simp_all
      exact hx ▸ rfl
  | session i =>
    obtain rfl := List.mem_singleton.mp ha
    exact Option.some.inj hx ▸ rfl
  | age wall => cases ha
  | _ =>
    obtain rfl := List.mem_singleton.mp ha
    cases hx

theorem inputs_within {t : Nat} {ds : List Deed} {s : Station} (hs : Within t s.wall)
    (hd : ∀ wall, .age wall ∈ ds → Within t wall) :
    ∀ x ∈ Link.inputs (s.actsIn ds), Within t x.1 := by
  induction ds generalizing s with
  | nil => exact fun x hx => nomatch hx
  | cons d ds ih =>
    have hnext : Within t (s.perform d).wall := by
      rcases s.perform_wall d with hw | ⟨wall, rfl, hw⟩ <;> rw [hw]
      · exact hs
      · exact hd wall (List.mem_cons_self ..)
    intro x hx
    rw [actsIn, Link.inputs, List.filterMap_append, List.mem_append] at hx
    rcases hx with hx | hx
    · exact s.inputs_wall d x hx ▸ hs
    · exact ih hnext (fun wall hwall => hd wall (List.mem_cons_of_mem _ hwall)) x hx

/-- In a run of less than two seconds the numbers that go out follow each other,
from 0 or from the number set last, and one goes out with each header and with
each answer to session bytes of the bridge. A number is pending exactly if it
went out and was not acknowledged since, whatever else happened, and there are
as many pending entries as such numbers. -/
theorem numbers_accounted {s : Station} {id : String} {password : UInt8 × UInt8}
    (hs : s.link.session = some (.start id password)) {t : Nat} {ds : List Deed}
    (hw : Within t s.wall) (hd : ∀ wall, .age wall ∈ ds → Within t wall) :
    let is := Link.inputs (s.actsIn ds)
    let ms := Session.marks is (.start id password)
    (∀ early n late, ms = early ++ .handed n::late →
      n.toNat = ((Session.count early).1.toNat + (Session.count early).2)%256) ∧
    (∀ early now i late, is = early ++ (now, i)::late →
      let before := Session.run early (.start id password)
      ((before.handed? now i).isSome = true ↔
        (i = .nextHeader ∧ before.stage = .valid) ∨
        ∃ bytes sid1 sid2, i = .packet bytes ∧
          Packet.parse bytes = .ok (.sessionId before.bridge sid1 sid2))) ∧
    ∃ session, (s.run ds).link.session = some session ∧
      (∀ n, session.pending.contains n = true ↔ Session.Awaited n ms) ∧
      session.pending.size = {n | Session.Awaited n ms}.ncard ∧ session.pending.size ≤ 256 := by
  intro is ms
  have h : Session.Numbered t ms (Session.run is (.start id password)) :=
    (Session.start_numbered id password t).run is (inputs_within hw hd)
  refine ⟨?_, ?_, Session.run is (.start id password), ?_, h.awaited, ?_, h.ordered.size_le⟩
  · intro early n late he
    exact h.handed early _ late he n rfl
  · intro early now i late _ before
    exact before.handed_iff now i
  · rw [run_link, Link.run_session, hs]
    rfl
  · rw [h.ordered.size_eq]
    simp only [h.awaited]

/-- The counter wraps, one number is acknowledged as failed, and the session is
replaced. -/
def wrapping : List Deed :=
  entry ++ [.session (.setSequence 255), .operate 0 (.setPower true), .age 1999999,
    .operate 0 (.setPower false), .session (.packet (Packet.acknowledgedBytes 255 1)),
    .session (.packet (Packet.sessionIdBytes [0xAC, 0xCF, 0x23, 0xF5, 0x7A, 0xD4] 0x56 0x78))]

theorem wrapping_accounted :
    let ms := Session.marks (Link.inputs (porch.actsIn wrapping)) (.start "accF23f57AD4" (0, 0))
    porch.link.session = some (.start "accF23f57AD4" (0, 0)) ∧ Within 0 porch.wall ∧
    (∀ wall, .age wall ∈ wrapping → Within 0 wall) ∧
    ms = [.handed 0, .set 255, .handed 255, .handed 0, .cleared 255, .handed 1] ∧
    ∃ session, (porch.run wrapping).link.session = some session ∧
      ∀ n, session.pending.contains n = true ↔ Session.Awaited n ms := by
  have hs : porch.link.session = some (.start "accF23f57AD4" (0, 0)) := rfl
  have hw : Within 0 porch.wall := ⟨Nat.le_refl _, by decide⟩
  have hd : ∀ wall, .age wall ∈ wrapping → Within 0 wall := by
    intro wall hwall
    obtain rfl : wall = 1999999 := by simpa [wrapping, entry] using hwall
    exact ⟨Nat.zero_le _, by decide⟩
  obtain ⟨_, _, session, hsession, hawaited, _⟩ := numbers_accounted hs hw hd
  exact ⟨hs, hw, hd, by decide +kernel, session, hsession, hawaited⟩

end Station

end LightBridge
