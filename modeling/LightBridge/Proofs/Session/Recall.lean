import LightBridge.Proofs.Session.History

/-!
# The session that a history tells

An input opens a session, confirms it, is echoed, gives the session up, asks
for an echo, or does none of these. The history tells which, and from it what
the session has become.
-/

set_option autoImplicit false

namespace LightBridge.Session

/-! ## What an input does -/

theorem assign_rest (now : Nat) (s : Session) :
    ∃ n p, (s.assign now).1 = { s with sequence := n, pending := p } := ⟨_, _, rfl⟩

theorem nextHeader_rest (now : Nat) (s : Session) :
    ∃ n p, (s.nextHeader now).1 = { s with sequence := n, pending := p } := by
  unfold nextHeader
  split
  · exact assign_rest now s
  · exact ⟨_, _, rfl⟩

/-- A keep-alive gives the session up, or asks for an echo. -/
theorem keepAlive_cases (now : Nat) (s : Session) :
    ∃ p, ((s.awaiting = true ∨ s.stage = .invalid) ∧ (s.keepAlive now).2.1 = requestFrame ∧
        (s.keepAlive now).1 = { s with stage := .invalid, awaiting := false, pending := p }) ∨
      (s.awaiting = false ∧ s.stage ≠ .invalid ∧ (s.keepAlive now).2.1 = s.keepAliveFrame ∧
        (s.keepAlive now).1 = { s with awaiting := true, pending := p }) := by
  obtain ⟨bridge, stage, sid1, sid2, password, sequence, awaiting, pending⟩ := s
  exists (pending.prune now).1
  cases awaiting with
  | true => simp [keepAlive, pruneLost, giveUp]
  | false => cases stage <;> simp [keepAlive, pruneLost, giveUp, keepAliveFrame]

/-- The kinds of input, as the history tells them apart, with their effects. -/
inductive Effect (s s' : Session) (t : Turn) : Prop where
  | opened (sid1 sid2 : UInt8) (ids : t.ids? s.bridge = some (sid1, sid2))
      (stage : s'.stage = .registering) (flag : s'.awaiting = true)
      (bytes : (s'.sid1, s'.sid2) = (sid1, sid2))
  | confirmed (ids : t.ids? s.bridge = none) (confirms : t.confirms s.bridge = true)
      (asks : t.asks = false)
      (stage : s'.stage = if s.stage = .registering then .valid else s.stage)
      (flag : s'.awaiting = false) (bytes : (s'.sid1, s'.sid2) = (s.sid1, s.sid2))
  | echoed (ids : t.ids? s.bridge = none) (confirms : t.confirms s.bridge = false)
      (echoes : t.echoes s.bridge = true) (asks : t.asks = false) (stage : s'.stage = s.stage)
      (flag : s'.awaiting = false) (bytes : (s'.sid1, s'.sid2) = (s.sid1, s.sid2))
  | gaveUp (packet : t.packet? = none) (asks : t.asks = true) (probes : t.probes = false)
      (due : s.awaiting = true ∨ s.stage = .invalid) (stage : s'.stage = .invalid)
      (flag : s'.awaiting = false) (bytes : (s'.sid1, s'.sid2) = (s.sid1, s.sid2))
  | probed (packet : t.packet? = none) (asks : t.asks = true) (probes : t.probes = true)
      (calm : s.awaiting = false) (held : s.stage ≠ .invalid) (stage : s'.stage = s.stage)
      (flag : s'.awaiting = true) (bytes : (s'.sid1, s'.sid2) = (s.sid1, s.sid2))
  | other (ids : t.ids? s.bridge = none) (confirms : t.confirms s.bridge = false)
      (echoes : t.echoes s.bridge = false) (asks : t.asks = false) (stage : s'.stage = s.stage)
      (flag : s'.awaiting = s.awaiting) (bytes : (s'.sid1, s'.sid2) = (s.sid1, s.sid2))

/-- A packet opens or confirms the session, is echoed, or does none of these. -/
theorem packet_effect (now : Nat) (s : Session) (bytes : List UInt8) :
    Effect s (s.take now (.packet bytes)).1 ⟨.packet bytes, (s.take now (.packet bytes)).2⟩ := by
  cases hp : Packet.parse bytes with
  | error fault =>
    have hr : (s.take now (.packet bytes)).1 = s := by simp [take, receive, hp]
    rw [hr]
    apply Effect.other <;>
      simp [Turn.ids?, Turn.confirms, Turn.echoes, Turn.asks, Turn.packet?, hp, Except.toOption]
  | ok p =>
    have hr : s.take now (.packet bytes) = ((s.apply now p).1, (s.apply now p).2.1) := by
      simp [take, receive, hp]
    have ht : ∀ f, (⟨.packet bytes, f⟩ : Turn).packet? = some p := by
      simp [Turn.packet?, hp, Except.toOption]
    have ha : ∀ f, (⟨.packet bytes, f⟩ : Turn).asks = false := fun _ => rfl
    rw [hr]
    cases p with
    | sessionId mac sid1 sid2 =>
      by_cases hm : mac = s.bridge
      · apply Effect.opened sid1 sid2 <;> simp [Turn.ids?, ht, apply, hm, assign, pruneLost]
      · apply Effect.other <;>
          simp [Turn.ids?, Turn.confirms, Turn.echoes, ht, ha, apply, hm]
    | registered mac =>
      by_cases hm : mac = s.bridge
      · apply Effect.confirmed <;> simp [Turn.ids?, Turn.confirms, ht, ha, apply, hm]
        cases s.stage <;> rfl
      · apply Effect.other <;>
          simp [Turn.ids?, Turn.confirms, Turn.echoes, ht, ha, apply, hm]
    | echo mac =>
      by_cases hm : mac = s.bridge
      · apply Effect.echoed <;> simp [Turn.ids?, Turn.confirms, Turn.echoes, ht, ha, apply, hm]
      · apply Effect.other <;>
          simp [Turn.ids?, Turn.confirms, Turn.echoes, ht, ha, apply, hm]
    | acknowledged sequence status =>
      apply Effect.other <;> simp [Turn.ids?, Turn.confirms, Turn.echoes, ht, ha, apply]

theorem take_effect (now : Nat) (s : Session) (i : Input) :
    Effect s (s.take now i).1 ⟨i, (s.take now i).2⟩ := by
  cases i with
  | packet bytes => exact packet_effect now s bytes
  | keepAlive =>
    obtain ⟨p, ⟨hd, hf, hs⟩ | ⟨hc, hh, hf, hs⟩⟩ := keepAlive_cases now s
    · apply Effect.gaveUp <;> simp [take, hf, hs, Turn.packet?, Turn.asks, Turn.probes, hd]
      decide
    · apply Effect.probed <;>
        simp [take, hf, hs, Turn.packet?, Turn.asks, Turn.probes, hc, hh, keepAliveFrame]
  | nextHeader =>
    obtain ⟨n, p, hs⟩ := nextHeader_rest now s
    apply Effect.other <;>
      simp [take, hs, Turn.ids?, Turn.confirms, Turn.echoes, Turn.packet?, Turn.asks]
  | setPassword pw1 pw2 =>
    apply Effect.other <;>
      simp [take, setPassword, Turn.ids?, Turn.confirms, Turn.echoes, Turn.packet?, Turn.asks]
  | setSequence n =>
    apply Effect.other <;>
      simp [take, setSequence, Turn.ids?, Turn.confirms, Turn.echoes, Turn.packet?, Turn.asks]

theorem apply_bridge (now : Nat) (s : Session) (p : Packet) :
    (s.apply now p).1.bridge = s.bridge := by
  cases p <;> simp only [apply, assign, pruneLost] <;> split <;> rfl

theorem take_bridge (now : Nat) (s : Session) (i : Input) :
    (s.take now i).1.bridge = s.bridge := by
  cases i with
  | packet bytes =>
    simp only [take, receive]
    split
    · exact apply_bridge now s _
    · rfl
  | keepAlive =>
    obtain ⟨p, ⟨_, _, hs⟩ | ⟨_, _, _, hs⟩⟩ := keepAlive_cases now s <;> simp [take, hs]
  | nextHeader =>
    obtain ⟨n, p, hs⟩ := nextHeader_rest now s
    simp [take, hs]
  | setPassword pw1 pw2 => rfl
  | setSequence n => rfl

/-! ## What the history tells -/

def lastIds (bridge : String) (h : List Turn) : UInt8 × UInt8 :=
  (h.filterMap (Turn.ids? bridge)).getLast?.getD (0, 0)

structure Recalls (h : List Turn) (s : Session) : Prop where
  bytes : (s.sid1, s.sid2) = lastIds s.bridge h
  held : s.stage ≠ .invalid ↔ Held s.bridge h
  valid : s.stage = .valid ↔ Held s.bridge h ∧ Confirmed s.bridge h
  flag : s.awaiting = outstanding s.bridge h
  rest : s.stage = .invalid → s.awaiting = false

/-- Without new session bytes, an input can only end a session, confirm one
or touch the flag. -/
theorem recalls_concat {h : List Turn} {s s' : Session} {t : Turn} (hr : Recalls h s)
    (hb : s'.bridge = s.bridge) (hi : t.ids? s.bridge = none)
    (bytes : (s'.sid1, s'.sid2) = (s.sid1, s.sid2))
    (held : s'.stage ≠ .invalid ↔ s.stage ≠ .invalid ∧ (t.asks → s.awaiting = false))
    (valid : s'.stage = .valid ↔
      s'.stage ≠ .invalid ∧ (s.stage = .valid ∨ t.confirms s.bridge))
    (flag : s'.awaiting = (t.flag? s.bridge).getD s.awaiting)
    (rest : s'.stage = .invalid → s'.awaiting = false) : Recalls (h++[t]) s' := by
  have ho : t.opens s.bridge = false := by simp [Turn.opens, hi]
  have hh : s'.stage ≠ .invalid ↔ Held s'.bridge (h++[t]) := by
    rw [held, hb, held_concat ho, ← hr.held, hr.flag]
  constructor
  · rw [hb, bytes, hr.bytes]
    simp [lastIds, List.filterMap_append, hi]
  · exact hh
  · rw [valid, ← hh, hb, confirmed_concat ho]
    apply and_congr_right
    intro hs
    have hs' := (held.mp hs).1
    rw [hr.valid, ← hr.held, and_iff_right hs']
  · rw [hb, outstanding_concat, flag, hr.flag]
  · exact rest

theorem recalls_take {h : List Turn} {s : Session} (hr : Recalls h s) (now : Nat) (i : Input) :
    Recalls (h++[⟨i, (s.take now i).2⟩]) (s.take now i).1 := by
  have hb := take_bridge now s i
  have he := take_effect now s i
  generalize (s.take now i).1 = s' at *
  generalize (⟨i, (s.take now i).2⟩ : Turn) = t at *
  cases he with
  | opened sid1 sid2 ids stage flag bytes =>
    have ho : t.opens s.bridge := by simp [Turn.opens, ids]
    constructor
    · rw [hb, bytes]
      simp [lastIds, List.filterMap_append, ids]
    · simp [hb, stage, held_of_opens ho]
    · simp [hb, stage, not_confirmed_of_opens ho]
    · rw [hb, outstanding_concat, flag]
      simp [Turn.flag?, ho]
    · simp [stage]
  | confirmed ids confirms asks stage flag bytes =>
    apply recalls_concat hr hb ids bytes
    · rw [stage]
      cases s.stage <;> simp [asks]
    · rw [stage]
      cases s.stage <;> simp [confirms]
    · simp [flag, Turn.flag?, Turn.opens, ids, confirms]
    · exact fun _ => flag
  | echoed ids confirms echoes asks stage flag bytes =>
    apply recalls_concat hr hb ids bytes
    · simp [stage, asks]
    · cases hs : s.stage <;> simp [stage, hs, confirms]
    · simp [flag, Turn.flag?, Turn.opens, ids, echoes]
    · exact fun _ => flag
  | gaveUp packet asks probes due stage flag bytes =>
    have ids : t.ids? s.bridge = none := by simp [Turn.ids?, packet]
    apply recalls_concat hr hb ids bytes
    · rcases due with due | due <;> simp [stage, asks, due]
    · simp [stage]
    · simp [flag, Turn.flag?, Turn.opens, Turn.confirms, Turn.echoes, packet, ids, asks, probes]
    · exact fun _ => flag
  | probed packet asks probes calm held stage flag bytes =>
    have ids : t.ids? s.bridge = none := by simp [Turn.ids?, packet]
    apply recalls_concat hr hb ids bytes
    · simp [stage, held, calm]
    · simp [stage, held, Turn.confirms, packet]
    · simp [flag, Turn.flag?, Turn.opens, Turn.confirms, Turn.echoes, packet, ids, asks, probes]
    · exact fun h => absurd (stage.symm.trans h) held
  | other ids confirms echoes asks stage flag bytes =>
    apply recalls_concat hr hb ids bytes
    · simp [stage, asks]
    · cases hs : s.stage <;> simp [stage, hs, confirms]
    · simp [flag, Turn.flag?, Turn.opens, ids, confirms, echoes, asks]
    · exact fun h => flag.trans (hr.rest (stage.symm.trans h))

theorem recalls_run (is : List (Nat × Input)) {h : List Turn} {s : Session} (hr : Recalls h s) :
    Recalls (h ++ history is s) (run is s) := by
  induction is generalizing h s with
  | nil => simpa [history, run] using hr
  | cons i is ih =>
    have hi := ih (recalls_take hr i.1 i.2)
    rwa [List.append_assoc] at hi

theorem start_recalls (id : String) (password : UInt8 × UInt8) :
    Recalls [] (start id password) := by
  constructor <;> simp [start, lastIds, Held, upToIds, outstanding]

theorem run_bridge (is : List (Nat × Input)) (s : Session) : (run is s).bridge = s.bridge := by
  induction is generalizing s with
  | nil => rfl
  | cons i is ih => exact (ih _).trans (take_bridge i.1 s i.2)

/-- The session bytes are those handed out last; the session is valid exactly
when its registration was confirmed since then and no keep-alive found a
confirmation outstanding; and one that is invalid waits for none. -/
theorem history_tells_session (id : String) (password : UInt8 × UInt8)
    (is : List (Nat × Input)) :
    let s := run is (start id password)
    let h := history is (start id password)
    let bridge := Text.upper id
    (s.sid1, s.sid2) = lastIds bridge h ∧
    (s.stage = .valid ↔
      upToIds bridge h ≠ [] ∧
      (∃ t ∈ sinceIds bridge h, t.confirms bridge) ∧
      ∀ early t late, sinceIds bridge h = early ++ t::late → t.asks →
        outstanding bridge (upToIds bridge h ++ early) = false) ∧
    (s.stage = .invalid → s.awaiting = false) ∧
    s.awaiting = outstanding bridge h := by
  have hr := recalls_run is (start_recalls id password)
  have hb : (run is (start id password)).bridge = Text.upper id := run_bridge is _
  rw [List.nil_append] at hr
  rw [← hb]
  constructor
  · exact hr.bytes
  constructor
  · rw [hr.valid, Held, Confirmed, and_assoc]
    exact and_congr_right fun _ => And.comm
  · exact ⟨hr.rest, hr.flag⟩

end LightBridge.Session
