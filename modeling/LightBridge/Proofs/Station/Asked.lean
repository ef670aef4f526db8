import LightBridge.Proofs.Queue.Room
import LightBridge.Proofs.Station.Stamp

/-!
# What a lost session was asked

A keep-alive gives a session up when it finds a confirmation outstanding. What
set the flag was a registration of this session or a probe with its bytes, and
the queue was offered that frame. The flag does not wait for the queue's answer:
a full queue refuses the frame, and the session is given up all the same.
-/

set_option autoImplicit false

namespace LightBridge

/-! ## What sets the flag -/

namespace Session

/-- A registration of the session, or a probe for an echo. -/
def Asks (s : Session) (f : Frame) : Prop :=
  f = s.keepAliveFrame ∨
    ∃ header, f = registrationFrame header ∧ header.sid1 = s.sid1 ∧ header.sid2 = s.sid2

theorem Asks.congr {s s' : Session} {f : Frame} (h : s.Asks f)
    (hb : (s'.sid1, s'.sid2) = (s.sid1, s.sid2)) : s'.Asks f := by
  simp only [Prod.mk.injEq] at hb
  simpa [Asks, keepAliveFrame, hb] using h

theorem Asks.identity {s : Session} {f : Frame} (h : s.Asks f) : f.identity ≠ 0 := by
  rcases h with rfl | ⟨header, rfl, _⟩ <;> simp [keepAliveFrame, registrationFrame]
  all_goals decide

theorem apply_asks (now : Nat) (s : Session) (p : Packet)
    (hw : (s.apply now p).1.awaiting = true) :
    (∃ f, (s.apply now p).2.1 = some f ∧ (s.apply now p).1.Asks f) ∨
    (s.awaiting = true ∧
      ((s.apply now p).1.sid1, (s.apply now p).1.sid2) = (s.sid1, s.sid2)) := by
  cases p with
  | sessionId mac sid1 sid2 =>
    by_cases hm : mac = s.bridge
    · simp only [apply, hm, if_true, assign, pruneLost]
      exact .inl ⟨_, rfl, .inr ⟨_, rfl, rfl, rfl⟩⟩
    · right
      simpa [apply, hm] using hw
  | registered mac | echo mac =>
    by_cases hm : mac = s.bridge
    · simp [apply, hm] at hw
    · right
      simpa [apply, hm] using hw
  | acknowledged sequence status => exact .inr ⟨hw, rfl⟩

/-- A session that waits for a confirmation has just offered a frame that asks
for one, or it waited before and has the same bytes. -/
theorem take_asks (now : Nat) (s : Session) (i : Input)
    (hw : (s.take now i).1.awaiting = true) :
    (∃ f, (s.take now i).2 = some f ∧ (s.take now i).1.Asks f) ∨
    (s.awaiting = true ∧
      ((s.take now i).1.sid1, (s.take now i).1.sid2) = (s.sid1, s.sid2)) := by
  cases i with
  | packet bytes =>
    simp only [take, receive] at hw ⊢
    split at hw
    · exact apply_asks now s _ hw
    · exact .inr ⟨hw, rfl⟩
  | keepAlive =>
    obtain ⟨p, ⟨_, _, hs⟩ | ⟨_, _, hf, hs⟩⟩ := keepAlive_cases now s
    · simp [take, hs] at hw
    · left
      simp [take, hs, hf, Asks, keepAliveFrame]
  | nextHeader =>
    obtain ⟨n, p, hs⟩ := nextHeader_rest now s
    right
    simpa [take, hs] using hw
  | setPassword pw1 pw2 => exact .inr ⟨hw, rfl⟩
  | setSequence n => exact .inr ⟨hw, rfl⟩

end Session

/-! ## When the flag was set -/

namespace Link

/-- To the flag, a command is nothing. -/
theorem act_asks {l : Link} {a : Act} {s s' : Session} (hs : l.session = some s)
    (hs' : (l.act a).session = some s') (hw : s'.awaiting = true) :
    (∃ f, l.offer? a = some (none, f) ∧ s'.Asks f) ∨
    (s.awaiting = true ∧ (s'.sid1, s'.sid2) = (s.sid1, s.sid2)) := by
  rw [act_session, hs] at hs'
  obtain rfl := Option.some.inj hs'
  cases a with
  | hear wall i =>
    rcases s.take_asks wall i hw with ⟨f, hf, ha⟩ | hsame
    · exact .inl ⟨f, by simp [offer?, hs, hf], ha⟩
    · exact .inr hsame
  | send wall b c =>
    right
    cases hc : c.inSession with
    | true =>
      simp only [Act.input?, hc, if_true, Option.toList_some] at hw ⊢
      rcases s.take_asks wall .nextHeader hw with ⟨f, hf, _⟩ | hsame
      · cases hf
      · exact hsame
    | false =>
      simp only [Act.input?, hc, Bool.false_eq_true, if_false] at hw ⊢
      exact ⟨hw, rfl⟩
  | _ => exact .inr ⟨hw, rfl⟩

/-- The session waits for a confirmation. -/
def waits (l : Link) : Bool := l.session.any (·.awaiting)

/-- A place of a run at which the session offered a frame that asks for a
confirmation, and since which one was outstanding. -/
structure AskedAt (l : Link) (s : Session) (as early late : List Act) (a : Act) (f : Frame) :
    Prop where
  place : as = early ++ a::late
  offered : (l.run early).offer? a = some (none, f)
  asks : s.Asks f
  since : ∀ mid, mid <+: late → (l.run (early ++ a::mid)).waits = true

theorem asked_of_awaiting {l : Link} (h0 : l.waits = false) (as : List Act) {s : Session}
    (hs : (l.run as).session = some s) (hw : s.awaiting = true) :
    ∃ early a late f, l.AskedAt s as early late a f := by
  -- By the last act: it asked, or the place is the one before it.
  induction as using List.reverseRecOn generalizing s with
  | nil =>
    change l.session = some s at hs
    simp [waits, hs, hw] at h0
  | append_singleton as a ih =>
    obtain ⟨s₀, hs₀, hs'⟩ := session_before hs
    rcases act_asks hs₀ hs' hw with ⟨f, hf, ha⟩ | ⟨hw₀, hb⟩
    · refine ⟨as, a, [], f, rfl, hf, ha, ?_⟩
      intro mid hm
      rw [List.prefix_nil.mp hm, waits, hs]
      simpa using hw
    · obtain ⟨early, x, late, f, rfl, hf, ha, hsince⟩ := ih hs₀ hw₀
      refine ⟨early, x, late++[a], f, by simp, hf, ha.congr hb, ?_⟩
      intro mid hm
      rcases List.prefix_concat_iff.mp hm with rfl | hm
      · rw [waits, ← List.cons_append, ← List.append_assoc, hs]
        simpa using hw
      · exact hsince mid hm

end Link

/-! ## The loss of a session -/

namespace Station

/-- When a keep-alive gives a session up, a registration of it or a probe with
its bytes was offered to the queue since the last time at which no confirmation
was outstanding. The queue accepted it, unless twenty frames waited already. -/
theorem lost_session_was_asked {s : Station} {id : String} {password : UInt8 × UInt8}
    (hq : s.link.queue.Sound) (hs : s.link.session = some (.start id password)) (ds : List Deed)
    {before after : Session} (hb : (s.run ds).link.session = some before)
    (ha : ((s.run ds).perform (.session .keepAlive)).link.session = some after)
    (hheld : before.stage ≠ .invalid) (hlost : after.stage = .invalid) :
    ∃ early a late f, s.link.AskedAt before (s.actsIn ds) early late a f ∧
      let q := (s.link.run early).queue
      ((q.enqueue f).2 = .ok () ∨
        (q.enqueue f).2 = .error (.queueFull 20) ∧ q.waiting.length = 20 ∧
          ∀ g ∈ q.waiting, g.identity ≠ f.identity) := by
  have hw : before.awaiting = true := by
    rw [perform_link] at ha
    change ((s.run ds).link.act (.hear (s.run ds).wall .keepAlive)).session = some after at ha
    rw [Link.act_session, hb] at ha
    obtain rfl := Option.some.inj ha
    change (before.keepAlive (s.run ds).wall).1.stage = .invalid at hlost
    obtain ⟨p, ⟨hdue, _⟩ | ⟨_, _, _, hk⟩⟩ := Session.keepAlive_cases (s.run ds).wall before
    · exact hdue.resolve_right hheld
    · exact absurd (by simpa [hk] using hlost) hheld
  rw [run_link] at hb
  have h0 : s.link.waits = false := by simp [Link.waits, hs, Session.start]
  obtain ⟨early, a, late, f, hasked⟩ := Link.asked_of_awaiting h0 _ hb hw
  refine ⟨early, a, late, f, hasked, ?_⟩
  intro q
  have hsound : q.Sound := by
    have h := Queue.run_sound (s.link.script early) hq
    rwa [← Link.run_queue] at h
  rcases Queue.enqueue_cases hsound f with ⟨he, _, _⟩ | ⟨he, _⟩
  · have hfull : (q.enqueue f).2 = .error (.queueFull Queue.capacity) := by rw [he]
    obtain ⟨hlength, hothers⟩ := (Queue.enqueue_full_iff hsound f).mp hfull
    exact .inr ⟨hfull, hlength, fun g hg => hothers g hg hasked.asks.identity⟩
  · exact .inl (by rw [he])

/-- A probe that nobody answers. -/
def unanswered : List Deed := entry ++ [.session .keepAlive]

theorem unanswered_was_asked :
    let before : Session :=
      ⟨"ACCF23F57AD4", .valid, 0x12, 0x34, (0, 0), 1, true, ⟨[(0, 0)]⟩⟩
    let after : Session := { before with stage := .invalid, awaiting := false }
    porch.link.queue.Sound ∧ porch.link.session = some (.start "accF23f57AD4" (0, 0)) ∧
    (porch.run unanswered).link.session = some before ∧
    ((porch.run unanswered).perform (.session .keepAlive)).link.session = some after ∧
    before.stage ≠ .invalid ∧ after.stage = .invalid ∧
    ∃ early a late f, porch.link.AskedAt before (porch.actsIn unanswered) early late a f := by
  intro before after
  have hq : porch.link.queue.Sound := Queue.start_fresh.sound
  have hs : porch.link.session = some (.start "accF23f57AD4" (0, 0)) := rfl
  have hb : (porch.run unanswered).link.session = some before := by decide +kernel
  have ha : ((porch.run unanswered).perform (.session .keepAlive)).link.session = some after := by
    decide +kernel
  have hheld : before.stage ≠ .invalid := by decide
  obtain ⟨early, a, late, f, hasked, _⟩ :=
    lost_session_was_asked hq hs unanswered hb ha hheld rfl
  exact ⟨hq, hs, hb, ha, hheld, rfl, early, a, late, f, hasked⟩

/-- So many steps that the queue is full. -/
def crowded : List Deed :=
  entry ++ [.operate 0 (.setAnimationSpeed 100), .operate 0 (.setAnimationSpeed 0)]

/-- A full queue refuses the only probe, and the next keep-alive gives the
session up. -/
theorem refused_probe_loses_session :
    let ds := crowded ++ [.session .keepAlive]
    ∃ before after, (porch.run ds).link.session = some before ∧
      ((porch.run ds).perform (.session .keepAlive)).link.session = some after ∧
      before.stage ≠ .invalid ∧ after.stage = .invalid ∧
      ¬ ∃ early a late f, porch.link.AskedAt before (porch.actsIn ds) early late a f ∧
        ((porch.link.run early).queue.enqueue f).2 = .ok () := by
  intro ds
  have hb : (porch.run ds).link.session.map (·.stage) = some .valid := by decide +kernel
  have ha : ((porch.run ds).perform (.session .keepAlive)).link.session.map (·.stage) =
      some .invalid := by decide +kernel
  obtain ⟨before, hb, hvalid⟩ := Option.map_eq_some_iff.mp hb
  obtain ⟨after, ha, hlost⟩ := Option.map_eq_some_iff.mp ha
  refine ⟨before, after, hb, ha, by simp [hvalid], hlost, ?_⟩
  rintro ⟨early, a, late, f, hasked, hok⟩
  let asking : Link.Act := .hear (porch.run crowded).wall .keepAlive
  have hacts : porch.actsIn ds = porch.actsIn crowded ++ [asking] := actsIn_append _ _ _
  have hplace := hacts.symm.trans hasked.place
  have hoffered := hasked.offered
  rcases List.eq_nil_or_concat late with rfl | ⟨late, x, rfl⟩
  · obtain ⟨rfl, hx⟩ := List.append_inj' hplace rfl
    obtain rfl := List.head_eq_of_cons_eq hx
    have hrefused : ∀ o ∈ (porch.link.run (porch.actsIn crowded)).offer? asking,
        ((porch.link.run (porch.actsIn crowded)).queue.enqueue o.2).2 ≠ .ok () := by
      decide +kernel
    exact hrefused _ hoffered hok
  · -- The flag was clear when the queue was full.
    rw [List.concat_eq_append, ← List.cons_append, ← List.append_assoc] at hplace
    have hwaits := hasked.since late (by simp)
    rw [← (List.append_inj' hplace rfl).1] at hwaits
    exact absurd hwaits (by decide +kernel)

end Station

end LightBridge
