import LightBridge.Proofs.Queue.Delivery
import LightBridge.Proofs.Session.Pending
import LightBridge.Proofs.Session.Upkeep
import LightBridge.Proofs.Station.Stamp

/-!
# The frames whose acknowledgment is awaited

A number is handed out and recorded before the queue is offered the frame that
carries it, and nothing takes it back. So each pending number is that of one
frame, which was sent, still waits, was refused, or was overtaken while it
waited.
-/

set_option autoImplicit false

namespace LightBridge

/-! ## The numbers that a session hands out -/

namespace Session

/-- The number that an input makes the session hand out. -/
def number? (s : Session) : Input → Option UInt8
  | .nextHeader => if s.isValid then some s.sequence else none
  | i => if i.opens s.bridge then some s.sequence else none

theorem assign_pending {now : Nat} {s : Session} {n : UInt8}
    (h : (s.assign now).1.pending.contains n = true) :
    s.sequence = n ∨ s.pending.contains n = true :=
  ((Pending.contains_insert _ _ _ _).mp
    (Pending.contains_mono (Pending.prune_subset _ now) h)).imp_left Eq.symm

theorem registration_carries (header : Wire.Header) :
    (registrationFrame header).bytes[8]? = some header.sequence := by
  simp [registrationFrame, Wire.registration, Wire.withSum, Wire.unsealed]

/-- Session bytes of the bridge are answered with a number; no other packet
makes the session hand one out. -/
theorem receive_number (now : Nat) (s : Session) (bytes : List UInt8) :
    (∃ s₀ : Session, s.number? (.packet bytes) = some s.sequence ∧
      s₀.sequence = s.sequence ∧ s₀.pending = s.pending ∧
      (s.take now (.packet bytes)).1 = (s₀.assign now).1 ∧
      (s.take now (.packet bytes)).2 = some (registrationFrame (s₀.assign now).2.1)) ∨
    (s.number? (.packet bytes) = none ∧
      (s.take now (.packet bytes)).1.pending.entries ⊆ s.pending.entries) := by
  cases hp : Packet.parse bytes with
  | error fault =>
    right
    simp [number?, Input.opens, Input.packet?, take, receive, hp, Except.toOption]
  | ok p =>
    have ht : s.take now (.packet bytes) = ((s.apply now p).1, (s.apply now p).2.1) := by
      simp [take, receive, hp]
    have hi : (Input.packet bytes).packet? = some p := by
      simp [Input.packet?, hp, Except.toOption]
    rw [ht]
    simp only [number?, Input.opens, hi]
    cases p with
    | sessionId mac sid1 sid2 =>
      by_cases hm : mac = s.bridge
      · left
        refine ⟨{ s with sid1, sid2, stage := .registering, awaiting := true }, ?_⟩
        simp [apply, hm]
      · right
        simp [apply, hm]
    | registered mac | echo mac =>
      right
      by_cases hm : mac = s.bridge <;> simp [apply, hm]
    | acknowledged sequence status => exact .inr ⟨rfl, Pending.acknowledge_subset _ _⟩

theorem keepAlive_pending (now : Nat) (s : Session) :
    (s.keepAlive now).1.pending = (s.pending.prune now).1 := by
  obtain ⟨bridge, stage, sid1, sid2, password, sequence, awaiting, pending⟩ := s
  cases awaiting <;> cases stage <;> rfl

/-- A pending number was pending before, or it has just been handed out. -/
theorem take_pending (now : Nat) (s : Session) (i : Input) {n : UInt8}
    (h : (s.take now i).1.pending.contains n = true) :
    s.number? i = some n ∨ s.pending.contains n = true := by
  cases i with
  | packet bytes =>
    rcases s.receive_number now bytes with ⟨s₀, hn, hq, hp, hs, _⟩ | ⟨_, hp⟩
    · rw [hs] at h
      rw [hn, ← hq, ← hp, Option.some.injEq]
      exact assign_pending h
    · exact .inr (Pending.contains_mono hp h)
  | nextHeader =>
    cases hv : s.isValid with
    | true =>
      rw [take_nextHeader now hv] at h
      simpa [number?, hv] using assign_pending h
    | false =>
      right
      simpa [take, nextHeader, hv] using h
  | keepAlive =>
    right
    have hp : (s.keepAlive now).1.pending.contains n = true := h
    rw [keepAlive_pending] at hp
    exact Pending.contains_mono (Pending.prune_subset _ now) hp
  | setPassword pw1 pw2 => exact .inr h
  | setSequence n => exact .inr h

/-- A number is recorded when it is handed out. -/
theorem take_number (now : Nat) (s : Session) (i : Input) {n : UInt8}
    (h : s.number? i = some n) : (s.take now i).1.pending.contains n = true := by
  cases i with
  | packet bytes =>
    rcases s.receive_number now bytes with ⟨s₀, hn, hq, _, hs, _⟩ | ⟨hn, _⟩
    · obtain rfl : s₀.sequence = n := hq.trans (Option.some.inj (hn.symm.trans h))
      rw [hs]
      exact (s₀.assign_number now).2
    · rw [hn] at h
      cases h
  | nextHeader =>
    cases hv : s.isValid with
    | true =>
      obtain rfl : s.sequence = n := by simpa [number?, hv] using h
      rw [take_nextHeader now hv]
      exact (s.assign_number now).2
    | false => simp [number?, hv] at h
  | _ => cases h

end Session

/-! ## The numbers that acts hand out -/

namespace Link

def Act.takesHeader : Act → Bool
  | .hear _ .nextHeader => true
  | _ => false

/-- The number that an act hands out. -/
def number? (l : Link) (a : Act) : Option UInt8 :=
  l.session.bind fun s => a.input?.bind fun i => s.number? i.2

theorem act_pending {l : Link} {a : Act} {s s' : Session} {n : UInt8} (hs : l.session = some s)
    (hs' : (l.act a).session = some s') (h : s'.pending.contains n = true) :
    l.number? a = some n ∨ s.pending.contains n = true := by
  rw [act_session, hs] at hs'
  obtain rfl := Option.some.inj hs'
  cases ha : a.input? with
  | none =>
    right
    simpa [ha, Session.run] using h
  | some i =>
    rw [ha] at h
    simpa [number?, hs, ha] using Session.take_pending i.1 s i.2 h

theorem act_number {l : Link} {a : Act} {n : UInt8} (h : l.number? a = some n) :
    ∃ s, (l.act a).session = some s ∧ s.pending.contains n = true := by
  obtain ⟨s, hs, h⟩ := Option.bind_eq_some_iff.mp h
  obtain ⟨i, hi, h⟩ := Option.bind_eq_some_iff.mp h
  refine ⟨(s.take i.1 i.2).1, ?_, Session.take_number i.1 s i.2 h⟩
  rw [act_session, hs, hi]
  rfl

theorem hear_carries {l : Link} {wall : Nat} {bytes : List UInt8} {n : UInt8}
    (h : l.number? (.hear wall (.packet bytes)) = some n) :
    ∃ f, l.offer? (.hear wall (.packet bytes)) = some (none, f) ∧ f.bytes[8]? = some n := by
  obtain ⟨s, hs, hn⟩ := Option.bind_eq_some_iff.mp h
  change s.number? (.packet bytes) = some n at hn
  rcases s.receive_number wall bytes with ⟨s₀, hs₀, hq, _, _, hf⟩ | ⟨hs₀, _⟩
  · obtain rfl : s₀.sequence = n := hq.trans (Option.some.inj (hs₀.symm.trans hn))
    exact ⟨Session.registrationFrame (s₀.assign wall).2.1, by simp [offer?, hs, hf],
      Session.registration_carries _⟩
  · rw [hs₀] at hn
    cases hn

theorem send_carries {l : Link} {wall : Nat} {b : Bulb} {c : Command} {n : UInt8}
    (h : l.number? (.send wall b c) = some n) :
    ∃ f, l.offer? (.send wall b c) = some (some b, f) ∧ f.bytes[8]? = some n := by
  obtain ⟨s, hs, hn⟩ := Option.bind_eq_some_iff.mp h
  cases hc : c.inSession with
  | false => simp [Act.input?, hc] at hn
  | true =>
    cases hv : s.isValid with
    | false => simp [Act.input?, hc, Session.number?, hv] at hn
    | true =>
      obtain rfl : s.sequence = n := by simpa [Act.input?, hc, Session.number?, hv] using hn
      exact ⟨b.frame (s.assign wall).2.1 c, by simp [offer?, offered_of_valid hc hs hv],
        (b.frame_stamped (s.assign wall).2.1 hc).number⟩

/-- The frame that an act offers carries the number that it hands out. -/
theorem act_carries {l : Link} {a : Act} {n : UInt8} (ha : a.takesHeader = false)
    (h : l.number? a = some n) :
    ∃ mark f, l.offer? a = some (mark, f) ∧ f.bytes[8]? = some n := by
  cases a with
  | hear wall i =>
    cases i with
    | packet bytes => exact ⟨none, hear_carries h⟩
    | nextHeader => cases ha
    | _ =>
      obtain ⟨s, _, hn⟩ := Option.bind_eq_some_iff.mp h
      cases hn
  | send wall b c => exact ⟨some b, send_carries h⟩
  | _ =>
    obtain ⟨s, _, hn⟩ := Option.bind_eq_some_iff.mp h
    cases hn

/-- A place of a run at which a number was handed out last, with the frame that
was offered for it. -/
structure HandedAt (l : Link) (n : UInt8) (as early late : List Act) (a : Act)
    (mark : Option Bulb) (f : Frame) : Prop where
  place : as = early ++ a::late
  number : (l.run early).number? a = some n
  offered : (l.run early).offer? a = some (mark, f)
  carried : f.bytes[8]? = some n
  last : ∀ mid b rest, late = mid ++ b::rest → (l.run (early ++ a::mid)).number? b ≠ some n

theorem handed_of_pending {l : Link} {n : UInt8}
    (h0 : ∀ s, l.session = some s → s.pending.contains n = false) (as : List Act)
    (ha : ∀ a ∈ as, a.takesHeader = false) {s : Session} (hs : (l.run as).session = some s)
    (hp : s.pending.contains n = true) :
    ∃ early a late mark f, l.HandedAt n as early late a mark f := by
  -- By the last act: it handed the number out, or left it pending.
  induction as using List.reverseRecOn generalizing s with
  | nil => exact absurd (h0 s hs) (by simp [hp])
  | append_singleton as a ih =>
    rw [List.forall_mem_append, List.forall_mem_singleton] at ha
    obtain ⟨s₀, hs₀, hs'⟩ := session_before hs
    by_cases hn : (l.run as).number? a = some n
    · obtain ⟨mark, f, ho, hf⟩ := act_carries ha.2 hn
      exact ⟨as, a, [], mark, f, rfl, hn, ho, hf, by simp⟩
    · have hp₀ := (act_pending hs₀ hs' hp).resolve_left hn
      obtain ⟨early, x, late, mark, f, rfl, hx, ho, hf, hlast⟩ := ih ha.1 hs₀ hp₀
      refine ⟨early, x, late++[a], mark, f, by simp, hx, ho, hf, ?_⟩
      exact (forall_split_concat late a).mpr ⟨hlast, hn⟩

/-! ## What became of the frames -/

/-- An offered frame was refused for want of room, left, waits, or was overtaken
before it left. -/
theorem offer_fate {l : Link} (hq : l.queue.Fresh) {as early late : List Act} {a : Act}
    {mark : Option Bulb} {f : Frame} (hplace : as = early ++ a::late)
    (ho : (l.run early).offer? a = some (mark, f)) :
    ((l.run early).queue.enqueue f).2 = .error (.queueFull 20) ∨
    ∃ before p after, Queue.ledger (l.script as) l.queue = before ++ p::after ∧
      p.entry = ((l.script early).length, mark, f) ∧
      (p.left?.isSome = true ∧ f ∈ Queue.sent (l.script as) l.queue ∨
        p.isWaiting = true ∧ f ∈ (l.run as).queue.waiting ∨ p.overtaken after = true) := by
  have hsound := Queue.run_sound (l.script early) hq.sound
  rw [← run_queue] at hsound
  have hscript : l.script as = l.script early ++
      .enqueue mark f :: script late ((l.run early).act a) := by
    rw [hplace, script_append, script, calls_of_offer ho]
    rfl
  rcases Queue.enqueue_cases hsound f with ⟨he, _, _⟩ | ⟨he, _⟩
  · exact .inl (by rw [he]; rfl)
  · right
    rw [run_queue as, hscript]
    apply Queue.accepted_fate _ _ hq
    rw [← run_queue, he]

end Link

def Deed.takesHeader : Deed → Bool
  | .session .nextHeader => true
  | _ => false

namespace Station

theorem acts_takesHeader {ds : List Deed} (hd : ∀ d ∈ ds, d.takesHeader = false) (s : Station) :
    ∀ a ∈ s.actsIn ds, a.takesHeader = false := by
  induction ds generalizing s with
  | nil => simp [actsIn]
  | cons d ds ih =>
    rw [List.forall_mem_cons] at hd
    intro a ha
    rcases List.mem_append.mp ha with ha | ha
    · cases d with
      | operate light operation =>
        simp only [acts] at ha
        split at ha
        · cases ha
        · obtain ⟨c, _, _, rfl⟩ := Progress.acts_mem _ _ _ _ ha
          rfl
      | session i =>
        obtain rfl := List.mem_singleton.mp ha
        have hi := hd.1
        cases i <;> simp_all [Deed.takesHeader, Link.Act.takesHeader]
      | age wall => cases ha
      | _ =>
        obtain rfl := List.mem_singleton.mp ha
        rfl
    · exact ih hd.2 _ a ha

/-- Each pending number is carried by the frame that was offered when it was
handed out last. The frame was refused for want of room, or it left, waits, or
was overtaken before it left. The number is recorded in all of these cases. -/
theorem pending_accounted {s : Station} {id : String} {password : UInt8 × UInt8}
    (hq : s.link.queue.Fresh) (hs : s.link.session = some (.start id password))
    {ds : List Deed} (hd : ∀ d ∈ ds, d.takesHeader = false) :
    (∀ session n, (s.run ds).link.session = some session → session.pending.contains n = true →
      ∃ early a late mark f, s.link.HandedAt n (s.actsIn ds) early late a mark f ∧
        (((s.link.run early).queue.enqueue f).2 = .error (.queueFull 20) ∨
          ∃ before p after, Queue.ledger (s.script ds) s.link.queue = before ++ p::after ∧
            p.entry = ((s.link.script early).length, mark, f) ∧
            (p.left?.isSome = true ∧ f ∈ Queue.sent (s.script ds) s.link.queue ∨
              p.isWaiting = true ∧ f ∈ (s.run ds).link.queue.waiting ∨
              p.overtaken after = true))) ∧
    ∀ early a late n, s.actsIn ds = early ++ a::late → (s.link.run early).number? a = some n →
      ∃ session, (s.link.run (early++[a])).session = some session ∧
        session.pending.contains n = true := by
  constructor
  · intro session n hsession hn
    rw [run_link] at hsession
    have h0 : ∀ session, s.link.session = some session → session.pending.contains n = false := by
      intro session h
      rw [hs] at h
      obtain rfl := Option.some.inj h
      rfl
    obtain ⟨early, a, late, mark, f, h⟩ :=
      Link.handed_of_pending h0 _ (acts_takesHeader hd s) hsession hn
    refine ⟨early, a, late, mark, f, h, ?_⟩
    rw [script_acts, run_link]
    exact Link.offer_fate hq h.place h.offered
  · intro early a late n _ hn
    obtain ⟨session, h, hp⟩ := Link.act_number hn
    exact ⟨session, by rw [Link.run_append]; exact h, hp⟩

/-- A command that is overtaken before it is sent. -/
def wavering : List Deed :=
  entry ++ [.operate 0 (.setPower true), .operate 0 (.setPower false), .poll 0]

theorem wavering_accounted :
    porch.link.queue.Fresh ∧ porch.link.session = some (.start "accF23f57AD4" (0, 0)) ∧
    (∀ d ∈ wavering, d.takesHeader = false) ∧
    ∃ session, (porch.run wavering).link.session = some session ∧
      session.pending.entries = [(0, 0), (1, 0), (2, 0)] ∧
      ∀ n : UInt8, session.pending.contains n = true →
        ∃ early a late mark f,
          porch.link.HandedAt n (porch.actsIn wavering) early late a mark f := by
  have hs : porch.link.session = some (.start "accF23f57AD4" (0, 0)) := rfl
  have hd : ∀ d ∈ wavering, d.takesHeader = false := by decide
  have hp : (porch.run wavering).link.session.map (·.pending.entries) =
      some [(0, 0), (1, 0), (2, 0)] := by decide +kernel
  obtain ⟨session, hsession, hp⟩ := Option.map_eq_some_iff.mp hp
  refine ⟨Queue.start_fresh, hs, hd, session, hsession, hp, ?_⟩
  intro n hn
  obtain ⟨early, a, late, mark, f, h, _⟩ :=
    (pending_accounted Queue.start_fresh hs hd).1 session n hsession hn
  exact ⟨early, a, late, mark, f, h⟩

/-- The number of the overtaken command stays pending although no frame with it
was sent or waits, and two seconds later it is reported as lost. -/
theorem overtaken_command_awaited :
    let s := porch.run wavering
    s.link.session.any (·.pending.contains 1) = true ∧
    (∀ f ∈ Queue.sent (porch.script wavering) porch.link.queue ++ s.link.queue.waiting,
      f.bytes[8]? ≠ some 1) ∧
    .lost 1 ∈ (s.perform (.age 2000001)).keepAlive.2 := by
  decide +kernel

end Station

end LightBridge
