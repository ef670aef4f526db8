import LightBridge.Proofs.Session.Lapse

/-!
# Upkeep of a valid session

A keep-alive that leaves a session valid asks for an echo. Until the next one
the session stays valid, and what came in between decides whether the next one
keeps it: an echo or a confirmation does. Session bytes and a keep-alive that
was not answered are all that ends a valid session.
-/

set_option autoImplicit false

namespace LightBridge.Session

variable {s : Session}

namespace Input

def packet? : Input → Option Packet
  | .packet bytes => (Packet.parse bytes).toOption
  | _ => none

/-- Session bytes of the bridge. -/
def opens (bridge : String) (i : Input) : Bool :=
  match i.packet? with
  | some (.sessionId mac _ _) => decide (mac = bridge)
  | _ => false

/-- A confirmation or an echo of the bridge. -/
def answers (bridge : String) (i : Input) : Bool :=
  i.packet? == some (.registered bridge) || i.packet? == some (.echo bridge)

/-- Neither a keep-alive nor session bytes of the bridge. -/
def isQuiet (bridge : String) (i : Input) : Bool := i != .keepAlive && !i.opens bridge

theorem isQuiet_iff (bridge : String) (i : Input) :
    i.isQuiet bridge = true ↔ i ≠ .keepAlive ∧ i.opens bridge = false := by
  simp [isQuiet]

theorem turn_packet (i : Input) (f : Option Frame) : (⟨i, f⟩ : Turn).packet? = i.packet? := by
  cases i <;> rfl

theorem turn_opens (bridge : String) (i : Input) (f : Option Frame) :
    (⟨i, f⟩ : Turn).opens bridge = i.opens bridge := by
  rw [Turn.opens, Turn.ids?, turn_packet, opens]
  cases i.packet? with
  | none => rfl
  | some p =>
    cases p with
    | sessionId mac sid1 sid2 => by_cases hm : mac = bridge <;> simp [hm]
    | registered mac => rfl
    | echo mac => rfl
    | acknowledged sequence status => rfl

theorem turn_answers (bridge : String) (i : Input) (f : Option Frame) :
    ((⟨i, f⟩ : Turn).confirms bridge || (⟨i, f⟩ : Turn).echoes bridge) = i.answers bridge := by
  rw [Turn.confirms, Turn.echoes, turn_packet, answers]

end Input

/-! ## One input of a valid session -/

/-- What an input does to a valid session, told from the input alone. -/
inductive Change (s s' : Session) (i : Input) : Prop where
  | opened (opens : i.opens s.bridge = true) (stage : s'.stage = .registering)
  | gaveUp (asks : i = .keepAlive) (due : s.awaiting = true) (stage : s'.stage = .invalid)
  | probed (asks : i = .keepAlive) (calm : s.awaiting = false) (stage : s'.stage = .valid)
  | rested (quiet : i.isQuiet s.bridge = true)
      (lingers : Lingers s s' (i.answers s.bridge = true))

theorem keepAlive_of_asks {i : Input} {f : Option Frame}
    (h : (⟨i, f⟩ : Turn).asks = true) : i = .keepAlive := by
  simpa [Turn.asks] using h

theorem quiet_of_other {bridge : String} {i : Input} {f : Option Frame}
    (ids : (⟨i, f⟩ : Turn).ids? bridge = none) (asks : (⟨i, f⟩ : Turn).asks = false) :
    i.isQuiet bridge = true := by
  have ho : i.opens bridge = false := by
    rw [← Input.turn_opens bridge i f, Turn.opens, ids]
    rfl
  simpa [Input.isQuiet, ho, Turn.asks] using asks

theorem take_change (now : Nat) (i : Input) (hv : s.stage = .valid) :
    Change s (s.take now i).1 i := by
  have hb := take_bridge now s i
  have ha := Input.turn_answers s.bridge i (s.take now i).2
  cases take_effect now s i with
  | opened sid1 sid2 ids stage flag bytes =>
    refine .opened ?_ stage
    rw [← Input.turn_opens s.bridge i (s.take now i).2, Turn.opens, ids]
    rfl
  | confirmed ids confirms asks stage flag bytes =>
    refine .rested (quiet_of_other ids asks) ⟨hb, by simp [stage, hv], bytes, ?_⟩
    simp [flag, ← ha, confirms]
  | echoed ids confirms echoes asks stage flag bytes =>
    refine .rested (quiet_of_other ids asks) ⟨hb, stage, bytes, ?_⟩
    simp [flag, ← ha, echoes]
  | gaveUp packet asks probes due stage flag bytes =>
    have hd : s.awaiting = true := due.resolve_right (by simp [hv])
    exact .gaveUp (keepAlive_of_asks asks) hd stage
  | probed packet asks probes calm held stage flag bytes =>
    exact .probed (keepAlive_of_asks asks) calm (stage.trans hv)
  | other ids confirms echoes asks stage flag bytes =>
    refine .rested (quiet_of_other ids asks) ⟨hb, stage, bytes, ?_⟩
    simp [flag, ← ha, confirms, echoes]

/-- Session bytes and a keep-alive that finds the session waiting are all that
ends a valid session. -/
theorem take_valid (now : Nat) (i : Input) (hv : s.stage = .valid) :
    ((s.take now i).1.stage = .registering ↔ i.opens s.bridge = true) ∧
    ((s.take now i).1.stage = .invalid ↔ i = .keepAlive ∧ s.awaiting = true) ∧
    ((s.take now i).1.stage = .valid ↔
      i.isQuiet s.bridge = true ∨ i = .keepAlive ∧ ¬ s.awaiting = true) := by
  rw [Input.isQuiet_iff]
  have ho : Input.keepAlive.opens s.bridge = false := rfl
  cases take_change now i hv with
  | opened opens stage =>
    have hk : i ≠ .keepAlive := by
      rintro rfl
      cases opens
    simp [stage, opens, hk]
  | gaveUp asks due stage =>
    subst asks
    simp [stage, due, ho]
  | probed asks calm stage =>
    subst asks
    simp [stage, calm, ho]
  | rested quiet lingers =>
    obtain ⟨hk, ho⟩ := (Input.isQuiet_iff _ _).mp quiet
    have stage := lingers.stage.trans hv
    simp [stage, hk, ho]

/-- A registration is confirmed with nothing left to wait for, so a valid
session that waits was valid before. -/
theorem valid_before (now : Nat) (i : Input) (hv : (s.take now i).1.stage = .valid)
    (ha : (s.take now i).1.awaiting = true) : s.stage = .valid := by
  cases take_effect now s i with
  | opened sid1 sid2 ids stage flag bytes => simp [stage] at hv
  | confirmed ids confirms asks stage flag bytes => simp [flag] at ha
  | echoed ids confirms echoes asks stage flag bytes => simp [flag] at ha
  | gaveUp packet asks probes due stage flag bytes => simp [stage] at hv
  | probed packet asks probes calm held stage flag bytes => exact stage.symm.trans hv
  | other ids confirms echoes asks stage flag bytes => exact stage.symm.trans hv

/-! ## Between two keep-alives -/

theorem run_quiet (js : List (Nat × Input)) (hv : s.stage = .valid)
    (hj : ∀ j ∈ js, j.2.isQuiet s.bridge = true) :
    Lingers s (run js s) (∃ j ∈ js, j.2.answers s.bridge = true) := by
  induction js generalizing s with
  | nil => constructor <;> simp [run]
  | cons j js ih =>
    rw [List.forall_mem_cons] at hj
    cases take_change j.1 j.2 hv with
    | opened opens stage => simp [Input.isQuiet, opens] at hj
    | gaveUp asks due stage => simp [Input.isQuiet, asks] at hj
    | probed asks calm stage => simp [Input.isQuiet, asks] at hj
    | rested quiet lingers =>
      have hi := ih (lingers.stage.trans hv) (lingers.bridge ▸ hj.2)
      rw [lingers.bridge] at hi
      simpa [run] using lingers.trans hi

/-- After a keep-alive that left it valid, a session waits exactly until
something answers. -/
theorem asked_lingers (asked : Nat) (js : List (Nat × Input))
    (hv : (s.keepAlive asked).1.stage = .valid)
    (hj : ∀ j ∈ js, j.2.isQuiet s.bridge = true) :
    (run js (s.keepAlive asked).1).stage = .valid ∧
      ((run js (s.keepAlive asked).1).awaiting = true ↔
        ∀ j ∈ js, j.2.answers s.bridge = false) := by
  have hb : (s.keepAlive asked).1.bridge = s.bridge := take_bridge asked s .keepAlive
  have ha : (s.keepAlive asked).1.awaiting = true := by
    obtain ⟨p, ⟨_, _, hs⟩ | ⟨_, _, _, hs⟩⟩ := keepAlive_cases asked s
    · simp [hs] at hv
    · simp [hs]
  have hl := run_quiet js hv (hb ▸ hj)
  refine ⟨hl.stage.trans hv, ?_⟩
  rw [hl.flag, hb]
  simp [ha]

/-! ## What ends a valid session -/

/-- The last keep-alive left the session valid, and nothing answered it. -/
def Unanswered (start : Session) (is : List (Nat × Input)) : Prop :=
  ∃ early asked late, is = early ++ (asked, .keepAlive)::late ∧
    ((run early start).keepAlive asked).1.stage = .valid ∧
    ∀ j ∈ late, j.2.isQuiet start.bridge = true ∧ j.2.answers start.bridge = false

/-- A valid session that waits was asked by a keep-alive, and nothing has
answered it. -/
theorem unanswered_of_awaiting {start : Session} (is : List (Nat × Input))
    (h0 : start.stage ≠ .valid) (hv : (run is start).stage = .valid)
    (ha : (run is start).awaiting = true) : Unanswered start is := by
  induction is using List.reverseRecOn with
  | nil => exact absurd hv h0
  | append_singleton is i ih =>
    obtain ⟨now, i⟩ := i
    rw [run_append] at hv ha
    have hb := run_bridge is start
    have hv' := valid_before now i hv ha
    cases take_change now i hv' with
    | opened opens stage => exact absurd (stage.symm.trans hv) (by decide)
    | gaveUp asks due stage => exact absurd (stage.symm.trans hv) (by decide)
    | probed asks calm stage =>
      subst asks
      exact ⟨is, now, [], rfl, hv, by simp⟩
    | rested quiet lingers =>
      obtain ⟨ha', hn⟩ := lingers.flag.mp ha
      rw [hb] at quiet hn
      obtain ⟨early, asked, late, rfl, he, hl⟩ := ih hv' ha'
      refine ⟨early, asked, late++[(now, i)], by simp, he, ?_⟩
      intro j hj
      rcases List.mem_append.mp hj with hj | hj
      · exact hl j hj
      · rw [List.mem_singleton.mp hj]
        exact ⟨quiet, Bool.not_eq_true _ ▸ hn⟩

theorem unanswered_iff_awaiting {start : Session} (is : List (Nat × Input))
    (h0 : start.stage ≠ .valid) (hv : (run is start).stage = .valid) :
    Unanswered start is ↔ (run is start).awaiting = true := by
  constructor
  · rintro ⟨early, asked, late, rfl, he, hl⟩
    have hb := run_bridge early start
    rw [run_append]
    refine (asked_lingers asked late he fun j hj => ?_).2.mpr fun j hj => ?_
    · exact hb ▸ (hl j hj).1
    · exact hb ▸ (hl j hj).2
  · exact unanswered_of_awaiting is h0 hv

/-- A keep-alive gives a valid session up exactly if the one before was not
answered, and otherwise asks for one more echo with the session bytes of the
time. Only that and session bytes end a valid session. -/
theorem valid_session_upkeep (id : String) (password : UInt8 × UInt8)
    (is : List (Nat × Input)) :
    let bridge := Text.upper id
    let begun := start id password
    let s := run is begun
    (∀ asked js now, (s.keepAlive asked).1.stage = .valid →
      (∀ j ∈ js, j.2.isQuiet bridge = true) →
      let before := run js (s.keepAlive asked).1
      let after := before.keepAlive now
      (∀ early, early <+: js → (run early (s.keepAlive asked).1).stage = .valid) ∧
      (after.1.stage = .invalid ∧ after.2.1 = requestFrame ↔
        ∀ j ∈ js, j.2.answers bridge = false) ∧
      ((∃ j ∈ js, j.2.answers bridge = true) →
        after.1.stage = .valid ∧ after.2.1 = before.keepAliveFrame)) ∧
    (s.stage = .valid → ∀ now i,
      ((s.take now i).1.stage = .registering ↔ i.opens bridge = true) ∧
      ((s.take now i).1.stage = .invalid ↔ i = .keepAlive ∧ Unanswered begun is) ∧
      ((s.take now i).1.stage = .valid ↔
        i.isQuiet bridge = true ∨ i = .keepAlive ∧ ¬ Unanswered begun is)) := by
  intro bridge begun s
  have hb : s.bridge = bridge := run_bridge is begun
  constructor
  · intro asked js now hv hj before after
    rw [← hb] at hj
    obtain ⟨hs, ha⟩ := asked_lingers asked js hv hj
    rw [hb] at ha
    obtain ⟨hgone, hkept⟩ := keepAlive_held now (s := before) (by rw [hs]; decide)
    rw [hs] at hkept
    constructor
    · intro early he
      exact (asked_lingers asked early hv fun j hjs => hj j (he.subset hjs)).1
    by_cases hw : before.awaiting = true
    · have hn := ha.mp hw
      exact ⟨iff_of_true (hgone hw) hn, fun ⟨j, hjs, h⟩ => absurd h (by simp [hn j hjs])⟩
    · have hk := hkept (Bool.eq_false_iff.mpr hw)
      have hl : after.1.stage ≠ .invalid := by simp [after, hk.1]
      exact ⟨iff_of_false (fun h => hl h.1) (mt ha.mpr hw), fun _ => ⟨hk.1, hk.2.2⟩⟩
  · intro hv now i
    have h0 : begun.stage ≠ .valid := by simp [begun, start]
    rw [unanswered_iff_awaiting is h0 hv, ← hb]
    exact take_valid now i hv

/-- The inputs that make a session valid. -/
def enrolled : List (Nat × Input) :=
  [(0, .keepAlive), (1, .packet (handout 0xED)), (2, .packet confirmation)]

theorem enrolled_upkeep :
    let asked := ((run enrolled (start "accf23f57ad4" (0, 0))).keepAlive 3).1
    let echoed := run [(4, .nextHeader), (5, .packet lateEcho)] asked
    let missed := run [(4, .nextHeader), (5, .setPassword 1 2)] asked
    (echoed.keepAlive 6).1.stage = .valid ∧ (missed.keepAlive 6).1.stage = .invalid ∧
      (missed.keepAlive 6).2.1 = requestFrame := by
  have h := (valid_session_upkeep "accf23f57ad4" (0, 0) enrolled).1 3
  have hv : ((run enrolled (start "accf23f57ad4" (0, 0))).keepAlive 3).1.stage = .valid := by
    decide +kernel
  constructor
  · obtain ⟨_, _, hkept⟩ := h [(4, .nextHeader), (5, .packet lateEcho)] 6 hv (by decide +kernel)
    exact (hkept (by decide +kernel)).1
  · obtain ⟨_, hgone, _⟩ := h [(4, .nextHeader), (5, .setPassword 1 2)] 6 hv (by decide +kernel)
    exact hgone.mpr (by decide +kernel)

end LightBridge.Session
