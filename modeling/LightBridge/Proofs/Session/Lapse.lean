import LightBridge.Proofs.Session.Recall

/-!
# Lapse of a registration

A keep-alive gives up a registration that nothing has confirmed since the
session bytes came. An echo clears the same flag, also one that is late and
answers an earlier keep-alive: then the registration outlives the next
keep-alive, which only asks for one more echo.
-/

set_option autoImplicit false

namespace LightBridge.Session

variable {s s' : Session}

/-- The packet confirms a registration with the bridge, or opens a session. -/
def Settles (bridge : String) (bytes : List UInt8) : Prop :=
  Packet.parse bytes = .ok (.registered bridge) ∨
    ∃ sid1 sid2, Packet.parse bytes = .ok (.sessionId bridge sid1 sid2)

def Echoes (bridge : String) (bytes : List UInt8) : Prop :=
  Packet.parse bytes = .ok (.echo bridge)

/-- The session is as before, but for its flag. -/
structure Lingers (s s' : Session) (echoed : Prop) : Prop where
  bridge : s'.bridge = s.bridge
  stage : s'.stage = s.stage
  bytes : (s'.sid1, s'.sid2) = (s.sid1, s.sid2)
  flag : s'.awaiting = true ↔ s.awaiting = true ∧ ¬ echoed

theorem packet_lingers (now : Nat) {bytes : List UInt8} (h : ¬ Settles s.bridge bytes) :
    Lingers s (s.take now (.packet bytes)).1 (Echoes s.bridge bytes) := by
  cases hp : Packet.parse bytes with
  | error fault => constructor <;> simp [take, receive, Echoes, hp]
  | ok p =>
    simp only [Settles, hp, Except.ok.injEq] at h
    cases p with
    | sessionId mac sid1 sid2 =>
      have hm : mac ≠ s.bridge := fun hm => h (.inr ⟨sid1, sid2, hm ▸ rfl⟩)
      constructor <;> simp [take, receive, apply, Echoes, hp, hm]
    | registered mac =>
      have hm : mac ≠ s.bridge := fun hm => h (.inl (hm ▸ rfl))
      constructor <;> simp [take, receive, apply, Echoes, hp, hm]
    | echo mac =>
      by_cases hm : mac = s.bridge <;> constructor <;>
        simp [take, receive, apply, Echoes, hp, hm]
    | acknowledged sequence status =>
      constructor <;> simp [take, receive, apply, Echoes, hp]

theorem Lingers.trans {s'' : Session} {echoed echoed' : Prop} (h : Lingers s s' echoed)
    (h' : Lingers s' s'' echoed') : Lingers s s'' (echoed ∨ echoed') where
  bridge := h'.bridge.trans h.bridge
  stage := h'.stage.trans h.stage
  bytes := h'.bytes.trans h.bytes
  flag := by rw [h'.flag, h.flag, and_assoc, not_or]

def arrivals (packets : List (Nat × List UInt8)) : List (Nat × Input) :=
  packets.map fun p => (p.1, .packet p.2)

theorem arrivals_linger (packets : List (Nat × List UInt8))
    (h : ∀ p ∈ packets, ¬ Settles s.bridge p.2) :
    Lingers s (run (arrivals packets) s) (∃ p ∈ packets, Echoes s.bridge p.2) := by
  induction packets generalizing s with
  | nil => constructor <;> simp [arrivals, run]
  | cons p packets ih =>
    rw [List.forall_mem_cons] at h
    have hp := packet_lingers p.1 h.1
    have hi := ih (s := (s.take p.1 (.packet p.2)).1) (by rw [hp.bridge]; exact h.2)
    rw [hp.bridge] at hi
    simpa [arrivals, run] using hp.trans hi

/-- A keep-alive gives a session up while its flag is set, and sets it otherwise. -/
theorem keepAlive_held (now : Nat) (h : s.stage ≠ .invalid) :
    (s.awaiting = true →
      (s.keepAlive now).1.stage = .invalid ∧ (s.keepAlive now).2.1 = requestFrame) ∧
    (s.awaiting = false →
      (s.keepAlive now).1.stage = s.stage ∧ (s.keepAlive now).1.awaiting = true ∧
        (s.keepAlive now).2.1 = s.keepAliveFrame) := by
  obtain ⟨p, ⟨hd, hf, hs⟩ | ⟨hc, _, hf, hs⟩⟩ := keepAlive_cases now s
  · have ha : s.awaiting = true := hd.resolve_right h
    simp [ha, hf, hs]
  · simp [hc, hf, hs]

theorem keepAlive_registering (now : Nat) (h : s.stage = .registering) :
    (s.awaiting = true →
      (s.keepAlive now).1.stage = .invalid ∧ (s.keepAlive now).2.1 = requestFrame) ∧
    (s.awaiting = false →
      (s.keepAlive now).1.stage = .registering ∧ (s.keepAlive now).1.awaiting = true ∧
        (s.keepAlive now).2.1 = s.keepAliveFrame) := by
  rw [← h]
  exact keepAlive_held now (by simp [h])

theorem keepAliveFrame_eq (h : (s'.sid1, s'.sid2) = (s.sid1, s.sid2)) :
    s'.keepAliveFrame = s.keepAliveFrame := by
  rw [Prod.mk.injEq] at h
  rw [keepAliveFrame, keepAliveFrame, h.1, h.2]

/-- As long as no packet settles it, a registration lapses with the next
keep-alive exactly if a confirmation is outstanding and none of the packets is
an echo. Otherwise the keep-alive asks for one more echo and waits for it. -/
theorem registration_lapses (id : String) (password : UInt8 × UInt8) (is : List (Nat × Input))
    (packets : List (Nat × List UInt8)) (now : Nat)
    (hr : (run is (start id password)).stage = .registering)
    (hp : ∀ p ∈ packets, ¬ Settles (Text.upper id) p.2) :
    let bridge := Text.upper id
    let before := run is (start id password)
    let s := run (arrivals packets) before
    let lapses := outstanding bridge (history is (start id password)) = true ∧
      ∀ p ∈ packets, ¬ Echoes bridge p.2
    s.stage = .registering ∧
    (lapses → (s.keepAlive now).1.stage = .invalid ∧ (s.keepAlive now).2.1 = requestFrame) ∧
    (¬ lapses → (s.keepAlive now).1.stage = .registering ∧
      (s.keepAlive now).1.awaiting = true ∧
      (s.keepAlive now).2.1 = before.keepAliveFrame) := by
  intro bridge before s lapses
  have hb : before.bridge = bridge := run_bridge is _
  have hl := arrivals_linger packets (s := before) (hb ▸ hp)
  have hrec : Recalls (history is (start id password)) before :=
    recalls_run is (start_recalls id password)
  have hs : s.stage = .registering := hl.stage.trans hr
  have hflag : s.awaiting = true ↔ lapses := by
    rw [hl.flag, hrec.flag, hb]
    simp [lapses]
  have hk := keepAlive_registering now hs
  refine ⟨hs, fun h => hk.1 (hflag.mpr h), fun h => ?_⟩
  have hf : s.awaiting = false := Bool.eq_false_iff.mpr fun ha => h (hflag.mp ha)
  rw [← keepAliveFrame_eq hl.bytes]
  exact hk.2 hf

def mac : List UInt8 := [0xAC, 0xCF, 0x23, 0xF5, 0x7A, 0xD4]

def handout (sid1 : UInt8) : List UInt8 :=
  [0x28, 0, 0, 0, 0x11, 0, 2] ++ mac ++ [0x69, 0xF0, 0x3C, 0x23, 0, 1, sid1, 0xAB, 0]

def confirmation : List UInt8 := [0x80, 0, 0, 0, 6] ++ mac

/-- A session that was confirmed, was not echoed in time and is opened anew. -/
def renewed : List (Nat × Input) :=
  [(0, .keepAlive), (1, .packet (handout 0xED)), (2, .packet confirmation), (3, .keepAlive),
    (4, .keepAlive), (5, .packet (handout 0xEE))]

/-- The echo of the keep-alive that came before. -/
def lateEcho : List UInt8 := [0xD8, 0, 0, 0, 7] ++ mac ++ [1]

/-- The confirmation of another bridge, and one that breaks off. -/
def strayPackets : List (Nat × List UInt8) :=
  [(6, [0x80, 0, 0, 0, 6, 0xAC, 0xCF, 0x23, 0xF5, 0x7A, 0xD5]), (6, confirmation.take 8)]

/-- Neither of them makes up for the echo that is missing. -/
theorem renewed_lapses :
    let s := run (arrivals strayPackets) (run renewed (start "ACCF23F57AD4" (0, 0)))
    s.stage = .registering ∧ (s.keepAlive 7).1.stage = .invalid ∧
      (s.keepAlive 7).2.1 = requestFrame := by
  have hforeign : Packet.parse [0x80, 0, 0, 0, 6, 0xAC, 0xCF, 0x23, 0xF5, 0x7A, 0xD5] =
      .ok (.registered "ACCF23F57AD5") := by decide +kernel
  obtain ⟨fault, hbroken⟩ : ∃ fault, Packet.parse (confirmation.take 8) = .error fault := ⟨_, rfl⟩
  have hid : Text.upper "ACCF23F57AD4" = "ACCF23F57AD4" := by decide +kernel
  have hsettles : ∀ p ∈ strayPackets, ¬ Settles (Text.upper "ACCF23F57AD4") p.2 := by
    simp [strayPackets, Settles, hid, hforeign, hbroken]
  have hechoes : ∀ p ∈ strayPackets, ¬ Echoes (Text.upper "ACCF23F57AD4") p.2 := by
    simp [strayPackets, Echoes, hforeign, hbroken]
  have hl := registration_lapses "ACCF23F57AD4" (0, 0) renewed strayPackets 7 (by decide +kernel) hsettles
  have ho : outstanding (Text.upper "ACCF23F57AD4")
      (history renewed (start "ACCF23F57AD4" (0, 0))) = true := by decide +kernel
  exact ⟨hl.1, hl.2.1 ⟨ho, hechoes⟩⟩

/-- The echo is late, but it keeps the new registration. -/
theorem lateEcho_keeps :
    ¬ ∀ (id : String) (password : UInt8 × UInt8) (is : List (Nat × Input))
        (packets : List (Nat × List UInt8)) (now : Nat),
      (run is (start id password)).stage = .registering →
      (∀ p ∈ packets, ¬ Settles (Text.upper id) p.2) →
      let s := run (arrivals packets) (run is (start id password))
      (s.keepAlive now).1.stage = .invalid ∧ (s.keepAlive now).2.1 = requestFrame := by
  intro h
  have he : Echoes (Text.upper "ACCF23F57AD4") lateEcho := by
    unfold Echoes
    decide +kernel
  have hn : ¬ Settles (Text.upper "ACCF23F57AD4") lateEcho := by
    rw [Settles, he]
    simp
  have hk := h "ACCF23F57AD4" (0, 0) renewed [(6, lateEcho)] 7 (by decide +kernel)
    (by simpa using hn)
  exact absurd hk.1 (by decide +kernel)

/-- A bridge that echoes but does not confirm keeps a registration for ever. -/
theorem registration_stays {bytes : List UInt8} (he : Echoes s.bridge bytes)
    (hs : s.stage = .registering) (now n : Nat) :
    (run (List.replicate n [(now, .packet bytes), (now, .keepAlive)]).flatten s).stage =
      .registering := by
  induction n generalizing s with
  | zero => exact hs
  | succ n ih =>
    have hn : ¬ Settles s.bridge bytes := by
      rw [Settles, he]
      simp
    have hl := packet_lingers now hn
    have hf : (s.take now (.packet bytes)).1.awaiting = false := by
      rw [← Bool.not_eq_true, hl.flag]
      exact fun h => h.2 he
    have hk := (keepAlive_registering now (hl.stage.trans hs)).2 hf
    have hb := (take_bridge now _ .keepAlive).trans hl.bridge
    exact ih (hb ▸ he) hk.1

end LightBridge.Session
