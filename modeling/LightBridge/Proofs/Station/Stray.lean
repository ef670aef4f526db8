import LightBridge.Proofs.Session.Address
import LightBridge.Proofs.Session.Recall
import LightBridge.Proofs.Station.Act

/-!
# Strays

A station that hears strays does what it would do without them: its session,
its lights and its queue become the same, the same frames leave, and every
other deed has the same outcome. Only the lines that are logged for the strays
are missing.
-/

set_option autoImplicit false

namespace LightBridge

/-! ## The bridge of a run -/

theorem Link.run_bridge (as : List Link.Act) (l : Link) : (l.run as).bridge = l.bridge := by
  have hb : ((·.bridge) ∘ Session.run (inputs as)) = fun s : Session => s.bridge := by
    funext s
    exact Session.run_bridge (inputs as) s
  rw [bridge, run_session, Option.map_map, hb]
  rfl

theorem Station.perform_bridge (s : Station) (d : Deed) :
    (s.perform d).link.bridge = s.link.bridge := by
  rw [perform_link, Link.run_bridge]

/-! ## A stray -/

def Deed.isStray (address : List UInt8) : Deed → Bool
  | .session (.packet bytes) => Packet.isStray address bytes
  | _ => false

namespace Station

/-- What a deed gives back, and what is logged for it. -/
structure Outcome where
  header : Option Wire.Header
  result : Except Fault Unit
  notices : List Notice

def outcome (s : Station) : Deed → Outcome
  | .operate light operation =>
    ⟨none, (s.operate light operation).2.2, (s.operate light operation).2.1⟩
  | .session (.packet bytes) => ⟨none, .ok (), (s.packet bytes).2⟩
  | .session .keepAlive => ⟨none, .ok (), s.keepAlive.2⟩
  | .session .nextHeader =>
    ⟨(s.link.nextHeader s.wall).2.1, .ok (), (s.link.nextHeader s.wall).2.2⟩
  | _ => ⟨none, .ok (), []⟩

/-- The deeds of a run with their outcomes. -/
def outcomes : List Deed → Station → List (Deed × Outcome)
  | [], _ => []
  | d::ds, s => (d, s.outcome d) :: outcomes ds (s.perform d)

theorem receive_still {l : Link} {wall : Nat} {bytes : List UInt8}
    (h : ∀ session ∈ l.session, session.take wall (.packet bytes) = (session, none)) :
    (l.receive wall bytes).1 = l := by
  obtain ⟨queue, session, receiver⟩ := l
  cases session with
  | none => rfl
  | some session =>
    have ht := h session rfl
    simp only [Session.take, Prod.mk.injEq] at ht
    simp only [Link.receive]
    split <;> rename_i hr <;> rw [hr] at ht
    · obtain rfl := ht.1
      rfl
    · cases ht.2

/-- A stray is no deed at all. -/
theorem perform_stray {s : Station} {address : List UInt8}
    (hb : s.link.bridge = Text.compactHex address) {d : Deed}
    (hd : d.isStray address = true) : s.perform d = s ∧ s.calls d = [] := by
  obtain ⟨bytes, rfl, hd⟩ : ∃ bytes, d = .session (.packet bytes) ∧
      Packet.isStray address bytes = true := by
    unfold Deed.isStray at hd
    split at hd
    · exact ⟨_, rfl, hd⟩
    · cases hd
  have ht : ∀ session ∈ s.link.session,
      session.take s.wall (.packet bytes) = (session, none) := by
    intro session hs
    have hb : session.bridge = Text.compactHex address := by
      simpa [Link.bridge, Option.mem_def.mp hs] using hb
    exact Session.take_stray hb s.wall hd
  constructor
  · simp only [perform, hear, packet, receive_still ht]
  · cases hs : s.link.session with
    | none => simp [calls, hs]
    | some session => simp [calls, hs, ht session hs]

/-- The calls and the end of a run, and the outcomes of the deeds that are no
strays, are those of the run without its strays. -/
theorem run_heard {address : List UInt8} (ds : List Deed) {s : Station}
    (hb : s.link.bridge = Text.compactHex address) :
    let heard := ds.filter (!·.isStray address)
    s.run heard = s.run ds ∧ s.script heard = s.script ds ∧
    s.outcomes heard = (s.outcomes ds).filter (!·.1.isStray address) := by
  induction ds generalizing s with
  | nil => exact ⟨rfl, rfl, rfl⟩
  | cons d ds ih =>
    obtain ⟨hr, hc, ho⟩ := ih ((perform_bridge s d).trans hb)
    cases hd : d.isStray address with
    | true =>
      obtain ⟨hp, hn⟩ := perform_stray hb hd
      rw [hp] at hr hc ho
      simp [hd, run, script, outcomes, hp, hn, hr, hc, ho]
    | false => simp [hd, run, script, outcomes, hr, hc, ho]

/-- Without its strays a run ends the same and sends the same, and each deed
that is left has the outcome that it had. -/
theorem strays_ignored {s : Station} {id : String} {address : List UInt8}
    (hid : Text.spelled? id.toList = some address)
    (hs : s.link.bridge = Text.upper id) (ds : List Deed) :
    let heard := ds.filter (!·.isStray address)
    s.run heard = s.run ds ∧
    Queue.sent (s.script heard) s.link.queue = Queue.sent (s.script ds) s.link.queue ∧
    s.outcomes heard = (s.outcomes ds).filter (!·.1.isStray address) := by
  obtain ⟨hr, hc, ho⟩ := run_heard ds (hs.trans (Text.upper_of_spelled hid))
  exact ⟨hr, congrArg (Queue.sent · s.link.queue) hc, ho⟩

def home : List UInt8 := [0xAC, 0xCF, 0x23, 0xF5, 0x7A, 0xD4]

def neighborhood : Station :=
  .start (.start .start (some (.start "accF23f57AD4" (0, 0)))) none
    [.create ⟨.v6BridgeLamp, 1⟩ none]

/-- A handshake that a fragment and another bridge get into. -/
def crosstalk : List Deed :=
  let other := [0xF0, 0xFE, 0x6B, 0, 0, 1]
  [.session .keepAlive, .session (.packet [0x28, 0, 0]),
    .session (.packet (Packet.sessionIdBytes other 9 9)),
    .session (.packet (Packet.sessionIdBytes home 1 2)),
    .session (.packet (Packet.echoBytes other)), .session (.packet (Packet.registeredBytes other)),
    .session (.packet (Packet.registeredBytes home)), .operate 0 (.setPower true), .poll 0]

theorem crosstalk_ignored :
    let heard := crosstalk.filter (!·.isStray home)
    Text.spelled? "accF23f57AD4".toList = some home ∧
    neighborhood.link.bridge = Text.upper "accF23f57AD4" ∧
    heard.length = 5 ∧ (neighborhood.run crosstalk).link.isValid = true ∧
    neighborhood.run heard = neighborhood.run crosstalk := by
  have hid : Text.spelled? "accF23f57AD4".toList = some home := by decide +kernel
  have hb : neighborhood.link.bridge = Text.upper "accF23f57AD4" := rfl
  have h := strays_ignored hid hb crosstalk
  exact ⟨hid, hb, by decide +kernel, by decide +kernel, h.1⟩

end Station

end LightBridge
