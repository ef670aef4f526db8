import LightBridge.Proofs.Light.Planned
import LightBridge.Proofs.Session.Recall
import LightBridge.Proofs.Station.Act

/-!
# The stamp of a light frame

A command that needs a session takes its header from it at the moment it is
offered. So the frame carries the session bytes that the bridge handed out last,
the password that was set last and the number that was next, and there was a
completed handshake before.
-/

set_option autoImplicit false

namespace LightBridge

/-! ## The settings of a session -/

namespace Session

def Input.password? : Input → Option (UInt8 × UInt8)
  | .setPassword pw1 pw2 => some (pw1, pw2)
  | _ => none

/-- The password that was set last. -/
def lastPassword (initial : UInt8 × UInt8) (is : List (Nat × Input)) : UInt8 × UInt8 :=
  (is.filterMap (·.2.password?)).getLast?.getD initial

theorem apply_password (now : Nat) (s : Session) (p : Packet) :
    (s.apply now p).1.password = s.password := by
  cases p <;> simp only [apply, assign, pruneLost] <;> split <;> rfl

theorem take_password (now : Nat) (s : Session) (i : Input) :
    (s.take now i).1.password = i.password?.getD s.password := by
  cases i with
  | packet bytes =>
    simp only [take, receive, Input.password?, Option.getD_none]
    split
    · exact apply_password now s _
    · rfl
  | keepAlive =>
    obtain ⟨p, ⟨_, _, hs⟩ | ⟨_, _, _, hs⟩⟩ := keepAlive_cases now s <;>
      simp [take, hs, Input.password?]
  | nextHeader =>
    obtain ⟨n, p, hs⟩ := nextHeader_rest now s
    simp [take, hs, Input.password?]
  | setPassword pw1 pw2 => rfl
  | setSequence n => rfl

theorem run_password (is : List (Nat × Input)) (s : Session) :
    (run is s).password = lastPassword s.password is := by
  induction is generalizing s with
  | nil => rfl
  | cons i is ih =>
    rw [run, ih, take_password, lastPassword, lastPassword, List.filterMap_cons]
    cases i.2.password? with
    | none => rfl
    | some password => rw [List.getLast?_cons, Option.getD_some, Option.getD_some]

/-- Session bytes of the bridge, and later a confirmation of the registration. -/
def Completed (bridge : String) (h : List Turn) : Prop :=
  ∃ early opening mid confirmation late,
    h = early ++ opening::(mid ++ confirmation::late) ∧
      opening.opens bridge = true ∧ confirmation.confirms bridge = true

theorem completed_of_valid {bridge : String} {h : List Turn} (hh : Held bridge h)
    (hc : Confirmed bridge h) : Completed bridge h := by
  obtain ⟨t, ht, hconf⟩ := hc
  obtain ⟨mid, late, hsince⟩ := List.append_of_mem ht
  have hopens := List.rdropWhile_last_not (fun t : Turn => !t.opens bridge) h hh.1
  obtain ⟨early, x, hup⟩ := (List.eq_nil_or_concat _).resolve_left hh.1
  refine ⟨early, x, mid, t, late, ?_, ?_, hconf⟩
  · rw [← upToIds_append_sinceIds bridge h, hup, hsince]
    simp
  · unfold upToIds at hup
    simpa [hup] using hopens

end Session

/-! ## The bytes of a command -/

namespace Bulb

/-- What the bytes of a command say about where it belongs. -/
structure Stamped (header : Wire.Header) (b : Bulb) (bytes : List UInt8) : Prop where
  length : bytes.length = 22
  ids : bytes[5]? = some header.sid1 ∧ bytes[6]? = some header.sid2
  number : bytes[8]? = some header.sequence
  tag : bytes[10]? = some Wire.commandTag
  password : bytes[11]? = some header.pw1 ∧ bytes[12]? = some header.pw2
  remote : bytes[13]? = some b.remote
  zone : bytes[19]? = some b.zone

theorem frame_stamped (b : Bulb) (header : Wire.Header) {c : Command}
    (hc : c.inSession = true) : Stamped header b (b.frame header c).bytes := by
  obtain ⟨payload, category, repeatable⟩ := c
  cases payload with
  | plain x y => cases hc
  | pair cmd1 cmd2 => constructor <;> simp [frame, bytes, Wire.command, Wire.withSum, Wire.unsealed]
  | color hue => constructor <;> simp [frame, bytes, Wire.color, Wire.withSum, Wire.unsealed]
  | link on => constructor <;> simp [frame, bytes, Wire.link, Wire.withSum, Wire.unsealed]

/-- Every command to a bulb of a session bridge needs a session. -/
theorem plan_inSession {b : Bulb} (hb : b.family.protocol = .v6) {isValid : Bool}
    {s : LightState} {operation : Operation} {c : Command} {record : LightState → LightState}
    (h : .send c record ∈ (b.plan isValid s operation).all) : c.inSession = true := by
  have hset : ∃ commands, CommandSet.ofFamily? b.family = some commands := by
    cases hf : b.family with
    | v2Rgb | v3White | v3Rgbw => simp [hf, Family.protocol] at hb
    | v6RgbCwWw | v6Rgbw | v6BridgeLamp => exact ⟨_, rfl⟩
  obtain ⟨commands, hset⟩ := hset
  rw [plan_of_commands hset] at h
  have hp := (SessionBulb.plan_planned commands _ isValid s operation).1 _ h
  generalize hm : Move.send c record = m at hp
  cases hp <;> cases hm <;> rfl

end Bulb

/-! ## The header of a command -/

namespace Link

theorem offered_of_valid {wall : Nat} {b : Bulb} {c : Command} {l : Link} {s : Session}
    (hc : c.inSession = true) (hs : l.session = some s) (hv : s.isValid = true) :
    l.offered wall b c = some (b.frame (s.assign wall).2.1 c) := by
  rw [offered_of_session (c.inSession_iff.mp hc)]
  simp [nextHeader, hs, Session.nextHeader, hv]

/-- A command that needs a session is offered with the next header of a valid one. -/
theorem offered_header {wall : Nat} {b : Bulb} {c : Command} {l : Link} {f : Frame}
    (hc : c.inSession = true) (h : l.offered wall b c = some f) :
    ∃ s, l.session = some s ∧ s.isValid = true ∧ f = b.frame (s.assign wall).2.1 c := by
  have hheader := h
  rw [offered_of_session (c.inSession_iff.mp hc)] at hheader
  cases hs : l.session with
  | none => simp [nextHeader, hs] at hheader
  | some s =>
    cases hv : s.isValid with
    | false => simp [nextHeader, hs, Session.nextHeader, hv] at hheader
    | true => exact ⟨s, rfl, hv, Option.some.inj (h.symm.trans (offered_of_valid hc hs hv))⟩

/-- Only a command offers a frame for a bulb. -/
theorem offer_of_bulb {l : Link} {a : Act} {b : Bulb} {f : Frame}
    (h : l.offer? a = some (some b, f)) :
    ∃ wall c, a = .send wall b c ∧ l.offered wall b c = some f := by
  cases a with
  | send wall b' c =>
    obtain ⟨g, hg, he⟩ := Option.map_eq_some_iff.mp h
    cases he
    exact ⟨wall, c, rfl, hg⟩
  | hear wall i =>
    obtain ⟨g, _, he⟩ := Option.map_eq_some_iff.mp h
    cases he
  | _ => cases h

/-- What the acts of a run tell about its session. -/
theorem run_recalls {l : Link} {id : String} {password : UInt8 × UInt8}
    (hs : l.session = some (.start id password)) (as : List Act) {session : Session}
    (h : (l.run as).session = some session) :
    session.bridge = Text.upper id ∧
    session.password = Session.lastPassword password (inputs as) ∧
    Session.Recalls (Session.history (inputs as) (.start id password)) session := by
  rw [run_session, hs] at h
  obtain rfl := Option.some.inj h
  exact ⟨Session.run_bridge _ _, Session.run_password _ _,
    Session.recalls_run _ (Session.start_recalls id password)⟩

end Link

namespace Session

/-- A number that is handed out is used up and recorded. -/
theorem assign_number (now : Nat) (s : Session) :
    (s.assign now).1.sequence = s.sequence+1 ∧
      (s.assign now).1.pending.contains s.sequence = true := by
  simp [assign, pruneLost, Pending.prune, Pending.insert, Pending.contains, Pending.isLost]

theorem take_nextHeader (now : Nat) {s : Session} (hv : s.isValid = true) :
    (s.take now .nextHeader).1 = (s.assign now).1 := by
  simp [take, nextHeader, hv]

end Session

/-! ## The frames of a run -/

namespace Station

/-- Each accepted frame of a light was offered in a valid session, after a
completed handshake. It carries the session bytes that were handed out last, the
password that was set last and the number that was next, which the session then
counts on from and records; and it names the light's family and zone. -/
theorem light_frames_belong {s : Station} {id : String} {password : UInt8 × UInt8}
    (hs : s.link.session = some (.start id password)) (ds : List Deed) {b : Bulb} {f : Frame}
    {before after : List (Option Bulb × Frame)} (hb : b.family.protocol = .v6)
    (h : s.acceptedIn ds = before ++ (some b, f)::after) :
    ∃ early wall c late session next,
      s.actsIn ds = early ++ .send wall b c::late ∧ s.link.accepted early = before ∧
      (s.link.run early).session = some session ∧
      ((s.link.run early).act (.send wall b c)).session = some next ∧
      let bridge := Text.upper id
      let is := Link.inputs early
      let ids := Session.lastIds bridge (Session.history is (.start id password))
      session.stage = .valid ∧
      Session.Completed bridge (Session.history is (.start id password)) ∧
      (f.bytes[5]? = some ids.1 ∧ f.bytes[6]? = some ids.2) ∧
      (f.bytes[11]? = some (Session.lastPassword password is).1 ∧
        f.bytes[12]? = some (Session.lastPassword password is).2) ∧
      (f.bytes[8]? = some session.sequence ∧ next.sequence = session.sequence+1 ∧
        next.pending.contains session.sequence = true) ∧
      f.bytes[10]? = some 0x31 ∧ f.bytes[13]? = some b.remote ∧ f.bytes[19]? = some b.zone := by
  rw [acceptedIn_acts] at h
  obtain ⟨early, a, late, has, hbefore, ho, _⟩ := Link.accepted_place _ _ h
  obtain ⟨wall, c, rfl, hf⟩ := Link.offer_of_bulb ho
  have hc : c.inSession = true := by
    obtain ⟨_, _, _, _, _, hm⟩ := s.send_mem ds (has ▸ List.mem_append_right _ List.mem_cons_self)
    exact Bulb.plan_inSession hb hm
  obtain ⟨session, hsession, hv, rfl⟩ := Link.offered_header hc hf
  have hstamp := b.frame_stamped (session.assign wall).2.1 hc
  have hnumber := session.assign_number wall
  rw [← Session.take_nextHeader wall hv] at hnumber
  have hnext : ((s.link.run early).act (.send wall b c)).session =
      some (session.take wall .nextHeader).1 := by
    rw [Link.act_session, hsession]
    simp [Link.Act.input?, hc, Session.run]
  obtain ⟨hbridge, hpassword, hrecalls⟩ := Link.run_recalls hs early hsession
  have hvalid : session.stage = .valid := by simpa [Session.isValid] using hv
  obtain ⟨hheld, hconfirmed⟩ := hrecalls.valid.mp hvalid
  have hids := hrecalls.bytes
  rw [hbridge] at hids hheld hconfirmed
  refine ⟨early, wall, c, late, session, _, has, hbefore, hsession, hnext, hvalid,
    Session.completed_of_valid hheld hconfirmed, ?_, ?_, ⟨hstamp.number, hnumber⟩, hstamp.tag,
    hstamp.remote, hstamp.zone⟩
  · rw [← hids]
    exact hstamp.ids
  · rw [← hpassword]
    exact hstamp.password

def porch : Station :=
  .start (.start .start (some (.start "accF23f57AD4" (0, 0)))) none [.create ⟨.v6RgbCwWw, 4⟩ none]

/-- The bridge of the porch hands out session bytes and confirms the registration. -/
def entry : List Deed :=
  let bridge := [0xAC, 0xCF, 0x23, 0xF5, 0x7A, 0xD4]
  [.session .keepAlive, .session (.packet (Packet.sessionIdBytes bridge 0x12 0x34)),
    .session (.packet (Packet.registeredBytes bridge))]

/-- A command before the handshake, and one after a change of the settings. -/
def homecoming : List Deed :=
  .operate 0 (.setPower true) :: entry ++
    [.session (.setPassword 7 9), .session (.setSequence 255), .operate 0 (.setPower true)]

theorem homecoming_belongs :
    let lamp : Bulb := ⟨.v6RgbCwWw, 4⟩
    let f : Frame := ⟨[0x80, 0, 0, 0, 0x11, 0x12, 0x34, 0, 0xFF, 0, 0x31, 7, 9, 8, 4, 1, 0, 0, 0,
      4, 0, 0x52], 314, true⟩
    porch.link.session = some (.start "accF23f57AD4" (0, 0)) ∧ lamp.family.protocol = .v6 ∧
    porch.acceptedIn homecoming = [(none, Session.requestFrame),
      (none, Session.registrationFrame ⟨0x12, 0x34, 0, 0, 0⟩), (some lamp, f)] ∧
    ∃ early wall c late session next,
      porch.actsIn homecoming = early ++ .send wall lamp c::late ∧
      (porch.link.run early).session = some session ∧
      ((porch.link.run early).act (.send wall lamp c)).session = some next ∧
      session.stage = .valid ∧ f.bytes[8]? = some session.sequence ∧
      next.sequence = session.sequence+1 ∧ next.pending.contains session.sequence = true := by
  intro lamp f
  have hs : porch.link.session = some (.start "accF23f57AD4" (0, 0)) := rfl
  have hb : lamp.family.protocol = .v6 := rfl
  have h : porch.acceptedIn homecoming = [(none, Session.requestFrame),
      (none, Session.registrationFrame ⟨0x12, 0x34, 0, 0, 0⟩)] ++ (some lamp, f)::[] := by
    decide +kernel
  obtain ⟨early, wall, c, late, session, next, hplace, _, hsession, hnext, hvalid, _, _, _,
    hnumber, _⟩ := light_frames_belong hs homecoming hb h
  exact ⟨hs, hb, h, early, wall, c, late, session, next, hplace, hsession, hnext, hvalid, hnumber⟩

end Station

end LightBridge
