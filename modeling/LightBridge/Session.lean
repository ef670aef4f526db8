import LightBridge.Frame
import LightBridge.Notice
import LightBridge.Packet
import LightBridge.Pending
import LightBridge.Text.Upper
import LightBridge.Wire

/-!
# Sessions

A session bridge only accepts commands that carry the session bytes it handed
out. A request is answered with session bytes, these with a registration, and
the registration is confirmed. From then on keep-alives are echoed.

One flag says whether a confirmation is outstanding. It is set by session
bytes and by every keep-alive, and cleared by a confirmation or an echo. A
keep-alive that is due while it is set gives the session up.
-/

set_option autoImplicit false

namespace LightBridge

structure Session where
  bridge : String
  stage : Stage
  sid1 : UInt8
  sid2 : UInt8
  password : UInt8 × UInt8
  sequence : UInt8
  awaiting : Bool
  pending : Pending
  deriving DecidableEq, Repr

namespace Session

def start (id : String) (password : UInt8 × UInt8) : Session :=
  ⟨Text.upper id, .invalid, 0, 0, password, 0, false, .empty⟩

def isValid (s : Session) : Bool := s.stage == .valid

def idText (s : Session) : String := Text.spacedHex [s.sid1, s.sid2]

def setPassword (s : Session) (pw1 pw2 : UInt8) : Session := { s with password := (pw1, pw2) }

def setSequence (s : Session) (n : UInt8) : Session := { s with sequence := n }

def pruneLost (now : Nat) (s : Session) : Session × List Notice :=
  let (pending, lost) := s.pending.prune now
  ({ s with pending }, lost.map .lost)

/-- Hands out the next sequence number with the header that carries it. -/
def assign (now : Nat) (s : Session) : Session × Wire.Header × List Notice :=
  let header : Wire.Header := ⟨s.sid1, s.sid2, s.password.1, s.password.2, s.sequence⟩
  let (s', notices) := pruneLost now
    { s with sequence := s.sequence+1, pending := s.pending.insert s.sequence now }
  (s', header, notices)

/-- The header of the next command; there is none outside a valid session. -/
def nextHeader (now : Nat) (s : Session) : Session × Option Wire.Header × List Notice :=
  if s.isValid then
    let (s, header, notices) := s.assign now
    (s, some header, notices)
  else (s, none, [])

def requestFrame : Frame := ⟨Wire.sessionRequest, Category.session.identity 0 0, false⟩

def registrationFrame (h : Wire.Header) : Frame :=
  ⟨(Wire.registration h).toList, Category.session.identity 0 0, false⟩

def keepAliveFrame (s : Session) : Frame :=
  ⟨Wire.keepAlive s.sid1 s.sid2, Category.keepAlive.identity 0 0, false⟩

def giveUp (s : Session) : Session × List Notice :=
  if s.awaiting then
    ({ s with stage := .invalid, awaiting := false }, [.unconfirmed s.bridge s.stage])
  else (s, [])

/-- Asks for an echo, or for a new session when there is none to confirm; the
frame is offered to the queue. -/
def keepAlive (now : Nat) (s : Session) : Session × Frame × List Notice :=
  let (s, lost) := s.pruneLost now
  let (s, given) := s.giveUp
  match s.stage with
  | .invalid => (s, requestFrame, lost ++ given)
  | _ => ({ s with awaiting := true }, s.keepAliveFrame, lost ++ given)

def foreign (s : Session) (what mac : String) : List Notice :=
  [.foreignPacket what mac s.bridge]

/-- Takes a packet; session bytes are answered with a registration, which is
offered to the queue. -/
def apply (now : Nat) (s : Session) : Packet → Session × Option Frame × List Notice
  | .sessionId mac sid1 sid2 =>
    if mac = s.bridge then
      let (s, header, notices) :=
        { s with sid1, sid2, stage := .registering, awaiting := true }.assign now
      (s, some (registrationFrame header), notices)
    else (s, none, s.foreign "Session id" mac)
  | .registered mac =>
    if mac = s.bridge then
      let stage := match s.stage with
        | .registering => .valid
        | stage => stage
      ({ s with awaiting := false, stage }, none, [])
    else (s, none, s.foreign "Registration confirmation" mac)
  | .echo mac =>
    if mac = s.bridge then ({ s with awaiting := false }, none, [])
    else (s, none, s.foreign "Keep alive" mac)
  | .acknowledged sequence status =>
    ({ s with pending := (s.pending.acknowledge sequence).1 }, none,
      if status = 0 then [] else [.rejected sequence])

/-- Takes the bytes of a packet; what is none is only reported. -/
def receive (now : Nat) (s : Session) (bs : List UInt8) : Session × Option Frame × List Notice :=
  match Packet.parse bs with
  | .ok p => s.apply now p
  | .error fault => (s, none, [.bridgeFault s.bridge fault])

end Session

end LightBridge
