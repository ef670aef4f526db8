import LightBridge.Bulb
import LightBridge.Notice
import LightBridge.Queue
import LightBridge.Receiver
import LightBridge.Session

/-!
# The link to a bridge

A link is the command queue of a bridge with the session that uses it, if the
bridge has sessions. The session listens on the queue's socket; its receive
loop opens with a keep-alive, which asks for the first session.

Two clocks are read. Pauses follow a clock of milliseconds; the age of a
command is told by a clock of microseconds, which need not run along.
-/

set_option autoImplicit false

namespace LightBridge

structure Link where
  queue : Queue
  session : Option Session
  receiver : Receiver
  deriving DecidableEq, Repr

namespace Link

def start (queue : Queue) (session : Option Session) : Link := ⟨queue, session, .fresh⟩

def isValid (l : Link) : Bool := l.session.any Session.isValid

def bridge (l : Link) : String := (l.session.map (·.bridge)).getD ""

def enqueue (l : Link) (f : Frame) : Link × Except Fault Unit :=
  let (queue, result) := l.queue.enqueue f
  ({ l with queue }, result)

/-! ## The session's own traffic -/

/-- Offers a frame of the session to the queue; a refusal is only reported. -/
def offer (l : Link) (f : Frame) : Link × List Notice :=
  match l.enqueue f with
  | (l, .ok ()) => (l, [])
  | (l, .error fault) => (l, [.bridgeFault l.bridge fault])

def keepAlive (wall : Nat) (l : Link) : Link × List Notice :=
  match l.session with
  | none => (l, [])
  | some s =>
    let (s, frame, notices) := s.keepAlive wall
    let (l, refused) := { l with session := some s }.offer frame
    (l, notices ++ refused)

def receive (wall : Nat) (l : Link) (bs : List UInt8) : Link × List Notice :=
  match l.session with
  | none => (l, [])
  | some s =>
    match s.receive wall bs with
    | (s, none, notices) => ({ l with session := some s }, notices)
    | (s, some frame, notices) =>
      let (l, refused) := { l with session := some s }.offer frame
      (l, notices ++ refused)

/-- The next header, of which the session records that it was handed out. -/
def nextHeader (wall : Nat) (l : Link) : Link × Option Wire.Header × List Notice :=
  match l.session with
  | none => (l, none, [])
  | some s =>
    let (s, header, notices) := s.nextHeader wall
    ({ l with session := some s }, header, notices)

/-! ## Commands -/

def noHeader : Wire.Header := ⟨0, 0, 0, 0, 0⟩

/-- Queues a command. A session command takes the next header first, which is
used up even if the queue refuses the command. -/
def send (wall : Nat) (b : Bulb) (c : Command) (l : Link) :
    Link × List Notice × Except Fault Unit :=
  match c.payload with
  | .plain .. =>
    let (l, result) := l.enqueue (b.frame noHeader c)
    (l, [], result)
  | _ =>
    match l.nextHeader wall with
    | (l, none, notices) => (l, notices ++ [.sessionLost l.bridge], .ok ())
    | (l, some header, notices) =>
      let (l, result) := l.enqueue (b.frame header c)
      (l, notices, result)

/-! ## Running the loops -/

def drain (now : Nat) (l : Link) : Link × List Frame :=
  let (queue, sent) := l.queue.settle now
  ({ l with queue }, sent)

/-- Lets the receive loop run: it opens if it has not run yet, and takes the
datagram if it is still there. -/
def hear (wall : Nat) (datagram : Option (List UInt8)) (l : Link) : Link × List Notice :=
  let (l, opened) := match l.receiver with
    | .fresh => keepAlive wall { l with receiver := .listening }
    | _ => (l, [])
  match datagram, l.receiver with
  | some bs, .listening =>
    let (l, notices) := l.receive wall (Receiver.cut bs)
    (l, opened ++ notices)
  | _, _ => (l, opened)

def disposeQueue (l : Link) : Link × List Frame :=
  let (queue, sent) := l.queue.dispose
  ({ l with queue }, sent)

def stopReceiver (l : Link) : Link := { l with receiver := .stopped }

end Link

end LightBridge
