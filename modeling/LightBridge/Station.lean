import LightBridge.Light
import LightBridge.Lookup
import LightBridge.Timeline

/-!
# Stations

A station is what runs for one bridge: the link, the look-up if the bridge has
a usable id, and the lights on it. Calls take effect at once and only fill the
queue; the loops run when time passes or a datagram arrives.
-/

set_option autoImplicit false

namespace LightBridge

structure Station where
  /-- The clock of all pauses, in milliseconds. -/
  clock : Nat
  /-- The clock of all ages, in microseconds. -/
  wall : Nat
  link : Link
  lookup : Option Lookup
  lights : List Light

inductive Arrival where
  | control (bytes : List UInt8)
  | answer (source : Endpoint) (bytes : List UInt8)
  deriving DecidableEq, Repr

namespace Arrival

def control? : Arrival → Option (List UInt8)
  | control bytes => some bytes
  | _ => none

def answer? : Arrival → Option (Endpoint × List UInt8)
  | answer source bytes => some (source, bytes)
  | _ => none

end Arrival

namespace Station

def start (link : Link) (lookup : Option Lookup) (lights : List Light) : Station :=
  ⟨0, 0, link, lookup, lights⟩

/-! ## Running the loops -/

/-- The turn of the look-up, with the keep-alive that it calls for. -/
def search (arrival : Option Arrival) (s : Station) : Station × List Event :=
  match s.lookup with
  | none => (s, [])
  | some lookup =>
    let (lookup, events, asks) :=
      lookup.settle s.link.session.isSome s.wall (arrival.bind Arrival.answer?) s.clock
    let (link, notices) := if asks then s.link.keepAlive s.wall else (s.link, [])
    ({ s with link, lookup := some lookup }, events ++ Event.ofNotices notices)

def turn (arrival : Option Arrival) (s : Station) : Station × List Event :=
  let (link, sent) := s.link.drain s.clock
  let (link, notices) := link.hear s.wall (arrival.bind Arrival.control?)
  let (s, events) := { s with link }.search arrival
  (s, Event.ofFrames sent ++ Event.ofNotices notices ++ events)

/-- Lets all loops run as far as they can within a millisecond. -/
def settle (arrival : Option Arrival) (s : Station) : Station × List Event :=
  let (s, events) := s.turn arrival
  let (link, sent) := s.link.drain s.clock
  ({ s with link }, events ++ Event.ofFrames sent)

def settleAt (now : Nat) (s : Station) : Station × List Event :=
  { s with clock := now }.settle none

def advance (milliseconds : Nat) (s : Station) : Station × Trace :=
  Timeline.pass settleAt milliseconds s.clock s

/-- Lets at most `n` pauses of the send loop pass. -/
def pauses : Nat → Station → Station × List Event
  | 0, s => (s, [])
  | n+1, s =>
    match s.link.queue.wake? with
    | none => (s, [])
    | some wake =>
      let (s, events) := s.advance (wake-s.clock)
      let (s, rest) := pauses n s
      (s, events.map (·.2) ++ rest)

/-- Lets time pass until no frame waits and the last pause is over. -/
def flush (s : Station) : Station × List Event :=
  let (s, events) := s.settle none
  let (s, rest) := s.pauses (s.link.queue.waiting.length+1)
  (s, events ++ rest)

/-! ## Ending the loops -/

def disposeQueue (s : Station) : Station × List Event :=
  let (s, events) := s.turn none
  let (link, sent) := s.link.disposeQueue
  ({ s with link }, events ++ Event.ofFrames sent)

def disposeSession (s : Station) : Station × List Event :=
  let (s, events) := s.settle none
  ({ s with link := s.link.stopReceiver }, events)

def dispose (s : Station) : Station × List Event :=
  let (s, events) := s.settle none
  let (link, sent) := s.link.stopReceiver.disposeQueue
  ({ s with link, lookup := s.lookup.map Lookup.stop }, events ++ Event.ofFrames sent)

/-! ## Calls -/

def operate (light : Nat) (operation : Operation) (s : Station) :
    Station × List Notice × Except Fault Unit :=
  match s.lights[light]? with
  | none => (s, [], .ok ())
  | some l =>
    let p := l.operate s.wall s.link operation
    ({ s with link := p.link, lights := s.lights.set light { l with state := p.state } },
      p.notices, p.result)

def addLight (light : Light) (s : Station) : Station := { s with lights := s.lights ++ [light] }

def refresh (s : Station) : Station := { s with lookup := s.lookup.map Lookup.refresh }

def withQueue (f : Queue → Queue) (s : Station) : Station :=
  { s with link := { s.link with queue := f s.link.queue } }

def withSession (f : Session → Session) (s : Station) : Station :=
  { s with link := { s.link with session := s.link.session.map f } }

def keepAlive (s : Station) : Station × List Notice :=
  let (link, notices) := s.link.keepAlive s.wall
  ({ s with link }, notices)

def packet (bytes : List UInt8) (s : Station) : Station × List Notice :=
  let (link, notices) := s.link.receive s.wall bytes
  ({ s with link }, notices)

/-- A session after its handshake with a bridge of the given address, whose
frames have left. -/
def handshake (address : List UInt8) (sid1 sid2 : UInt8) (s : Station) : Station × List Notice :=
  let (s, opened) := s.flush
  let (s, notices) := s.packet (Packet.sessionIdBytes address sid1 sid2)
  let (s, more) := s.packet (Packet.registeredBytes address)
  let (s, left) := s.flush
  (s, opened.filterMap Event.noticed? ++ notices ++ more ++ left.filterMap Event.noticed?)

end Station

end LightBridge
