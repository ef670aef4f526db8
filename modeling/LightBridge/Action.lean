import LightBridge.Station

/-!
# Actions

What can be done to a station, as data, and what each action shows.
-/

set_option autoImplicit false

namespace LightBridge

inductive Action where
  | operate (light : Nat) (operation : Operation)
  | addLight (light : Light)
  | enqueue (frame : Frame)
  | fill (frame : Frame) (copies : Nat)
  | setDelay (microseconds : Nat)
  | setCopies (n : Nat)
  | keepAlive
  | packet (bytes : List UInt8)
  | setPassword (pw1 pw2 : UInt8)
  | setSequence (n : UInt8)
  | nextHeader
  | refresh
  | advance (milliseconds : Nat)
  | flush
  | arrive (arrival : Arrival)
  | disposeQueue
  | disposeSession
  | dispose

structure Report where
  result : Except Fault Unit := .ok ()
  /-- The frames that were accepted of those offered. -/
  accepted : Nat := 0
  header : Option Wire.Header := none
  trace : Trace := []

namespace Report

def ofEvents (events : List Event) : Report := { trace := Timeline.stamp 0 events }

def ofNotices (notices : List Notice) : Report := ofEvents (Event.ofNotices notices)

end Report

namespace Station

def step (s : Station) : Action → Station × Report
  | .operate light operation =>
    let (s, notices, result) := s.operate light operation
    (s, { Report.ofNotices notices with result })
  | .addLight light => (s.addLight light, {})
  | .enqueue frame =>
    let (queue, result) := s.link.queue.enqueue frame
    (s.withQueue fun _ => queue, { result })
  | .fill frame copies =>
    let (queue, accepted, result) := s.link.queue.fill frame copies
    (s.withQueue fun _ => queue, { result, accepted })
  | .setDelay microseconds => (s.withQueue (·.setDelay microseconds), {})
  | .setCopies n => (s.withQueue (·.setCopies n), {})
  | .keepAlive => s.keepAlive.map id .ofNotices
  | .packet bytes => (s.packet bytes).map id .ofNotices
  | .setPassword pw1 pw2 => (s.withSession (·.setPassword pw1 pw2), {})
  | .setSequence n => (s.withSession (·.setSequence n), {})
  | .nextHeader =>
    let (link, header, notices) := s.link.nextHeader s.wall
    ({ s with link }, { Report.ofNotices notices with header })
  | .refresh => (s.refresh, {})
  | .advance milliseconds =>
    let (s, trace) := s.advance milliseconds
    (s, { trace })
  | .flush => s.flush.map id .ofEvents
  | .arrive arrival => (s.settle arrival).map id .ofEvents
  | .disposeQueue => s.disposeQueue.map id .ofEvents
  | .disposeSession => s.disposeSession.map id .ofEvents
  | .dispose => s.dispose.map id .ofEvents

/-- Whether an action stops the program. -/
def overflows (s : Station) : Action → Bool
  | .operate light operation =>
    s.lights[light]?.any fun l => (l.operate? s.wall s.link operation).isNone
  | _ => false

/-- A step of a program whose sums are checked. -/
def step? (s : Station) (a : Action) : Option (Station × Report) :=
  if s.overflows a then none else some (s.step a)

end Station

end LightBridge
