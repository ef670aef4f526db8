import LightBridge.Discovery.Answer
import LightBridge.Frame
import LightBridge.Notice

/-!
# Events

What can be seen from outside while time passes: datagrams that leave, outcomes
of rounds of discovery, and log lines.
-/

set_option autoImplicit false

namespace LightBridge

inductive Outcome where
  | found (bridge : Discovered)
  | notFound
  deriving DecidableEq, Repr

inductive Event where
  | sent (bytes : List UInt8)
  | probed (text : String)
  | ended (outcome : Outcome)
  | noticed (notice : Notice)
  deriving DecidableEq, Repr

namespace Event

def sent? : Event → Option (List UInt8)
  | sent bytes => some bytes
  | _ => none

def probed? : Event → Option String
  | probed text => some text
  | _ => none

def ended? : Event → Option Outcome
  | ended outcome => some outcome
  | _ => none

def noticed? : Event → Option Notice
  | noticed notice => some notice
  | _ => none

def ofFrames (fs : List Frame) : List Event := fs.map fun f => sent f.bytes

def ofNotices (ns : List Notice) : List Event := ns.map noticed

end Event

/-- Events with the milliseconds since some start. -/
abbrev Trace := List (Nat × Event)

namespace Trace

def pick {α : Type} (part? : Event → Option α) (t : Trace) : List (Nat × α) :=
  t.filterMap fun e => (part? e.2).map (e.1, ·)

def sent (t : Trace) : List (Nat × List UInt8) := t.pick Event.sent?

def probes (t : Trace) : List (Nat × String) := t.pick Event.probed?

def outcomes (t : Trace) : List Outcome := (t.pick Event.ended?).map (·.2)

def notices (t : Trace) : List Notice := (t.pick Event.noticed?).map (·.2)

end Trace

end LightBridge
