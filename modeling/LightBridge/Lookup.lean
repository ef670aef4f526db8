import LightBridge.Discovery
import LightBridge.Presence

/-!
# Looking a bridge up

A bridge with an id is looked up by discovery, on request and periodically.
-/

set_option autoImplicit false

namespace LightBridge

/-- A periodic request, with times in milliseconds. -/
structure Refresher where
  interval : Nat
  due : Nat
  deriving DecidableEq, Repr

structure Lookup where
  bridge : String
  discovery : Discovery
  presence : Presence
  refresher : Option Refresher
  deriving DecidableEq, Repr

namespace Lookup

/-- A look-up of a bridge at its own address, every `refresh` seconds unless
that is 0. -/
def start (bridge : String) (host : Address) (refresh : Nat) : Lookup :=
  ⟨bridge, .start (.unicast host), .unknown, if refresh = 0 then none else some ⟨refresh*1000, 0⟩⟩

def refresh (l : Lookup) : Lookup := { l with discovery := l.discovery.sendDiscover }

def isDue (now : Nat) (l : Lookup) : Bool := l.refresher.any (·.due ≤ now)

def postponed (now : Nat) (l : Lookup) : Option Refresher :=
  l.refresher.map fun r => if r.due ≤ now then { r with due := now+r.interval } else r

/-- Lets the loops run as far as they can within a millisecond, and says
whether a keep-alive of the session is called for. -/
def settle (hasSession : Bool) (wall : Nat) (answer : Option (Endpoint × List UInt8)) (now : Nat)
    (l : Lookup) : Lookup × List Event × Bool :=
  let request := if l.isDue now then Discovery.sendDiscover else id
  let (discovery, events) := l.discovery.settleAfter request answer now
  let (presence, events, asks) := l.presence.noteAll l.bridge hasSession wall events
  ({ l with discovery, presence, refresher := l.postponed now }, events, asks)

def stop (l : Lookup) : Lookup := { l with discovery := l.discovery.stop, refresher := none }

end Lookup

end LightBridge
