import LightBridge.Address
import LightBridge.Protocol

/-!
# Parameters of a discovery

Where probes go, how long to wait between them, and how often to try.
-/

set_option autoImplicit false

namespace LightBridge.Discovery

structure Config where
  target : Endpoint
  /-- The time between two pairs of probes, in microseconds. -/
  interval : Nat
  attempts : Nat
  deriving DecidableEq, Repr

namespace Config

def maxInterval : Nat := 200000

def create (target : Endpoint) (interval attempts : Nat) : Config :=
  ⟨target, min interval maxInterval, attempts⟩

def unicast (host : Address) : Config := create ⟨host, discoveryPort⟩ 1000000 3

def broadcast : Config := unicast (.v4 255 255 255 255)

def wait (c : Config) : Nat := (c.interval+999)/1000

end Config

end LightBridge.Discovery
