/-!
# Protocol generations

The three generations of bridges, their version numbers and the port each one
listens on for commands.
-/

set_option autoImplicit false

namespace LightBridge

inductive Protocol where
  /-- Single-shot commands, neither discovery nor feedback. -/
  | v2
  /-- Three-byte commands, discoverable. -/
  | v3
  /-- Checksummed frames inside a session. -/
  | v6
  deriving DecidableEq, Repr

namespace Protocol

def number : Protocol → Nat
  | v2 => 2
  | v3 => 3
  | v6 => 6

def ofNumber? : Nat → Option Protocol
  | 2 => some v2
  | 3 => some v3
  | 6 => some v6
  | _ => none

theorem ofNumber?_number (p : Protocol) : ofNumber? p.number = some p := by cases p <;> rfl

def name : Protocol → String
  | v2 => "v2"
  | v3 => "v3"
  | v6 => "v6"

def defaultPort : Protocol → UInt16
  | v2 => 50000
  | v3 => 8899
  | v6 => 5987

end Protocol

/-- The port on which bridges answer probes. -/
def discoveryPort : UInt16 := 48899

end LightBridge
