import LightBridge.Address
import LightBridge.Notice
import LightBridge.Text.Upper

/-!
# Configurations

What a connection to a bridge needs to know. A bridge without a usable id is
spoken to as one of the oldest generation, whatever the configuration says.
-/

set_option autoImplicit false

namespace LightBridge

structure Config where
  host : Address
  id : Option String
  protocol : Protocol
  /-- Overrides the port of the generation. -/
  port : Option UInt16
  password : UInt8 × UInt8
  /-- The sends of a repeatable frame. -/
  copies : UInt8
  /-- The pause between two sends, in milliseconds. -/
  delay : UInt64
  /-- The time between two look-ups, in seconds; 0 for none. -/
  refresh : UInt64
  deriving DecidableEq, Repr

namespace Config

def defaultProtocol : Protocol := .v3

def defaultCopies : UInt8 := 1

def defaultDelay : UInt64 := 100

def create (host : Address) (id : Option String) (protocol : Protocol) : Config :=
  ⟨host, id, protocol, none, (0, 0), defaultCopies, defaultDelay, 0⟩

def maxPort : UInt16 := 65000

def maxCopies : UInt8 := 5

def maxDelay : UInt64 := 200

def validate (c : Config) : Except Fault Unit :=
  if c.port.any fun p => p = 0 || maxPort < p then
    .error (.invalidValue "port" "must be within 1..=65000")
  else if c.copies = 0 || maxCopies < c.copies then
    .error (.invalidValue "repeat" "must be within 1..=5")
  else if c.delay = 0 || maxDelay < c.delay then
    .error (.invalidValue "delayMs" "must be within 1..=200")
  else .ok ()

def idSize : Nat := 12

def bridgeId (c : Config) : Option String :=
  match c.id with
  | some id => if id.utf8ByteSize = idSize then some (Text.upper id) else none
  | none => none

def idNotices (c : Config) : List Notice :=
  match c.id with
  | some id => if id.utf8ByteSize = idSize then [] else [.unusableId id]
  | none => []

def effectiveProtocol (c : Config) : Protocol :=
  if c.bridgeId.isSome then c.protocol else .v2

def controlPort (c : Config) : UInt16 := c.port.getD c.effectiveProtocol.defaultPort

def control (c : Config) : Endpoint := ⟨c.host, c.controlPort⟩

end Config

end LightBridge
