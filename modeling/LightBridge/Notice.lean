import LightBridge.Address
import LightBridge.Fault

/-!
# Log lines

What is worth telling but is nobody's fault to handle: operations a bulb lacks,
packets out of place, and changes of a bridge's reach.
-/

set_option autoImplicit false

namespace LightBridge

inductive Stage where
  /-- No session bytes; the next keep-alive asks for them. -/
  | invalid
  /-- Session bytes came; their registration is not confirmed. -/
  | registering
  | valid
  deriving DecidableEq, Repr

def Stage.name : Stage → String
  | invalid => "invalid"
  | registering => "registering"
  | valid => "valid"

inductive Level where
  | info
  | warning
  | error
  deriving DecidableEq, Repr

inductive Notice where
  | lost (sequence : UInt8)
  | rejected (sequence : UInt8)
  /-- A session is given up for want of a confirmation. -/
  | unconfirmed (bridge : String) (stage : Stage)
  | foreignPacket (what mac bridge : String)
  | bridgeFault (bridge : String) (fault : Fault)
  /-- A command is dropped for want of a valid session. -/
  | noSession (bridge : String) (family : Family)
  | sessionLost (bridge : String)
  | unsupported (operation : String) (family : Family)
  | unexpectedAnswer (source : Endpoint) (fault : Fault)
  | unusableId (id : String)
  | connected (protocol : Protocol) (id : Option String) (control : Endpoint)
  | online (id : String) (address : Address)
  | offline (id : String)
  deriving DecidableEq, Repr

namespace Notice

def level : Notice → Level
  | unsupported .. | connected .. | online .. => .info
  | unconfirmed .. | unusableId .. | offline .. => .warning
  | lost .. | rejected .. | foreignPacket .. | bridgeFault .. | noSession .. | sessionLost ..
  | unexpectedAnswer .. => .error

/-- The text for an answer from a source that is spelled `source`. -/
def unexpectedText (source : String) (fault : Fault) : String :=
  "Unexpected data received from " ++ source ++ ": " ++ fault.message

def text : Notice → String
  | lost sequence => "Command not confirmed: " ++ Text.natural sequence.toNat
  | rejected sequence =>
    "Bridge reports an error for command " ++ Text.natural sequence.toNat
  | unconfirmed bridge stage =>
    "Bridge " ++ bridge ++ " did not confirm the " ++ stage.name
      ++ " session, requesting a new one"
  | foreignPacket what mac bridge =>
    what ++ " received from " ++ mac ++ ", expected bridge " ++ bridge
  | bridgeFault bridge fault => "Bridge " ++ bridge ++ ": " ++ fault.message
  | noSession bridge family =>
    "Session with bridge " ++ bridge ++ " not valid yet, dropping " ++ family.name ++ " command"
  | sessionLost bridge => "Session with bridge " ++ bridge ++ " was lost"
  | unsupported operation family =>
    operation ++ " is not supported by " ++ family.name ++ " bulbs"
  | unexpectedAnswer source fault => unexpectedText source.text fault
  | unusableId id =>
    "Bridge id " ++ Text.quoted id ++ " is not 12 characters long, ignoring it"
  | connected protocol id control =>
    "Connected to " ++ protocol.name ++ " bridge " ++ id.getD "without id" ++ " at "
      ++ control.text
  | online id address => "Bridge " ++ id ++ " is online at " ++ address.text
  | offline id => "Bridge " ++ id ++ " is offline"

end Notice

end LightBridge
