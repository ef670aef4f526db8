import LightBridge.Family
import LightBridge.Json.Scan
import LightBridge.Text.Quoted
import LightBridge.Text.Utf8

/-!
# Faults

Everything a caller can be told, with one wording for each cause. What a bulb
cannot do and what a bridge sends out of place is logged instead.
-/

set_option autoImplicit false

namespace LightBridge

inductive Fault where
  | socket (action cause : String)
  | utf8 (fault : Text.Utf8Fault)
  | json (issue : Json.Issue)
  | queueFull (capacity : Nat)
  | queueClosed
  | invalidId (id : String)
  | invalidValue (key reason : String)
  | unsupportedZone (family : Family) (zone : UInt8)
  /-- The family belongs to bridges of another generation. -/
  | familyMismatch (family : Family) (protocol : Protocol)
  | unknownProtocol (number : Nat)
  | malformedPacket (text : String)
  deriving DecidableEq, Repr

namespace Fault

def utf8Text (f : Text.Utf8Fault) : String :=
  let length := match f.errorLength with
    | none => "None"
    | some n => "Some(" ++ Text.natural n ++ ")"
  "Utf8Error \x7b valid_up_to: " ++ Text.natural f.validUpTo ++ ", error_len: " ++ length
    ++ " \x7d"

def issueText : Json.Issue → String
  | .truncated => "the text ends too early"
  | .malformed => "the text is not JSON"
  | .mismatched => "a value has another shape"

def message : Fault → String
  | socket action cause => "socket " ++ action ++ " error: Kind(" ++ cause ++ ")"
  | utf8 fault => "utf8 decoding error: " ++ utf8Text fault
  | json issue => "failed to load json: " ++ issueText issue
  | queueFull capacity =>
    "command queue is full (" ++ Text.natural capacity ++ " frames pending)"
  | queueClosed => "command queue is closed"
  | invalidId id => "invalid bridge id " ++ Text.quoted id
  | invalidValue key reason =>
    "invalid configuration value for " ++ key ++ ": " ++ reason
  | unsupportedZone family zone =>
    "zone " ++ Text.natural zone.toNat ++ " is not available for " ++ family.name ++ " bulbs"
  | familyMismatch family protocol =>
    family.name ++ " bulbs cannot be driven by a " ++ protocol.name ++ " bridge"
  | unknownProtocol number => "unknown protocol version " ++ Text.natural number
  | malformedPacket text => "malformed packet: " ++ text

end Fault

end LightBridge
