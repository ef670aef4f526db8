import LightBridge.Config
import LightBridge.Json.Reader
import LightBridge.Json.Value

/-!
# Configurations as JSON

A configuration is a record whose members may come in any order and of which
only the host is needed. Members of other names are ignored. A list of the
values in order is read as well.
-/

set_option autoImplicit false

namespace LightBridge.Config

open Json

/-! ## Writing -/

def protocolText : Protocol → String
  | .v2 => "V2"
  | .v3 => "V3"
  | .v6 => "V6"

def optional (key : String) : Option Value → List (String × Value)
  | some v => [(key, v)]
  | none => []

def toJson (c : Config) : Value :=
  .record (
    [("host", .text c.host.text)] ++
    optional "id" (c.id.map .text) ++
    [("protocol", .text (protocolText c.protocol))] ++
    optional "port" (c.port.map fun p => .integer p.toNat) ++
    [("password", .list [.integer c.password.1.toNat, .integer c.password.2.toNat]),
      ("repeat", .integer c.copies.toNat),
      ("delayMs", .integer c.delay.toNat),
      ("refreshSecs", .integer c.refresh.toNat)])

/-! ## Reading -/

def readNatural (most : Nat) (cs : List Char) : Scan Nat :=
  (readInteger 0 most cs).map fun p => (p.1.toNat, p.2)

def readByte (cs : List Char) : Scan UInt8 :=
  (readNatural 255 cs).map fun p => (p.1.toUInt8, p.2)

def readPort (cs : List Char) : Scan UInt16 :=
  (readNatural 65535 cs).map fun p => (p.1.toUInt16, p.2)

def readLong (cs : List Char) : Scan UInt64 :=
  (readNatural (UInt64.size-1) cs).map fun p => (p.1.toUInt64, p.2)

def readHost (cs : List Char) : Scan Address :=
  match readText cs with
  | .error e => .error e
  | .ok (s, r) =>
    match Address.parse? s with
    | some a => .ok (a, r)
    | none => .error .mismatched

def readProtocolName (cs : List Char) : Scan Protocol :=
  match readText cs with
  | .error e => .error e
  | .ok ("V2", r) => .ok (.v2, r)
  | .ok ("V3", r) => .ok (.v3, r)
  | .ok ("V6", r) => .ok (.v6, r)
  | .ok _ => .error .mismatched

def readNull (cs : List Char) : Except Issue (List Char) :=
  match valueStart cs with
  | .error e => .error e
  | .ok ('n'::r) => word ['u', 'l', 'l'] r
  | .ok cs => .error (refusal cs)

def readTagged (cs : List Char) : Scan Protocol :=
  match readProtocolName cs with
  | .error e => .error e
  | .ok (p, r) =>
    match readColon r with
    | .error e => .error e
    | .ok r =>
      match readNull r with
      | .error e => .error e
      | .ok r =>
        match skipBlank r with
        | '\x7d'::r => .ok (p, r)
        | [] => .error .truncated
        | _ => .error .malformed

/-- The name of a generation, alone or as the only member of a record. -/
def readProtocol (cs : List Char) : Scan Protocol :=
  match skipBlank cs with
  | [] => .error .truncated
  | '"'::r => readProtocolName ('"'::r)
  | '\x7b'::r => readTagged r
  | _ => .error .malformed

def readPassword (cs : List Char) : Scan (UInt8 × UInt8) :=
  match valueStart cs with
  | .error e => .error e
  | .ok ('['::r) =>
    match readItem (.error .mismatched) readByte true r with
    | .error e => .error e
    | .ok (a, r) =>
      match readItem (.error .mismatched) readByte false r with
      | .error e => .error e
      | .ok (b, r) => (closeList r).map ((a, b), ·)
  | .ok cs => .error (refusal cs)

structure Draft where
  host : Option Address
  id : Option (Option String)
  protocol : Option Protocol
  port : Option (Option UInt16)
  password : Option (UInt8 × UInt8)
  copies : Option UInt8
  delay : Option UInt64
  refresh : Option UInt64

namespace Draft

def empty : Draft := ⟨none, none, none, none, none, none, none, none⟩

def member (key : String) (d : Draft) (cs : List Char) : Scan Draft :=
  if key = "host" then
    (readField d.host.isSome readHost cs).map fun p => ({ d with host := some p.1 }, p.2)
  else if key = "id" then
    (readField d.id.isSome (readOption readText) cs).map fun p =>
      ({ d with id := some p.1 }, p.2)
  else if key = "protocol" then
    (readField d.protocol.isSome readProtocol cs).map fun p =>
      ({ d with protocol := some p.1 }, p.2)
  else if key = "port" then
    (readField d.port.isSome (readOption readPort) cs).map fun p =>
      ({ d with port := some p.1 }, p.2)
  else if key = "password" then
    (readField d.password.isSome readPassword cs).map fun p =>
      ({ d with password := some p.1 }, p.2)
  else if key = "repeat" then
    (readField d.copies.isSome readByte cs).map fun p => ({ d with copies := some p.1 }, p.2)
  else if key = "delayMs" then
    (readField d.delay.isSome readLong cs).map fun p => ({ d with delay := some p.1 }, p.2)
  else if key = "refreshSecs" then
    (readField d.refresh.isSome readLong cs).map fun p => ({ d with refresh := some p.1 }, p.2)
  else (skipField cs).map (d, ·)

/-- Only the host has no default. -/
def finish (d : Draft) : Except Issue Config :=
  match d.host with
  | none => .error .mismatched
  | some host =>
    .ok ⟨host, d.id.getD none, d.protocol.getD defaultProtocol, d.port.getD none,
      d.password.getD (0, 0), d.copies.getD defaultCopies, d.delay.getD defaultDelay,
      d.refresh.getD 0⟩

end Draft

def readMembersOf (cs : List Char) : Scan Config :=
  match readMembers Draft.member (cs.length+1) true .empty cs with
  | .error e => .error e
  | .ok (d, rest) => d.finish.map (·, rest)

def readItemsOf (cs : List Char) : Except Issue (Config × List Char) := do
  let (host, cs) ← readItem (.error .mismatched) readHost true cs
  let (id, cs) ← readItem (.ok none) (readOption readText) false cs
  let (protocol, cs) ← readItem (.ok defaultProtocol) readProtocol false cs
  let (port, cs) ← readItem (.ok none) (readOption readPort) false cs
  let (password, cs) ← readItem (.ok (0, 0)) readPassword false cs
  let (copies, cs) ← readItem (.ok defaultCopies) readByte false cs
  let (delay, cs) ← readItem (.ok defaultDelay) readLong false cs
  let (refresh, cs) ← readItem (.ok 0) readLong false cs
  .ok (⟨host, id, protocol, port, password, copies, delay, refresh⟩, cs)

def ofJson (s : String) : Except Issue Config :=
  readDocument (readRecord readMembersOf readItemsOf) s

end LightBridge.Config
