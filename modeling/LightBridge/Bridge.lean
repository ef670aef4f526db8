import LightBridge.Config.Json
import LightBridge.Station

/-!
# Bridges

A bridge is a station that was set up from a configuration. A bridge with a
usable id is looked up; one with sessions starts to negotiate a session.
-/

set_option autoImplicit false

namespace LightBridge

structure Bridge where
  config : Config
  protocol : Protocol
  id : Option String
  station : Station

namespace Bridge

def startQueue (c : Config) : Queue :=
  { Queue.start with delay := c.delay.toNat, copies := max c.copies.toNat 1 }

def startSession (c : Config) : Option Session :=
  match c.bridgeId, c.effectiveProtocol with
  | some id, .v6 => some (.start id c.password)
  | _, _ => none

def startStation (c : Config) : Station :=
  .start (.start (startQueue c) (startSession c))
    (c.bridgeId.map fun id => .start id c.host c.refresh.toNat) []

def connect (c : Config) : Except Fault (Bridge × List Notice) :=
  match c.validate with
  | .error fault => .error fault
  | .ok () =>
    .ok (⟨c, c.effectiveProtocol, c.bridgeId, startStation c⟩,
      [.connected c.effectiveProtocol c.bridgeId c.control])

def open? (text : String) : Except Fault (Bridge × List Notice) :=
  match Config.ofJson text with
  | .error issue => .error (.json issue)
  | .ok c => connect c

/-- Whether the last look-up found the bridge. One that is never looked up
counts as reachable. -/
def isOnline (b : Bridge) : Bool := b.station.lookup.all (·.presence.online)

def hasSession (b : Bridge) : Bool := b.station.link.session.isSome

def availableBulbs (b : Bridge) : List Bulb := Bulb.available b.protocol

def bulb (b : Bridge) (family : Family) (zone : UInt8) : Except Fault Bulb :=
  Bulb.create b.protocol b.hasSession family zone

def light (b : Bridge) (family : Family) (zone : UInt8) (name : Option String) :
    Except Fault Light :=
  (b.bulb family zone).map (Light.create · name)

def sessionDiagnostics (b : Bridge) : Json.Value :=
  match b.station.link.session with
  | none => .null
  | some s =>
    .record [
      ("state", .text s.stage.name),
      ("id", .text s.idText),
      ("pending_acks", .integer s.pending.size)]

def diagnostics (b : Bridge) : Json.Value :=
  let queue := b.station.link.queue
  .record [
    ("host", .text b.config.host.text),
    ("port", .integer b.config.controlPort.toNat),
    ("id", match b.id with
      | some id => .text id
      | none => .null),
    ("version", .text b.protocol.name),
    ("online", .bool b.isOnline),
    ("queue", .record [
      ("pending", .integer queue.waiting.length),
      ("delay_ms", .integer queue.delay),
      ("repeat", .integer queue.copies)]),
    ("session", b.sessionDiagnostics)]

end Bridge

end LightBridge
