import LightBridge.Discovery.Config
import LightBridge.Event
import LightBridge.Receiver
import LightBridge.Wire

/-!
# Discovery

A round sends both probes, and again after every interval, until a bridge
answers or the attempts run out. It ends with at most one outcome: the first
well-formed answer, or none one interval after the last probes. At most one
round is under way; answers outside a round are ignored.

Rounds are numbered, and each has a resend loop that knows its number. A loop
outlives a round that ends early: it finds out when it wakes, and is gone.
-/

set_option autoImplicit false

namespace LightBridge

structure Resend where
  round : Nat
  /-- The pairs of probes that it may still send. -/
  left : Nat
  /-- The millisecond at which it wakes. -/
  due : Nat
  deriving DecidableEq, Repr

structure Discovery where
  config : Discovery.Config
  round : Nat
  active : Bool
  resends : List Resend
  receiver : Receiver
  deriving DecidableEq, Repr

namespace Discovery

def start (config : Config) : Discovery := ⟨config, 0, false, [], .fresh⟩

def sendDiscover (d : Discovery) : Discovery :=
  if d.receiver = .stopped || d.active then d
  else
    { d with
      round := d.round+1
      active := true
      resends := d.resends ++ [⟨d.round+1, d.config.attempts, 0⟩] }

def stopResend (d : Discovery) : Discovery := { d with active := false }

def isCurrent (d : Discovery) (round : Nat) : Bool := d.active && d.round == round

/-! ## Resending -/

def probePair : List Event := [.probed Wire.probe3, .probed Wire.probe6]

/-- Runs a loop until it sleeps again or is gone; without an interval it does
not sleep. The first argument bounds the number of its pairs. -/
def runLoop (now : Nat) : Nat → Discovery → Resend → Discovery × List Event × List Resend
  | 0, d, r => (d, [], [r])
  | n+1, d, r =>
    if now < r.due then (d, [], [r])
    else if !d.isCurrent r.round then (d, [], [])
    else
      match r.left with
      | 0 => (d.stopResend, [.ended .notFound], [])
      | left+1 =>
        let (d, events, rest) :=
          runLoop now n d { r with left, due := now+d.config.wait }
        (d, probePair ++ events, rest)

def runLoops (now : Nat) : List Resend → Discovery → Discovery × List Event × List Resend
  | [], d => (d, [], [])
  | r::rs, d =>
    let (d, events, kept) := runLoop now (r.left+1) d r
    let (d, more, rest) := runLoops now rs d
    (d, events ++ more, kept ++ rest)

def resend (now : Nat) (d : Discovery) : Discovery × List Event :=
  let (d, events, resends) := runLoops now d.resends d
  ({ d with resends }, events)

/-! ## Receiving -/

/-- Takes an answer; in a round the first well-formed one is its outcome. -/
def receive (source : Endpoint) (bs : List UInt8) (d : Discovery) : Discovery × List Event :=
  match Discovered.parse bs source.host with
  | .error fault => (d, [.noticed (.unexpectedAnswer source fault)])
  | .ok bridge => if d.active then (d.stopResend, [.ended (.found bridge)]) else (d, [])

def hear (answer : Option (Endpoint × List UInt8)) (d : Discovery) : Discovery × List Event :=
  match answer, d.receiver with
  | some _, .stopped => (d, [])
  | some (source, bs), _ => d.receive source (Receiver.cut bs)
  | none, _ => (d, [])

/-! ## Running both -/

/-- Lets all loops run as far as they can within a millisecond. The receive
loop comes first when it has not run before, and otherwise last; `before` is
done ahead of the resend loops. -/
def settleAfter (before : Discovery → Discovery) (answer : Option (Endpoint × List UInt8))
    (now : Nat) (d : Discovery) : Discovery × List Event :=
  match d.receiver with
  | .fresh =>
    let (d, heard) := { d with receiver := .listening }.hear answer
    let (d, sent) := (before d).resend now
    (d, heard ++ sent)
  | _ =>
    let (d, sent) := (before d).resend now
    let (d, heard) := d.hear answer
    (d, sent ++ heard)

def settle (answer : Option (Endpoint × List UInt8)) (now : Nat) (d : Discovery) :
    Discovery × List Event :=
  settleAfter id answer now d

def stop (d : Discovery) : Discovery :=
  { d with active := false, resends := [], receiver := .stopped }

/-- Stops all loops, after they had their turn. -/
def dispose (now : Nat) (d : Discovery) : Discovery × List Event :=
  let (d, events) := d.settle none now
  (d.stop, events)

end Discovery

end LightBridge
