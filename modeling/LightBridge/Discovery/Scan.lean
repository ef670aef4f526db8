import LightBridge.Discovery.Answer
import LightBridge.Receiver

/-!
# Scans

A scan probes once and collects the bridges that answer before its time is up.
Of several answers with one id the first counts.
-/

set_option autoImplicit false

namespace LightBridge.Discovered

/-- Adds a bridge, ordered by id, unless its id is already there. -/
def collect (b : Discovered) : List Discovered → List Discovered
  | [] => [b]
  | c::cs =>
    if b.id = c.id then c::cs
    else if b.id < c.id then b::c::cs
    else c :: collect b cs

/-- The answers that arrive before `timeout`, in order of their time. -/
def inTime (timeout : Nat) (answers : List (Nat × List UInt8)) : List (List UInt8) :=
  ((answers.filter fun a => a.1 < timeout).mergeSort fun a b => a.1 ≤ b.1).map (·.2)

/-- The bridges behind answers from `source`, by id. What cannot be read is
passed over. -/
def scan (timeout : Nat) (answers : List (Nat × List UInt8)) (source : Address) :
    List Discovered :=
  (inTime timeout answers).foldl (fun found bs =>
    match parse (Receiver.cut bs) source with
    | .ok b => collect b found
    | .error _ => found) []

end LightBridge.Discovered
