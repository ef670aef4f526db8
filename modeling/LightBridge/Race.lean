/-!
# Work against a limit

Work that takes some milliseconds runs until it is done or a limit stops it. A
wait that watches the work lets it win a tie; a wait that gives it a grace and
then cancels it does not.
-/

set_option autoImplicit false

namespace LightBridge

/-- Times in milliseconds; what never happens has none. -/
structure Race where
  work : Option Nat
  limit : Option Nat
  workWinsTie : Bool
  deriving DecidableEq, Repr

inductive Finish where
  | worked (time : Nat)
  | stopped (time : Nat)
  | never
  deriving DecidableEq, Repr

namespace Race

def untilShutdown (work limit : Option Nat) : Race := ⟨work, limit, true⟩

def timeoutText : String := "operation timed out"

def timeout (work limit : Option Nat) : Race := ⟨work, limit, true⟩

/-- Waiting for a task, which is cancelled after its grace. -/
def joinOrCancel (work limit : Option Nat) : Race := ⟨work, limit, false⟩

def finish (r : Race) : Finish :=
  match r.work, r.limit with
  | some w, some l => if w < l || (r.workWinsTie && w == l) then .worked w else .stopped l
  | some w, none => .worked w
  | none, some l => .stopped l
  | none, none => .never

/-- What can be told of the race after some milliseconds. -/
def finishWithin (horizon : Nat) (r : Race) : Finish :=
  match r.finish with
  | .worked t => if t ≤ horizon then .worked t else .never
  | .stopped t => if t ≤ horizon then .stopped t else .never
  | .never => .never

end Race

end LightBridge
