/-!
# Commands awaiting an acknowledgment

The sequence numbers of commands that were handed out and not acknowledged,
in increasing order, each with the time it was handed out last. Times are
microseconds since a common origin and need not increase.
-/

set_option autoImplicit false

namespace LightBridge

structure Pending where
  entries : List (UInt8 × Nat)
  deriving DecidableEq, Repr

namespace Pending

def empty : Pending := ⟨[]⟩

/-- How long a command may stay unacknowledged, in microseconds. -/
def patience : Nat := 2000000

def insert (p : Pending) (sequence : UInt8) (now : Nat) : Pending :=
  ⟨p.entries.filter (·.1 < sequence) ++ (sequence, now) :: p.entries.filter (sequence < ·.1)⟩

def contains (p : Pending) (sequence : UInt8) : Bool := p.entries.any (·.1 == sequence)

/-- Removes a number, and says whether it was pending. -/
def acknowledge (p : Pending) (sequence : UInt8) : Pending × Bool :=
  (⟨p.entries.filter (·.1 != sequence)⟩, p.contains sequence)

/-- Whether an entry is overdue at `now`. A time before it counts as none. -/
def isLost (now : Nat) (entry : UInt8 × Nat) : Bool := patience < now-entry.2

def prune (p : Pending) (now : Nat) : Pending × List UInt8 :=
  (⟨p.entries.filter fun e => !isLost now e⟩, (p.entries.filter (isLost now)).map (·.1))

def size (p : Pending) : Nat := p.entries.length

def isEmpty (p : Pending) : Bool := p.entries.isEmpty

end Pending

end LightBridge
