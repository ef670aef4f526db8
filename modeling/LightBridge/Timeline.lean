/-!
# Passing time

Time moves in whole milliseconds. At each of them everything that is due runs
as far as it can, and what it shows is recorded with the time since the start.
-/

set_option autoImplicit false

namespace LightBridge.Timeline

variable {σ ε : Type}

def stamp (time : Nat) (events : List ε) : List (Nat × ε) := events.map (time, ·)

/-- Runs at each of the `n` milliseconds after `now`, of which `elapsed` since
the start have passed. -/
def later (run : Nat → σ → σ × List ε) : Nat → Nat → Nat → σ → σ × List (Nat × ε)
  | 0, _, _, s => (s, [])
  | n+1, now, elapsed, s =>
    let (s, events) := run (now+1) s
    let (s, rest) := later run n (now+1) (elapsed+1) s
    (s, stamp (elapsed+1) events ++ rest)

def pass (run : Nat → σ → σ × List ε) (n now : Nat) (s : σ) : σ × List (Nat × ε) :=
  let (s, events) := run now s
  let (s, rest) := later run n now 0 s
  (s, stamp 0 events ++ rest)

end LightBridge.Timeline
