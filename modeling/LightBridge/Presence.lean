import LightBridge.Event

/-!
# Presence

Whether a bridge can be reached is told by the rounds of discovery alone. An
answer of the bridge also calls for a keep-alive of its session, though not for
more than one a second.
-/

set_option autoImplicit false

namespace LightBridge

structure Presence where
  online : Bool
  /-- When discovery last called for a keep-alive, in microseconds. -/
  asked : Option Nat
  deriving DecidableEq, Repr

namespace Presence

def unknown : Presence := ⟨false, none⟩

def throttle : Nat := 1000000

def keepAliveDue (wall : Nat) (p : Presence) : Bool :=
  match p.asked with
  | none => true
  | some t => throttle ≤ wall-t

/-- Ids are the same up to the case of ASCII letters. -/
def sameId (a b : String) : Bool := a.toList.map Char.toLower == b.toList.map Char.toLower

/-- Takes an outcome for the bridge `id`, and says whether it calls for a
keep-alive, which only a bridge with a session answers. -/
def note (id : String) (hasSession : Bool) (wall : Nat) (p : Presence) :
    Outcome → Presence × List Notice × Bool
  | .found bridge =>
    if sameId bridge.id id then
      let notices := if p.online then [] else [.online id bridge.address]
      if hasSession && p.keepAliveDue wall then (⟨true, some wall⟩, notices, true)
      else ({ p with online := true }, notices, false)
    else (p, [], false)
  | .notFound => ({ p with online := false }, if p.online then [.offline id] else [], false)

/-- Takes the outcomes among some events, each followed by its log lines. -/
def noteAll (id : String) (hasSession : Bool) (wall : Nat) :
    Presence → List Event → Presence × List Event × Bool
  | p, [] => (p, [], false)
  | p, event::events =>
    let (p, notices, asks) := match event with
      | .ended outcome => p.note id hasSession wall outcome
      | _ => (p, [], false)
    let (p, rest, more) := noteAll id hasSession wall p events
    (p, event :: Event.ofNotices notices ++ rest, asks || more)

end Presence

end LightBridge
