import LightBridge.Proofs.Split
import LightBridge.Session
import Mathlib.Data.List.DropRight

/-!
# The history of a session

A session sees packets, keep-alives, requests for a header and changes of its
settings, in any order and at any time. What it has become is told by this
history alone: its session bytes by the last packet that handed some out, its
flag by the last input that touched it, and its stage by the inputs since the
session bytes came.
-/

set_option autoImplicit false

namespace LightBridge.Session

inductive Input where
  | packet (bytes : List UInt8)
  | keepAlive
  | nextHeader
  | setPassword (pw1 pw2 : UInt8)
  | setSequence (n : UInt8)
  deriving DecidableEq, Repr

/-- The session after an input, with the frame that it offers to the queue. -/
def take (now : Nat) (s : Session) : Input → Session × Option Frame
  | .packet bytes => ((s.receive now bytes).1, (s.receive now bytes).2.1)
  | .keepAlive => ((s.keepAlive now).1, some (s.keepAlive now).2.1)
  | .nextHeader => ((s.nextHeader now).1, none)
  | .setPassword pw1 pw2 => (s.setPassword pw1 pw2, none)
  | .setSequence n => (s.setSequence n, none)

/-- The session after inputs, each with the time at which it came. -/
def run : List (Nat × Input) → Session → Session
  | [], s => s
  | (now, i)::is, s => run is (s.take now i).1

/-- An input with the frame that the session offered to the queue. -/
structure Turn where
  input : Input
  offered : Option Frame
  deriving DecidableEq, Repr

def history : List (Nat × Input) → Session → List Turn
  | [], _ => []
  | (now, i)::is, s => ⟨i, (s.take now i).2⟩ :: history is (s.take now i).1

theorem run_append (is js : List (Nat × Input)) (s : Session) :
    run (is++js) s = run js (run is s) := by
  induction is generalizing s with
  | nil => rfl
  | cons i is ih => exact ih _

namespace Turn

variable (bridge : String)

def packet? (t : Turn) : Option Packet :=
  match t.input with
  | .packet bytes => (Packet.parse bytes).toOption
  | _ => none

/-- The session bytes that the bridge hands out. -/
def ids? (t : Turn) : Option (UInt8 × UInt8) :=
  match t.packet? with
  | some (.sessionId mac sid1 sid2) => if mac = bridge then some (sid1, sid2) else none
  | _ => none

def opens (t : Turn) : Bool := (t.ids? bridge).isSome

def confirms (t : Turn) : Bool := t.packet? == some (.registered bridge)

def echoes (t : Turn) : Bool := t.packet? == some (.echo bridge)

def asks (t : Turn) : Bool := t.input == .keepAlive

/-- Whether a keep-alive asked for an echo, and not for a new session. -/
def probes (t : Turn) : Bool := t.offered.any (·.identity == Category.keepAlive.identity 0 0)

/-- What an input does to the flag. A keep-alive that does not ask for an echo
leaves no confirmation outstanding. -/
def flag? (t : Turn) : Option Bool :=
  if t.opens bridge then some true
  else if t.confirms bridge || t.echoes bridge then some false
  else if t.asks then some t.probes
  else none

end Turn

/-- Whether the last input that touched the flag set it. -/
def outstanding (bridge : String) (h : List Turn) : Bool :=
  (h.filterMap (Turn.flag? bridge)).getLast?.getD false

/-- The history up to the last session bytes of the bridge. -/
def upToIds (bridge : String) (h : List Turn) : List Turn := h.rdropWhile (!·.opens bridge)

/-- The history since the last session bytes of the bridge. -/
def sinceIds (bridge : String) (h : List Turn) : List Turn := h.rtakeWhile (!·.opens bridge)

/-- Session bytes came, and no keep-alive since then found a confirmation
outstanding. -/
def Held (bridge : String) (h : List Turn) : Prop :=
  upToIds bridge h ≠ [] ∧
  ∀ early t late, sinceIds bridge h = early ++ t::late → t.asks →
    outstanding bridge (upToIds bridge h ++ early) = false

/-- The registration of the last session bytes was confirmed. -/
def Confirmed (bridge : String) (h : List Turn) : Prop :=
  ∃ t ∈ sinceIds bridge h, t.confirms bridge

/-! ## One more input -/

theorem outstanding_concat (bridge : String) (h : List Turn) (t : Turn) :
    outstanding bridge (h++[t]) = (t.flag? bridge).getD (outstanding bridge h) := by
  cases hf : t.flag? bridge <;> simp [outstanding, List.filterMap_append, hf]

theorem upToIds_append_sinceIds (bridge : String) (h : List Turn) :
    upToIds bridge h ++ sinceIds bridge h = h := by
  simp [upToIds, sinceIds]

theorem held_of_opens {bridge : String} {t : Turn} (ht : t.opens bridge) (h : List Turn) :
    Held bridge (h++[t]) := by
  have hs : sinceIds bridge (h++[t]) = [] := by simp [sinceIds, ht]
  have hu : upToIds bridge (h++[t]) = h++[t] := by simp [upToIds, ht]
  constructor
  · simp [hu]
  · rw [hs]
    intro early x late he
    simp at he

theorem not_confirmed_of_opens {bridge : String} {t : Turn} (ht : t.opens bridge) (h : List Turn) :
    ¬ Confirmed bridge (h++[t]) := by
  simp [Confirmed, sinceIds, ht]

theorem confirmed_concat {bridge : String} {t : Turn} (ht : t.opens bridge = false)
    (h : List Turn) :
    Confirmed bridge (h++[t]) ↔ Confirmed bridge h ∨ t.confirms bridge := by
  simp only [Confirmed, sinceIds, List.rtakeWhile_concat, ht, Bool.not_false, if_true,
    List.mem_append, List.mem_singleton]
  constructor
  · rintro ⟨x, hx | rfl, hc⟩
    · exact .inl ⟨x, hx, hc⟩
    · exact .inr hc
  · rintro (⟨x, hx, hc⟩ | hc)
    · exact ⟨x, .inl hx, hc⟩
    · exact ⟨t, .inr rfl, hc⟩

theorem held_concat {bridge : String} {t : Turn} (ht : t.opens bridge = false) (h : List Turn) :
    Held bridge (h++[t]) ↔
      Held bridge h ∧ (t.asks → outstanding bridge h = false) := by
  have hu : upToIds bridge (h++[t]) = upToIds bridge h := by simp [upToIds, ht]
  have hs : sinceIds bridge (h++[t]) = sinceIds bridge h ++ [t] := by
    simp [sinceIds, ht]
  have hl := forall_split_concat (P := fun early x => x.asks = true →
    outstanding bridge (upToIds bridge h ++ early) = false) (sinceIds bridge h) t
  rw [upToIds_append_sinceIds] at hl
  rw [Held, Held, hu, hs, hl, and_assoc]

end LightBridge.Session
