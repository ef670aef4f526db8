import LightBridge.Link

/-!
# Lights

A light is a bulb with what was last commanded to it. An operation carries out
the bulb's plan on the link until the queue refuses a command.
-/

set_option autoImplicit false

namespace LightBridge

structure Progress where
  link : Link
  state : LightState
  notices : List Notice
  /-- Why the queue refused a command. Nothing is done after that. -/
  refusal : Option Fault

namespace Progress

def begin (l : Link) (s : LightState) : Progress := ⟨l, s, [], none⟩

def move (wall : Nat) (b : Bulb) (p : Progress) (m : Move) : Progress :=
  if p.refusal.isSome then p
  else
    match m with
    | .store record => { p with state := record p.state }
    | .send command record =>
      match p.link.send wall b command with
      | (link, notices, .ok ()) =>
        { p with link, state := record p.state, notices := p.notices ++ notices }
      | (link, notices, .error fault) =>
        { p with link, notices := p.notices ++ notices, refusal := some fault }

/-- The next `n` rounds, the first of which has the given number. -/
def rounds (wall : Nat) (b : Bulb) (moves : Nat → List Move) : Nat → Nat → Progress → Progress
  | 0, _, p => p
  | n+1, round, p =>
    if p.refusal.isSome then p
    else rounds wall b moves n (round+1) ((moves round).foldl (move wall b) p)

def stretch (wall : Nat) (b : Bulb) (p : Progress) (s : Stretch) : Progress :=
  rounds wall b s.moves s.count 1 p

def carryOut (wall : Nat) (b : Bulb) (p : Progress) : Plan → Progress
  | .unsupported operation =>
    { p with notices := p.notices ++ [.unsupported operation.title b.family] }
  | .noSession => { p with notices := p.notices ++ [.noSession p.link.bridge b.family] }
  | .moves stretches => stretches.foldl (stretch wall b) p

def result (p : Progress) : Except Fault Unit :=
  match p.refusal with
  | none => .ok ()
  | some fault => .error fault

end Progress

structure Light where
  bulb : Bulb
  name : Option String
  /-- What was last commanded. -/
  state : LightState

namespace Light

def create (bulb : Bulb) (name : Option String) : Light := ⟨bulb, name, .initial⟩

def withState (light : Light) (state : LightState) : Light := { light with state }

def family (light : Light) : Family := light.bulb.family

def supports (light : Light) (c : Capability) : Bool := light.family.supports c

def operate (wall : Nat) (light : Light) (l : Link) (operation : Operation) : Progress :=
  (Progress.begin l light.state).carryOut wall light.bulb
    (light.bulb.plan l.isValid light.state operation)

/-- The operation where the sums ahead of its plan are checked. It has no outcome
if one of them stops the program. -/
def operate? (wall : Nat) (light : Light) (l : Link) (operation : Operation) : Option Progress :=
  (light.bulb.plan? l.isValid light.state operation).map
    ((Progress.begin l light.state).carryOut wall light.bulb)

def diagnostics (light : Light) : Json.Value :=
  .record [
    ("name", match light.name with
      | some name => .text name
      | none => .null),
    ("family", .text light.family.name),
    ("zone", .integer light.bulb.zone.toNat),
    ("capabilities", .list (light.family.capabilities.map fun c => .text c.name)),
    ("state", light.state.toJson)]

end Light

end LightBridge
