import LightBridge.Text.Digits

/-!
# Network addresses

Addresses of both families with their usual text. The text of a long address
replaces its longest run of at least two zero groups, the first of equal ones,
by a double colon, and writes an embedded short address in dotted form.
-/

set_option autoImplicit false

namespace LightBridge

inductive Address where
  | v4 (a b c d : UInt8)
  | v6 (groups : Vector UInt16 8)
  deriving DecidableEq, Repr

namespace Address

/-! ## Printing -/

def dotted (a b c d : UInt8) : String :=
  ".".intercalate ([a, b, c, d].map fun x => Text.natural x.toNat)

def group (g : UInt16) : String := String.ofList (Text.hexDigits g.toNat)

def grouped (gs : List UInt16) : String := ":".intercalate (gs.map group)

/-- The first longest run of zeros of the list, as start and length; `start`
is the index of the head. -/
def zeroRun (start : Nat) : List UInt16 → Nat × Nat
  | [] => (start, 0)
  | g::gs =>
    let here := ((g::gs).takeWhile (· == 0)).length
    let later := zeroRun (start+1) gs
    if later.2 ≤ here then (start, here) else later

def text : Address → String
  | v4 a b c d => dotted a b c d
  | v6 gs =>
    match gs.toList with
    | [0, 0, 0, 0, 0, 0xFFFF, x, y] =>
      "::ffff:" ++ dotted (x.toNat/256).toUInt8 x.toUInt8 (y.toNat/256).toUInt8 y.toUInt8
    | gs =>
      let run := zeroRun 0 gs
      if 1 < run.2 then
        grouped (gs.take run.1) ++ "::" ++ grouped (gs.drop (run.1+run.2))
      else grouped gs

/-! ## Parsing -/

def digitValue? (base : Nat) (c : Char) : Option Nat :=
  let d :=
    if '0' ≤ c && c ≤ '9' then c.toNat-0x30
    else if 'a' ≤ c && c ≤ 'f' then c.toNat-0x57
    else if 'A' ≤ c && c ≤ 'F' then c.toNat-0x37
    else base
  if d < base then some d else none

/-- The digits ahead as a number; there are at least one and at most `most`. -/
def digitsAhead (base most : Nat) (cs : List Char) : Option (Nat × List Char) :=
  let isDigit := fun c => (digitValue? base c).isSome
  let ds := cs.takeWhile isDigit
  if ds.isEmpty || most < ds.length then none
  else some (ds.foldl (fun n c => n*base+(digitValue? base c).getD 0) 0, cs.dropWhile isDigit)

def octet (cs : List Char) : Option (UInt8 × List Char) :=
  match digitsAhead 10 3 cs with
  | none => none
  | some (n, rest) =>
    let padded := cs.head? == some '0' && 1 < cs.length-rest.length
    if padded || 255 < n then none else some (n.toUInt8, rest)

def mark (c : Char) : List Char → Option (List Char)
  | d::cs => if d = c then some cs else none
  | [] => none

def octets (cs : List Char) : Option ((UInt8 × UInt8 × UInt8 × UInt8) × List Char) := do
  let (a, cs) ← octet cs
  let cs ← mark '.' cs
  let (b, cs) ← octet cs
  let cs ← mark '.' cs
  let (c, cs) ← octet cs
  let cs ← mark '.' cs
  let (d, cs) ← octet cs
  some ((a, b, c, d), cs)

def pairGroup (a b : UInt8) : UInt16 := (a.toNat*256+b.toNat).toUInt16

/-- At most `limit` groups with colons between; two of them may be the last
ones, in dotted form. `first` says that no colon comes before the next one. -/
def groupsAhead : Nat → Bool → List Char → List UInt16 × Bool × List Char
  | 0, _, cs => ([], false, cs)
  | n+1, first, cs =>
    match if first then some cs else mark ':' cs with
    | none => ([], false, cs)
    | some ahead =>
      match if n = 0 then none else octets ahead with
      | some ((a, b, c, d), rest) => ([pairGroup a b, pairGroup c d], true, rest)
      | none =>
        match digitsAhead 16 4 ahead with
        | none => ([], false, cs)
        | some (g, rest) =>
          let (gs, isDotted, rest) := groupsAhead n false rest
          (g.toUInt16::gs, isDotted, rest)

def ofGroups (gs : List UInt16) : Option Address :=
  if h : gs.length = 8 then some (.v6 ⟨gs.toArray, by simpa using h⟩) else none

/-- A long address: eight groups, or fewer around one double colon. -/
def groupsAround (cs : List Char) : Option (Address × List Char) := do
  let (front, isDotted, rest) := groupsAhead 8 true cs
  if front.length = 8 then
    let a ← ofGroups front
    some (a, rest)
  else if isDotted then none
  else
    let rest ← mark ':' rest
    let rest ← mark ':' rest
    let (back, _, rest) := groupsAhead (7-front.length) true rest
    let a ← ofGroups (front ++ List.replicate (8-front.length-back.length) 0 ++ back)
    some (a, rest)

def ahead (cs : List Char) : Option (Address × List Char) :=
  match octets cs with
  | some ((a, b, c, d), rest) => some (.v4 a b c d, rest)
  | none => groupsAround cs

def parse? (s : String) : Option Address :=
  match ahead s.toList with
  | some (a, []) => some a
  | _ => none

end Address

structure Endpoint where
  host : Address
  port : UInt16
  deriving DecidableEq, Repr

namespace Endpoint

def text (e : Endpoint) : String :=
  match e.host with
  | .v4 .. => e.host.text ++ ":" ++ Text.natural e.port.toNat
  | .v6 _ => "[" ++ e.host.text ++ "]:" ++ Text.natural e.port.toNat

def portAhead (cs : List Char) : Option UInt16 := do
  let (n, rest) ← Address.digitsAhead 10 cs.length cs
  if rest.isEmpty && n ≤ 65535 then some n.toUInt16 else none

def parse? (s : String) : Option Endpoint :=
  match s.toList with
  | '['::cs => do
    let (host, rest) ← Address.groupsAround cs
    let rest ← Address.mark ']' rest
    let rest ← Address.mark ':' rest
    let port ← portAhead rest
    some ⟨host, port⟩
  | cs => do
    let ((a, b, c, d), rest) ← Address.octets cs
    let rest ← Address.mark ':' rest
    let port ← portAhead rest
    some ⟨.v4 a b c d, port⟩

end Endpoint

end LightBridge
