import LightBridge.Json.Scan

/-!
# Numbers in JSON text

An integer that fits 64 bits is exact. Every other number is a double: the
leading digits that fit 64 bits, scaled by one power of ten. Digits beyond
these only count for the scale, so the double may miss the nearest one in its
last place.
-/

set_option autoImplicit false

namespace LightBridge.Json

inductive Number where
  | whole (n : Int)
  | real (x : Float)

def isDigit (c : Char) : Bool := '0' ≤ c && c ≤ '9'

def digitValue (c : Char) : Nat := c.toNat-0x30

def maxSignificand : Nat := UInt64.size-1

/-- Appends digits to a significand while it fits 64 bits, and counts those
left over. -/
def absorb (significand : Nat) : List Char → Nat × Nat
  | [] => (significand, 0)
  | d::ds =>
    let next := significand*10+digitValue d
    if maxSignificand < next then (significand, (d::ds).length) else absorb next ds

/-- `x * 10^e`, one factor of at most `10^308` at a time; `none` is too large. -/
def scaleUp (x : Float) (e : Nat) : Option Float :=
  if e ≤ 308 then
    let y := x*Float.ofScientific 1 false e
    if y.isInf then none else some y
  else if x == 0 then some x
  else none

def scaleDown : Nat → Float → Nat → Float
  | 0, x, _ => x
  | n+1, x, e =>
    if e ≤ 308 then x/Float.ofScientific 1 false e
    else if x == 0 then x
    else scaleDown n (x/Float.ofScientific 1 false 308) (e-308)

def decimal (negative : Bool) (significand : Nat) (exponent : Int) : Except Issue Float :=
  let x := (UInt64.ofNat significand).toFloat
  let signed := fun y : Float => if negative then -y else y
  match exponent with
  | .ofNat e =>
    match scaleUp x e with
    | none => .error .malformed
    | some y => .ok (signed y)
  | .negSucc e => .ok (signed (scaleDown (e/308+1) x (e+1)))

def maxExponent : Nat := 0x7FFFFFFF

/-- The number from its exponent mark on, `cs` being what follows the mark. -/
def exponentPart (negative : Bool) (significand : Nat) (exponent : Int) (cs : List Char) :
    Scan Float :=
  let (down, cs) := match cs with
    | '+'::r => (false, r)
    | '-'::r => (true, r)
    | r => (false, r)
  match cs with
  | [] => .error .truncated
  | c::_ =>
    if !isDigit c then .error .malformed
    else
      let ds := cs.takeWhile isDigit
      let rest := cs.dropWhile isDigit
      let e := ds.foldl (fun n d => n*10+digitValue d) 0
      if maxExponent < e then
        if significand != 0 && !down then .error .malformed
        else .ok (if negative then -0.0 else 0.0, rest)
      else
        (decimal negative significand (if down then exponent-e else exponent+e)).map (·, rest)

def exponentOrEnd (negative : Bool) (significand : Nat) (exponent : Int) (cs : List Char) :
    Scan Float :=
  match cs with
  | 'e'::r => exponentPart negative significand exponent r
  | 'E'::r => exponentPart negative significand exponent r
  | _ => (decimal negative significand exponent).map (·, cs)

/-- The number from its point on, `cs` being what follows the point. -/
def fractionPart (negative : Bool) (significand : Nat) (exponent : Int) (cs : List Char) :
    Scan Float :=
  let ds := cs.takeWhile isDigit
  let rest := cs.dropWhile isDigit
  if ds.isEmpty then .error (if rest.isEmpty then .truncated else .malformed)
  else
    let (significand, left) := absorb significand ds
    exponentOrEnd negative significand (exponent-(ds.length-left : Nat)) rest

def wholeNumber (negative : Bool) (significand left : Nat) : Except Issue Number :=
  if left = 0 && !negative then .ok (.whole significand)
  else if left = 0 && 0 < significand && significand ≤ 0x8000000000000000 then .ok (.whole (-significand))
  else (decimal negative significand left).map .real

def number (negative : Bool) (cs : List Char) : Scan Number :=
  match cs with
  | [] => .error .truncated
  | c::after =>
    if !isDigit c then .error .malformed
    else if c == '0' && (after.takeWhile isDigit != []) then .error .malformed
    else
      let rest := cs.dropWhile isDigit
      let (significand, left) := absorb 0 (cs.takeWhile isDigit)
      let real := fun p : Float × List Char => (Number.real p.1, p.2)
      match rest with
      | '.'::r => (fractionPart negative significand left r).map real
      | 'e'::_ => (exponentOrEnd negative significand left rest).map real
      | 'E'::_ => (exponentOrEnd negative significand left rest).map real
      | _ => (wholeNumber negative significand left).map (·, rest)

def skipExponent (cs : List Char) : Except Issue (List Char) :=
  let marked := match cs with
    | 'e'::r => some r
    | 'E'::r => some r
    | _ => none
  match marked with
  | none => .ok cs
  | some r =>
    let r := match r with
      | '+'::r => r
      | '-'::r => r
      | r => r
    if (r.takeWhile isDigit).isEmpty then .error .malformed else .ok (r.dropWhile isDigit)

/-- The rest after a number whose value does not matter, `cs` being what
follows its sign. -/
def skipNumber (cs : List Char) : Except Issue (List Char) :=
  match cs with
  | [] => .error .malformed
  | c::after =>
    if !isDigit c then .error .malformed
    else if c == '0' && (after.takeWhile isDigit != []) then .error .malformed
    else
      match cs.dropWhile isDigit with
      | '.'::rest =>
        if (rest.takeWhile isDigit).isEmpty then .error .malformed
        else skipExponent (rest.dropWhile isDigit)
      | rest => skipExponent rest

end LightBridge.Json
