/-!
# Shortest decimal of a single-precision number

A finite number is `m * 2^q`. The reals that round to it form an interval
around it whose ends belong to it when `m` is even. Among the decimals of the
interval with the fewest digits the nearest is taken, and of two equally near
ones the one with an even last digit.
-/

set_option autoImplicit false

namespace LightBridge.Number

/-- The decimal `digits * 10^exponent`. -/
structure Decimal where
  digits : Nat
  exponent : Int
  deriving DecidableEq, Repr

/-- A positive number `value/scale` with the ends of its rounding interval. -/
structure Interval where
  low : Nat
  value : Nat
  high : Nat
  scale : Nat
  closed : Bool
  deriving DecidableEq, Repr

namespace Interval

/-- The interval of `m * 2^q`; below a power of two the neighbour is closer. -/
def ofBinary (m : Nat) (q : Int) (narrow : Bool) : Interval :=
  let k := Nat.pow 2 (q-2).toNat
  ⟨(if narrow then 4*m-1 else 4*m-2)*k, 4*m*k, (4*m+2)*k, Nat.pow 2 (2-q).toNat, m%2 == 0⟩

/-- Whether `d * 10^e` lies in the interval. -/
def holds (i : Interval) (d : Nat) (e : Int) : Bool :=
  let x := d*Nat.pow 10 e.toNat*i.scale
  let unit := Nat.pow 10 (-e).toNat
  if i.closed then i.low*unit ≤ x && x ≤ i.high*unit
  else i.low*unit < x && x < i.high*unit

/-- The multiples of `10^e` next to the value, below and above. -/
def floorAt (i : Interval) (e : Int) : Nat :=
  (i.value*Nat.pow 10 (-e).toNat)/(i.scale*Nat.pow 10 e.toNat)

def pick? (i : Interval) (e : Int) : Option Decimal :=
  let d := i.floorAt e
  let below := i.holds d e && d != 0
  let above := i.holds (d+1) e
  let twice := 2*i.value*Nat.pow 10 (-e).toNat
  let middle := (2*d+1)*i.scale*Nat.pow 10 e.toNat
  if below && above then
    if twice < middle || (twice == middle && d%2 == 0) then some ⟨d, e⟩ else some ⟨d+1, e⟩
  else if below then some ⟨d, e⟩
  else if above then some ⟨d+1, e⟩
  else none

/-- The first grid with a point inside, from coarse to fine. -/
def search (i : Interval) : Nat → Int → Decimal
  | 0, e => ⟨i.floorAt e, e⟩
  | n+1, e => (i.pick? e).getD (i.search n (e-1))

end Interval

def trim : Nat → Decimal → Decimal
  | 0, d => d
  | n+1, d =>
    if d.digits != 0 && d.digits%10 == 0 then trim n ⟨d.digits/10, d.exponent+1⟩ else d

/-- The shortest decimal of a finite positive number, by its bits. -/
def shortest (bits : UInt32) : Decimal :=
  let fraction : Nat := bits.toNat % 0x800000
  let biased : Nat := bits.toNat/0x800000 % 256
  let i :=
    if biased = 0 then Interval.ofBinary fraction (-149) false
    else Interval.ofBinary (0x800000+fraction) ((biased : Int)-150) (fraction == 0 && 1 < biased)
  trim 10 (i.search 95 39)

end LightBridge.Number
