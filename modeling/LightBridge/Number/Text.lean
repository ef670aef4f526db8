import LightBridge.Number.Shortest
import LightBridge.Text.Digits

/-!
# Single-precision numbers as text

The fewest digits that read back. A number stands in positional notation with
a point when its first digit is at a moderate place, and otherwise with one
digit before the point and a signed exponent.
-/

set_option autoImplicit false

namespace LightBridge.Number

/-- The places of the first digit, as powers of ten, between which the point
is written out. -/
structure Positional where
  least : Int
  most : Int
  deriving DecidableEq, Repr

def single : Positional := ⟨-6, 12⟩

/-- The text of `digits * 10^exponent`, `digits` without trailing zeros. -/
def Decimal.text (p : Positional) (d : Decimal) : String :=
  let ds := LightBridge.Text.decimalDigits d.digits
  let place := d.exponent + (ds.length : Int) - 1
  String.ofList <|
    if place < p.least || p.most < place then
      let sign := if place < 0 then '-' else '+'
      let mantissa := match ds with
        | [] => []
        | [c] => [c]
        | c::cs => c :: '.' :: cs
      mantissa ++ 'e' :: sign :: LightBridge.Text.decimalDigits place.natAbs
    else if place < 0 then
      '0' :: '.' :: List.replicate (-place-1).toNat '0' ++ ds
    else
      let whole := (place+1).toNat
      let padded := ds ++ List.replicate (whole+1-ds.length) '0'
      padded.take whole ++ '.' :: padded.drop whole

def isFinite (bits : UInt32) : Bool := bits.toNat/0x800000 % 256 != 255

def text (x : Float32) : String :=
  let bits := x.toBits
  let sign := if bits.toNat/0x80000000 == 1 then "-" else ""
  sign ++ (if bits.toNat % 0x80000000 == 0 then "0.0" else (shortest bits).text single)

end LightBridge.Number
