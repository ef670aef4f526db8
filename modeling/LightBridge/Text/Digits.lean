/-!
# Numbers as text

Decimal digits of naturals and integers, hexadecimal digits of naturals, and
the two spellings of a byte string: pairs set apart by spaces, as traffic is
logged, and pairs run together, as bridges spell their address.
-/

set_option autoImplicit false

namespace LightBridge.Text

def digit (d : Nat) : Char := Char.ofNat (if d < 10 then 0x30+d else 0x57+d)

def decimalDigits (n : Nat) : List Char :=
  if n < 10 then [digit n] else decimalDigits (n/10) ++ [digit (n%10)]

def hexDigits (n : Nat) : List Char :=
  if n < 16 then [digit n] else hexDigits (n/16) ++ [digit (n%16)]

def natural (n : Nat) : String := String.ofList (decimalDigits n)

def integer : Int → String
  | .ofNat n => natural n
  | .negSucc n => "-" ++ natural (n+1)

def bytePair (b : UInt8) : List Char :=
  [(digit (b.toNat/16)).toUpper, (digit (b.toNat%16)).toUpper]

def compactHex (bs : List UInt8) : String := String.ofList (bs.flatMap bytePair)

def spacedHex (bs : List UInt8) : String :=
  " ".intercalate (bs.map fun b => String.ofList (bytePair b))

end LightBridge.Text
