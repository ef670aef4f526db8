/-!
# White space

The characters of the property White_Space, which bound the text of an answer
on its right.
-/

set_option autoImplicit false

namespace LightBridge.Text

def blankRanges : List (Nat × Nat) :=
  [(0x9, 0xD), (0x20, 0x20), (0x85, 0x85), (0xA0, 0xA0), (0x1680, 0x1680), (0x2000, 0x200A),
    (0x2028, 0x2029), (0x202F, 0x202F), (0x205F, 0x205F), (0x3000, 0x3000)]

def isBlank (c : Char) : Bool :=
  blankRanges.any fun r => r.1 ≤ c.toNat && c.toNat ≤ r.2

def dropTrailing (p : Char → Bool) (cs : List Char) : List Char :=
  (cs.reverse.dropWhile p).reverse

/-- The fields between the separators; a text without one is a single field. -/
def fields (separator : Char) : List Char → List (List Char)
  | [] => [[]]
  | c::cs =>
    if c = separator then [] :: fields separator cs
    else match fields separator cs with
      | [] => [[c]]
      | f::fs => (c::f) :: fs

end LightBridge.Text
