/-!
# UTF-8

Decoding of byte strings. A refusal says how many bytes before it were valid
and, unless the text only breaks off inside a character, how many bytes the
ill-formed piece spans.
-/

set_option autoImplicit false

namespace LightBridge.Text

structure Utf8Fault where
  validUpTo : Nat
  /-- The length of the ill-formed piece; `none` when the bytes end too early. -/
  errorLength : Option Nat
  deriving DecidableEq, Repr

def within (lo hi b : UInt8) : Bool := lo ≤ b && b ≤ hi

def isTail (b : UInt8) : Bool := within 0x80 0xBF b

/-- Whether `b` may follow `a`, the first of three bytes or of four. -/
def second (a b : UInt8) : Bool :=
  if a == 0xE0 then within 0xA0 0xBF b
  else if a == 0xED then within 0x80 0x9F b
  else if a == 0xF0 then within 0x90 0xBF b
  else if a == 0xF4 then within 0x80 0x8F b
  else isTail b

def low6 (b : UInt8) : Nat := b.toNat % 64

/-- Decoding of the bytes from offset `offset` on. -/
def decodeFrom (offset : Nat) : List UInt8 → Except Utf8Fault (List Char)
  | [] => .ok []
  | a::rest =>
    if a < 0x80 then (Char.ofNat a.toNat :: ·) <$> decodeFrom (offset+1) rest
    else if within 0xC2 0xDF a then
      match rest with
      | [] => .error ⟨offset, none⟩
      | b::rest =>
        if isTail b then
          (Char.ofNat (a.toNat%32*64+low6 b) :: ·) <$> decodeFrom (offset+2) rest
        else .error ⟨offset, some 1⟩
    else if within 0xE0 0xEF a then
      match rest with
      | [] => .error ⟨offset, none⟩
      | b::rest =>
        if second a b then
          match rest with
          | [] => .error ⟨offset, none⟩
          | c::rest =>
            if isTail c then
              (Char.ofNat (a.toNat%16*4096+low6 b*64+low6 c) :: ·) <$> decodeFrom (offset+3) rest
            else .error ⟨offset, some 2⟩
        else .error ⟨offset, some 1⟩
    else if within 0xF0 0xF4 a then
      match rest with
      | [] => .error ⟨offset, none⟩
      | b::rest =>
        if second a b then
          match rest with
          | [] => .error ⟨offset, none⟩
          | c::rest =>
            if isTail c then
              match rest with
              | [] => .error ⟨offset, none⟩
              | d::rest =>
                if isTail d then
                  (Char.ofNat (a.toNat%8*262144+low6 b*4096+low6 c*64+low6 d) :: ·)
                    <$> decodeFrom (offset+4) rest
                else .error ⟨offset, some 3⟩
            else .error ⟨offset, some 2⟩
        else .error ⟨offset, some 1⟩
    else .error ⟨offset, some 1⟩

def decodeUtf8 (bs : List UInt8) : Except Utf8Fault (List Char) := decodeFrom 0 bs

end LightBridge.Text
