import LightBridge.Number.Text

/-!
# JSON values and their text

Values are written without blanks, members in the order given, and text with
the fewest escapes. A number that is not finite is written as null.
-/

set_option autoImplicit false

namespace LightBridge.Json

inductive Value where
  | null
  | bool (b : Bool)
  | integer (n : Int)
  | single (x : Float32)
  | text (s : String)
  | list (vs : List Value)
  | record (members : List (String × Value))

def hex4 (n : Nat) : List Char :=
  [n/4096, n/256, n/16, n].map fun d => Text.digit (d%16)

def escaped (c : Char) : List Char :=
  if c == '"' || c == '\\' then ['\\', c]
  else if c == '\x08' then ['\\', 'b']
  else if c == '\x0c' then ['\\', 'f']
  else if c == '\n' then ['\\', 'n']
  else if c == '\r' then ['\\', 'r']
  else if c == '\t' then ['\\', 't']
  else if c.toNat < 0x20 then '\\' :: 'u' :: hex4 c.toNat
  else [c]

def textLiteral (s : String) : List Char :=
  '"' :: s.toList.flatMap escaped ++ ['"']

mutual

def Value.chars : Value → List Char
  | .null => ['n', 'u', 'l', 'l']
  | .bool true => ['t', 'r', 'u', 'e']
  | .bool false => ['f', 'a', 'l', 's', 'e']
  | .integer n => (Text.integer n).toList
  | .single x =>
    if Number.isFinite x.toBits then (Number.text x).toList else ['n', 'u', 'l', 'l']
  | .text s => textLiteral s
  | .list vs => '[' :: listChars vs ++ [']']
  | .record ms => '\x7b' :: memberChars ms ++ ['\x7d']

def listChars : List Value → List Char
  | [] => []
  | [v] => v.chars
  | v::w::vs => v.chars ++ ',' :: listChars (w::vs)

def memberChars : List (String × Value) → List Char
  | [] => []
  | [(k, v)] => textLiteral k ++ ':' :: v.chars
  | (k, v)::m::ms => textLiteral k ++ ':' :: v.chars ++ ',' :: memberChars (m::ms)

end

def Value.render (v : Value) : String := String.ofList v.chars

end LightBridge.Json
