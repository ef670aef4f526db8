import LightBridge.Text.Digits
import LightBridge.Text.Glyph

/-!
# Quoted text

Text inside messages stands between double quotes. A quote and a backslash
are escaped, the common controls have a letter, and every other character
without a glyph is written by its number.
-/

set_option autoImplicit false

namespace LightBridge.Text

def quotedChar (c : Char) : List Char :=
  if c == '\x00' then ['\\', '0']
  else if c == '\t' then ['\\', 't']
  else if c == '\r' then ['\\', 'r']
  else if c == '\n' then ['\\', 'n']
  else if c == '\\' || c == '"' then ['\\', c]
  else if hasGlyph c then [c]
  else ['\\', 'u', '\x7b'] ++ hexDigits c.toNat ++ ['\x7d']

def quoted (s : String) : String :=
  String.ofList ('"' :: s.toList.flatMap quotedChar ++ ['"'])

end LightBridge.Text
