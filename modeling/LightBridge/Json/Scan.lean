/-!
# Scanning JSON text

Every scanner takes the characters ahead and gives what it read with the rest.
The three ways to fail are kept apart: the text breaks off, it is not JSON, or
it is JSON of another shape than asked for. The first failure from the left
wins, whatever follows it.
-/

set_option autoImplicit false

namespace LightBridge.Json

inductive Issue where
  | truncated
  | malformed
  /-- A value is not of the wanted shape. -/
  | mismatched
  deriving DecidableEq, Repr

abbrev Scan (α : Type) := Except Issue (α × List Char)

def isBlank (c : Char) : Bool := c == ' ' || c == '\n' || c == '\t' || c == '\r'

def skipBlank (cs : List Char) : List Char := cs.dropWhile isBlank

def word : List Char → List Char → Except Issue (List Char)
  | [], cs => .ok cs
  | _::_, [] => .error .truncated
  | w::ws, c::cs => if c = w then word ws cs else .error .malformed

def hexValue? (c : Char) : Option Nat :=
  if '0' ≤ c && c ≤ '9' then some (c.toNat-0x30)
  else if 'a' ≤ c && c ≤ 'f' then some (c.toNat-0x57)
  else if 'A' ≤ c && c ≤ 'F' then some (c.toNat-0x37)
  else none

def utf8Length (cs : List Char) : Nat := cs.foldl (fun n c => n + c.utf8Size) 0

/-- Four hexadecimal digits; with fewer than four bytes ahead the text is cut. -/
def hexUnit (cs : List Char) : Scan Nat :=
  match cs with
  | a::b::c::d::rest =>
    match hexValue? a, hexValue? b, hexValue? c, hexValue? d with
    | some a, some b, some c, some d => .ok (((a*16+b)*16+c)*16+d, rest)
    | _, _, _, _ => .error .malformed
  | short => if utf8Length short < 4 then .error .truncated else .error .malformed

theorem length_hexUnit {cs rest : List Char} {n : Nat} (h : hexUnit cs = .ok (n, rest)) :
    rest.length < cs.length := by
  unfold hexUnit at h
  split at h
  · split at h
    · cases h; simp; omega
    · cases h
  · split at h <;> cases h

def simpleEscape? (c : Char) : Option Char :=
  match c with
  | '"' => some '"'
  | '\\' => some '\\'
  | '/' => some '/'
  | 'b' => some '\x08'
  | 'f' => some '\x0c'
  | 'n' => some '\n'
  | 'r' => some '\r'
  | 't' => some '\t'
  | _ => none

def isHighHalf (n : Nat) : Bool := 0xD800 ≤ n && n ≤ 0xDBFF

def isLowHalf (n : Nat) : Bool := 0xDC00 ≤ n && n ≤ 0xDFFF

/-- The character after `\u`: one unit, or a pair of halves. -/
def unicodeEscape (cs : List Char) : Scan Char :=
  match hexUnit cs with
  | .error e => .error e
  | .ok (n, rest) =>
    if isLowHalf n then .error .malformed
    else if isHighHalf n then
      match rest with
      | [] => .error .truncated
      | ['\\'] => .error .truncated
      | '\\' :: 'u' :: rest =>
        match hexUnit rest with
        | .error e => .error e
        | .ok (m, rest) =>
          if isLowHalf m then
            .ok (Char.ofNat (0x10000+(n-0xD800)*1024+(m-0xDC00)), rest)
          else .error .malformed
      | _ => .error .malformed
    else .ok (Char.ofNat n, rest)

theorem length_unicodeEscape {cs rest : List Char} {c : Char}
    (h : unicodeEscape cs = .ok (c, rest)) : rest.length < cs.length := by
  unfold unicodeEscape at h
  split at h
  · cases h
  · rename_i n r hr
    have h1 := length_hexUnit hr
    split at h
    · cases h
    · split at h
      · split at h
        · cases h
        · cases h
        · split at h
          · cases h
          · rename_i hm
            have h2 := length_hexUnit hm
            split at h
            · simp only [Except.ok.injEq, Prod.mk.injEq] at h
              obtain ⟨-, rfl⟩ := h
              simp only [List.length_cons] at h1
              omega
            · cases h
        · cases h
      · simp only [Except.ok.injEq, Prod.mk.injEq] at h
        obtain ⟨-, rfl⟩ := h
        exact h1

def textBody (cs : List Char) : Scan (List Char) :=
  match cs with
  | [] => .error .truncated
  | '"'::rest => .ok ([], rest)
  | ['\\'] => .error .truncated
  | '\\' :: 'u' :: rest =>
    match _h : unicodeEscape rest with
    | .error e => .error e
    | .ok (c, rest') =>
      match textBody rest' with
      | .error e => .error e
      | .ok (s, rest) => .ok (c::s, rest)
  | '\\'::e::rest =>
    match simpleEscape? e with
    | none => .error .malformed
    | some c =>
      match textBody rest with
      | .error e => .error e
      | .ok (s, rest) => .ok (c::s, rest)
  | c::rest =>
    if c.toNat < 0x20 then .error .malformed
    else match textBody rest with
      | .error e => .error e
      | .ok (s, rest) => .ok (c::s, rest)
  termination_by cs.length
  decreasing_by
    · have := length_unicodeEscape (by assumption)
      simp only [List.length_cons]; omega
    · simp only [List.length_cons]; omega
    · simp

/-- The rest after a text whose characters do not matter; halves may stand alone. -/
def skipText (cs : List Char) : Except Issue (List Char) :=
  match cs with
  | [] => .error .truncated
  | '"'::rest => .ok rest
  | ['\\'] => .error .truncated
  | '\\' :: 'u' :: rest =>
    match _h : hexUnit rest with
    | .error e => .error e
    | .ok (_, rest') => skipText rest'
  | '\\'::e::rest =>
    match simpleEscape? e with
    | none => .error .malformed
    | some _ => skipText rest
  | c::rest => if c.toNat < 0x20 then .error .malformed else skipText rest
  termination_by cs.length
  decreasing_by
    · have := length_hexUnit (by assumption)
      simp only [List.length_cons]; omega
    · simp only [List.length_cons]; omega
    · simp

end LightBridge.Json
