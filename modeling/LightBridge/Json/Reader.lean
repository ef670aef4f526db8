import LightBridge.Json.Number

/-!
# Reading JSON of a known shape

A reader takes the characters from the start of a value on. A value of another
shape is refused as mismatched, unless it is itself no JSON: then that is the
failure.
-/

set_option autoImplicit false

namespace LightBridge.Json

def valueStart (cs : List Char) : Except Issue (List Char) :=
  match skipBlank cs with
  | [] => .error .truncated
  | cs => .ok cs

/-- Why the value at the head of `cs` is refused by a reader of another shape. -/
def refusal (cs : List Char) : Issue :=
  let after := fun r : Except Issue (List Char) => match r with
    | .error e => e
    | .ok _ => .mismatched
  match cs with
  | 'n'::r => after (word ['u', 'l', 'l'] r)
  | 't'::r => after (word ['r', 'u', 'e'] r)
  | 'f'::r => after (word ['a', 'l', 's', 'e'] r)
  | '-'::r => after ((number true r).map (·.2))
  | '"'::r => after ((textBody r).map (·.2))
  | '['::_ => .mismatched
  | '\x7b'::_ => .mismatched
  | c::_ => if isDigit c then after ((number false cs).map (·.2)) else .malformed
  | [] => .malformed

def readBool (cs : List Char) : Scan Bool :=
  match valueStart cs with
  | .error e => .error e
  | .ok ('t'::r) => (word ['r', 'u', 'e'] r).map (true, ·)
  | .ok ('f'::r) => (word ['a', 'l', 's', 'e'] r).map (false, ·)
  | .ok cs => .error (refusal cs)

def readNumber (cs : List Char) : Scan Number :=
  match valueStart cs with
  | .error e => .error e
  | .ok ('-'::r) => number true r
  | .ok cs =>
    if cs.head?.any isDigit then number false cs else .error (refusal cs)

/-- An integer of the range; a number with a fraction or an exponent is none. -/
def readInteger (lo hi : Int) (cs : List Char) : Scan Int :=
  match readNumber cs with
  | .error e => .error e
  | .ok (.whole n, r) => if lo ≤ n && n ≤ hi then .ok (n, r) else .error .mismatched
  | .ok (.real _, _) => .error .mismatched

def readSingle (cs : List Char) : Scan Float32 :=
  match readNumber cs with
  | .error e => .error e
  | .ok (.whole (.ofNat n), r) => .ok ((UInt64.ofNat n).toFloat32, r)
  | .ok (.whole n, r) => .ok ((Int64.ofInt n).toFloat32, r)
  | .ok (.real x, r) => .ok (x.toFloat32, r)

def readText (cs : List Char) : Scan String :=
  match valueStart cs with
  | .error e => .error e
  | .ok ('"'::r) => (textBody r).map fun p => (String.ofList p.1, p.2)
  | .ok cs => .error (refusal cs)

def readOption {α : Type} (read : List Char → Scan α) (cs : List Char) : Scan (Option α) :=
  match skipBlank cs with
  | 'n'::r => (word ['u', 'l', 'l'] r).map (none, ·)
  | _ => (read cs).map fun p => (some p.1, p.2)

def readColon (cs : List Char) : Except Issue (List Char) :=
  match skipBlank cs with
  | ':'::r => .ok r
  | [] => .error .truncated
  | _ => .error .malformed

def keyStart (cs : List Char) : Except Issue (List Char) :=
  match skipBlank cs with
  | '"'::r => .ok r
  | [] => .error .truncated
  | _ => .error .malformed

mutual

/-- The rest after any value; the first argument bounds the nesting. -/
def skipValue : Nat → List Char → Except Issue (List Char)
  | 0, _ => .error .malformed
  | n+1, cs =>
    match skipBlank cs with
    | [] => .error .truncated
    | 'n'::r => word ['u', 'l', 'l'] r
    | 't'::r => word ['r', 'u', 'e'] r
    | 'f'::r => word ['a', 'l', 's', 'e'] r
    | '-'::r => skipNumber r
    | '"'::r => skipText r
    | '['::r =>
      match skipBlank r with
      | [] => .error .truncated
      | ']'::r => .ok r
      | r => skipItems n r
    | '\x7b'::r =>
      match skipBlank r with
      | [] => .error .truncated
      | '\x7d'::r => .ok r
      | r => skipMembers n r
    | c::r => if isDigit c then skipNumber (c::r) else .error .malformed

def skipItems : Nat → List Char → Except Issue (List Char)
  | 0, _ => .error .malformed
  | n+1, cs =>
    match skipValue n cs with
    | .error e => .error e
    | .ok r =>
      match skipBlank r with
      | [] => .error .truncated
      | ']'::r => .ok r
      | ','::r => skipItems n r
      | _ => .error .malformed

def skipMembers : Nat → List Char → Except Issue (List Char)
  | 0, _ => .error .malformed
  | n+1, cs =>
    match keyStart cs with
    | .error e => .error e
    | .ok r =>
      match skipText r with
      | .error e => .error e
      | .ok r =>
        match readColon r with
        | .error e => .error e
        | .ok r =>
          match skipValue n r with
          | .error e => .error e
          | .ok r =>
            match skipBlank r with
            | [] => .error .truncated
            | '\x7d'::r => .ok r
            | ','::r => skipMembers n r
            | _ => .error .malformed

end

/-- The rest after any value. Each level of nesting takes a character. -/
def skipAny (cs : List Char) : Except Issue (List Char) := skipValue (2*cs.length+2) cs

/-- The members of a record after its brace. `member` reads what follows a key
into the draft; the first argument bounds their number. -/
def readMembers {σ : Type} (member : String → σ → List Char → Scan σ) :
    Nat → Bool → σ → List Char → Scan σ
  | 0, _, _, _ => .error .malformed
  | n+1, first, draft, cs =>
    match skipBlank cs with
    | [] => .error .truncated
    | '\x7d'::r => .ok (draft, r)
    | c::r =>
      let key :=
        if first then (if c == '"' then .ok r else .error .malformed)
        else if c == ',' then keyStart r
        else .error .malformed
      match key with
      | .error e => .error e
      | .ok r =>
        match textBody r with
        | .error e => .error e
        | .ok (k, r) =>
          match member (String.ofList k) draft r with
          | .error e => .error e
          | .ok (draft, r) => readMembers member n false draft r

/-- The next item of a list, or `missing` at its bracket. -/
def readItem {α : Type} (missing : Except Issue α) (read : List Char → Scan α) (first : Bool)
    (cs : List Char) : Scan α :=
  match skipBlank cs with
  | [] => .error .truncated
  | ']'::r => missing.map (·, ']'::r)
  | c::r =>
    if first then read (c::r)
    else if c == ',' then
      match skipBlank r with
      | [] => .error .truncated
      | ']'::_ => .error .malformed
      | r => read r
    else .error .malformed

def closeList (cs : List Char) : Except Issue (List Char) :=
  match skipBlank cs with
  | ']'::r => .ok r
  | [] => .error .truncated
  | _ => .error .malformed

/-- A record, or a list with the record's fields in order. -/
def readRecord {α : Type} (members items : List Char → Scan α) (cs : List Char) : Scan α :=
  match valueStart cs with
  | .error e => .error e
  | .ok ('\x7b'::r) => members r
  | .ok ('['::r) =>
    match items r with
    | .error e => .error e
    | .ok (a, r) => (closeList r).map (a, ·)
  | .ok cs => .error (refusal cs)

/-- A member that may come once: its value is read behind the colon. -/
def readField {α : Type} (seen : Bool) (read : List Char → Scan α) (cs : List Char) : Scan α :=
  if seen then .error .mismatched
  else match readColon cs with
    | .error e => .error e
    | .ok r => read r

def skipField (cs : List Char) : Except Issue (List Char) :=
  match readColon cs with
  | .error e => .error e
  | .ok r => skipAny r

def readDocument {α : Type} (read : List Char → Scan α) (s : String) : Except Issue α :=
  match read s.toList with
  | .error e => .error e
  | .ok (a, r) => if (skipBlank r).isEmpty then .ok a else .error .malformed

end LightBridge.Json
