import ComponentAtlas.Json.Basic

/-!
# Reading structured values

* `Json.ofText?`: the value that a text denotes, `none` when the text is not well formed.

Nesting is bounded by the length of the text, which `value` takes as its fuel.
-/

namespace ComponentAtlas.Json

open ComponentAtlas.Text

/-- White space between the parts of a structured value. -/
def isSpace (c : Char) : Bool := c == ' ' || c == '\n' || c == '\t' || c == '\r'

/-- The text without leading white space. -/
def skip (cs : List Char) : List Char := cs.dropWhile isSpace

/-- The value of a hexadecimal digit. -/
def hexDigit? (c : Char) : Option Nat :=
  if c.isDigit then some (c.toNat - 48)
  else if 'a' ≤ c && c ≤ 'f' then some (c.toNat - 87)
  else if 'A' ≤ c && c ≤ 'F' then some (c.toNat - 55)
  else none

/-- The value of four hexadecimal digits. -/
def hexValue? (a b c d : Char) : Option Nat := do
  let a ← hexDigit? a
  let b ← hexDigit? b
  let c ← hexDigit? c
  let d ← hexDigit? d
  return ((a * 16 + b) * 16 + c) * 16 + d

/-- The rest of a quoted text, with what follows it. A surrogate has to be one of a pair. -/
def quoted (out : List Char) : List Char → Option (String × List Char)
  | '"' :: rest => some (String.ofList out.reverse, rest)
  | '\\' :: 'u' :: a :: b :: c :: d :: rest =>
    match hexValue? a b c d with
    | none => none
    | some n =>
      if 0xD800 ≤ n && n < 0xDC00 then
        match rest with
        | '\\' :: 'u' :: e :: f :: g :: h :: rest =>
          match hexValue? e f g h with
          | some m =>
            if 0xDC00 ≤ m && m < 0xE000 then
              quoted (Char.ofNat (0x10000 + (n - 0xD800) * 0x400 + (m - 0xDC00)) :: out) rest
            else none
          | none => none
        | _ => none
      else if 0xDC00 ≤ n && n < 0xE000 then none
      else quoted (Char.ofNat n :: out) rest
  | '\\' :: c :: rest =>
    match c with
    | '"' | '\\' | '/' => quoted (c :: out) rest
    | 'b' => quoted ('\x08' :: out) rest
    | 'f' => quoted ('\x0c' :: out) rest
    | 'n' => quoted ('\n' :: out) rest
    | 'r' => quoted ('\r' :: out) rest
    | 't' => quoted ('\t' :: out) rest
    | _ => none
  | c :: rest => if c.toNat < 0x20 then none else quoted (c :: out) rest
  | [] => none

/-- The value of a list of decimal digits. -/
def digitsValue (ds : List Char) : Nat := ds.foldl (fun n d => n * 10 + (d.toNat - 48)) 0

/-- The fraction of a number: its digits, empty when there is none. -/
def fraction (cs : List Char) : Option (List Char × List Char) :=
  match cs with
  | '.' :: rest =>
    let ds := rest.takeWhile Char.isDigit
    if ds.isEmpty then none else some (ds, rest.dropWhile Char.isDigit)
  | _ => some ([], cs)

/-- The exponent of a number, `none` inside when there is none. -/
def exponent (cs : List Char) : Option (Option Int × List Char) :=
  match cs with
  | e :: rest =>
    if e == 'e' || e == 'E' then
      let (negative, rest) :=
        match rest with
        | '-' :: r => (true, r)
        | '+' :: r => (false, r)
        | r => (false, r)
      let ds := rest.takeWhile Char.isDigit
      if ds.isEmpty then none
      else
        let n := Int.ofNat (digitsValue ds)
        some (some (if negative then -n else n), rest.dropWhile Char.isDigit)
    else some (none, cs)
  | [] => some (none, cs)

/-- A number, with what follows it. -/
def number (cs : List Char) : Option (Decimal × List Char) := do
  let (negative, cs) :=
    match cs with
    | '-' :: r => (true, r)
    | r => (false, r)
  let whole := cs.takeWhile Char.isDigit
  if whole.isEmpty || (whole.head? == some '0' && whole.length > 1) then none
  else do
    let (frac, rest) ← fraction (cs.dropWhile Char.isDigit)
    let (exp, rest) ← exponent rest
    return (⟨negative, digitsValue (whole ++ frac), exp.getD 0 - Int.ofNat frac.length,
      frac.isEmpty && exp.isNone⟩, rest)

mutual

/-- A value, with what follows it. -/
def value : Nat → List Char → Option (Json × List Char)
  | 0, _ => none
  | fuel + 1, cs =>
    match skip cs with
    | 'n' :: 'u' :: 'l' :: 'l' :: rest => some (.null, rest)
    | 't' :: 'r' :: 'u' :: 'e' :: rest => some (.bool true, rest)
    | 'f' :: 'a' :: 'l' :: 's' :: 'e' :: rest => some (.bool false, rest)
    | '"' :: rest => (quoted [] rest).map fun (s, rest) => (.str s, rest)
    | '[' :: rest =>
      match skip rest with
      | ']' :: rest => some (.arr [], rest)
      | _ => (items fuel rest).map fun (js, rest) => (.arr js, rest)
    | '\x7b' :: rest =>
      match skip rest with
      | '\x7d' :: rest => some (.obj [], rest)
      | _ => (members fuel rest).map fun (ms, rest) => (.obj ms, rest)
    | cs => (number cs).map fun (d, rest) => (.num d, rest)

/-- The items of a list up to its closing bracket. -/
def items : Nat → List Char → Option (List Json × List Char)
  | 0, _ => none
  | fuel + 1, cs =>
    match value fuel cs with
    | none => none
    | some (j, rest) =>
      match skip rest with
      | ',' :: rest => (items fuel rest).map fun (js, rest) => (j :: js, rest)
      | ']' :: rest => some ([j], rest)
      | _ => none

/-- The members of an object up to its closing brace. -/
def members : Nat → List Char → Option (List (String × Json) × List Char)
  | 0, _ => none
  | fuel + 1, cs =>
    match skip cs with
    | '"' :: rest =>
      match quoted [] rest with
      | none => none
      | some (key, rest) =>
        match skip rest with
        | ':' :: rest =>
          match value fuel rest with
          | none => none
          | some (j, rest) =>
            match skip rest with
            | ',' :: rest => (members fuel rest).map fun (ms, rest) => ((key, j) :: ms, rest)
            | '\x7d' :: rest => some ([(key, j)], rest)
            | _ => none
        | _ => none
    | _ => none

end

/-- The value that a text denotes. -/
def ofText? (text : String) : Option Json :=
  let cs := text.toList
  match value (cs.length + 1) cs with
  | some (j, rest) => if (skip rest).isEmpty then some j else none
  | none => none

end ComponentAtlas.Json
