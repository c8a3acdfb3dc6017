import ComponentAtlas.Text.Chars

/-!
# Character references

* `decode`: a text with its character references replaced by what they stand for.

Numeric references and the names `amp`, `lt`, `gt`, `quot`, `apos` and `nbsp` are known; any other
reference is left as it is written.
-/

namespace ComponentAtlas.Markup.Entity

open ComponentAtlas.Text

/-- A hexadecimal digit. -/
def isHexDigit (c : Char) : Bool :=
  c.isDigit || ('a' ≤ c && c ≤ 'f') || ('A' ≤ c && c ≤ 'F')

/-- The value of a hexadecimal digit. -/
def hexValue (c : Char) : Nat :=
  if c.isDigit then c.toNat - 48 else if 'a' ≤ c then c.toNat - 87 else c.toNat - 55

/-- The number written by digits in a base. -/
def numeral (base : Nat) (ds : List Char) : Nat := ds.foldl (fun n d => n * base + hexValue d) 0

/-- The character with a code point, if there is one. -/
def scalar? (n : Nat) : Option Char :=
  if n < 0xD800 || (0xDFFF < n && n < 0x110000) then some (Char.ofNat n) else none

/-- The character with a known name. -/
def named? : String → Option Char
  | "amp" => some '&'
  | "lt" => some '<'
  | "gt" => some '>'
  | "quot" => some '"'
  | "apos" => some '\''
  | "nbsp" => some '\u00a0'
  | _ => none

/-- The reference that follows an ampersand: the character it stands for, if any, and what follows
the closing semicolon. -/
def reference? (cs : List Char) : Option (Option Char × List Char) :=
  match cs with
  | '#' :: rest =>
    let hex :=
      match rest with
      | x :: digits =>
        if x == 'x' || x == 'X' then
          match digits.takeWhile isHexDigit, digits.dropWhile isHexDigit with
          | d :: ds, ';' :: rest => some (scalar? (numeral 16 (d :: ds)), rest)
          | _, _ => none
        else none
      | [] => none
    hex.or
      (match rest.takeWhile Char.isDigit, rest.dropWhile Char.isDigit with
        | d :: ds, ';' :: rest => some (scalar? (numeral 10 (d :: ds)), rest)
        | _, _ => none)
  | _ =>
    match cs.takeWhile Char.isAlpha, cs.dropWhile Char.isAlpha with
    | d :: ds, ';' :: rest => some (named? (String.ofList (d :: ds)), rest)
    | _, _ => none

/-- The text with its references replaced. Every reference is a part of the text, so the list itself
bounds the number of steps. -/
def decodeChars : Nat → List Char → List Char
  | 0, cs => cs
  | _ + 1, [] => []
  | fuel + 1, c :: cs =>
    if c == '&' then
      match reference? cs with
      | some (some d, rest) => d :: decodeChars fuel rest
      | some (none, rest) =>
        c :: cs.take (cs.length - rest.length) ++ decodeChars fuel rest
      | none => c :: decodeChars fuel cs
    else c :: decodeChars fuel cs

/-- The string of a text with its references replaced. -/
def decode (cs : List Char) : String := String.ofList (decodeChars cs.length cs)

end ComponentAtlas.Markup.Entity
