import ComponentAtlas.Text.Chars

/-!
# Structured values

Settings are read from and results are written as JSON. An object keeps its members in the order in
which they are written.

* `Json`: a structured value;
* `Json.render`: its text;
* `Json.get?`: a member of an object.
-/

namespace ComponentAtlas

/-- A decimal number as written: `± digits · 10 ^ scale`. -/
structure Json.Decimal where
  negative : Bool
  digits : Nat
  scale : Int
  /-- Written without fraction and exponent. -/
  integral : Bool
  deriving DecidableEq, Repr, Inhabited

/-- A structured value. -/
inductive Json
  | null
  | bool (b : Bool)
  | num (d : Json.Decimal)
  | str (s : String)
  | arr (items : List Json)
  | obj (members : List (String × Json))
  deriving Inhabited, Repr

namespace Json

/-- The number as a floating point value. -/
def Decimal.toFloat (d : Decimal) : Float :=
  let x := Float.ofScientific d.digits (d.scale < 0) d.scale.natAbs
  if d.negative then -x else x

/-- A natural number. -/
def ofNat (n : Nat) : Json := .num ⟨false, n, 0, true⟩

/-- An integer. -/
def ofInt (i : Int) : Json := .num ⟨i < 0, i.natAbs, 0, true⟩

/-- A list of strings. -/
def ofStrings (ss : List String) : Json := .arr (ss.map .str)

/-- `null` for nothing. -/
def ofOption {α : Type} (f : α → Json) : Option α → Json
  | some a => f a
  | none => .null

/-- A member of an object. -/
def get? (key : String) : Json → Option Json
  | .obj members => (members.find? fun m => m.1 == key).map (·.2)
  | _ => none

/-- Four hexadecimal digits. -/
def hex4 (n : Nat) : List Char :=
  let ds := Nat.toDigits 16 n
  List.replicate (4 - ds.length) '0' ++ ds

/-- A character inside a quoted text. -/
def escape (c : Char) : List Char :=
  if c == '"' then ['\\', '"']
  else if c == '\\' then ['\\', '\\']
  else if c == '\n' then ['\\', 'n']
  else if c.toNat < 0x20 then ['\\', 'u'] ++ hex4 c.toNat
  else [c]

/-- A quoted text. -/
def quote (s : String) : String := "\"" ++ String.ofList (s.toList.flatMap escape) ++ "\""

/-- The text of a number. -/
def Decimal.render (d : Decimal) : String :=
  (if d.negative then "-" else "") ++ toString d.digits ++
    (if d.scale == 0 then "" else "e" ++ toString d.scale)

mutual

/-- The text of a value, on one line. -/
def render : Json → String
  | .null => "null"
  | .bool b => if b then "true" else "false"
  | .num d => d.render
  | .str s => quote s
  | .arr items => "[" ++ ",".intercalate (renderItems items) ++ "]"
  | .obj members => "\x7b" ++ ",".intercalate (renderMembers members) ++ "\x7d"

/-- The texts of several values. -/
def renderItems : List Json → List String
  | [] => []
  | j :: js => j.render :: renderItems js

/-- The texts of several members. -/
def renderMembers : List (String × Json) → List String
  | [] => []
  | (k, j) :: ms => (quote k ++ ":" ++ j.render) :: renderMembers ms

end

end Json

end ComponentAtlas
