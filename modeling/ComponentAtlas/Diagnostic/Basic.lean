import ComponentAtlas.Script.Tree

/-!
# Diagnostics

A diagnostic is a message with a category and a code at a place in a file. Its text is a single
message or a chain, in which further messages explain the first one.

* `Chain`, `Chain.render`, `Chain.append`: texts of diagnostics;
* `Diagnostic`, `Diagnostic.render`: diagnostics as shown to a user.
-/

namespace ComponentAtlas

/-- How serious a diagnostic is. -/
inductive Category
  | warning
  | error
  | suggestion
  | message
  deriving DecidableEq, Repr, Inhabited

/-- The text of a diagnostic. -/
inductive Chain
  | text (s : String)
  | chain (s : String) (category : Category) (code : Int) (next : Option (List Chain))
  deriving Inhabited, Repr

namespace Chain

mutual

/-- The text as shown to a user: the further messages stand on lines of their own. -/
def render : Chain → String
  | .text s => s
  | .chain s _ _ none => s
  | .chain s _ _ (some next) => s ++ renderNext next

/-- The further messages of a chain. -/
def renderNext : List Chain → String
  | [] => ""
  | c :: cs => "\n  " ++ c.render ++ renderNext cs

end

/-- A chain that starts with a plain message. -/
def start (s : String) (next : Option (List Chain)) : Chain := .chain s .message 0 next

/-- The chain with more messages at its end. -/
def append (c : Chain) (more : List Chain) : Chain :=
  match c with
  | .text s => start s (some more)
  | .chain s category code next => .chain s category code (some (next.getD [] ++ more))

end Chain

/-- A remark that belongs to a diagnostic. -/
structure Related where
  category : Category
  code : Int
  file : Option String
  start : Option Nat
  length : Option Nat
  message : String
  deriving DecidableEq, Repr, Inhabited

/-- A message at a place in a file. -/
structure Diagnostic where
  category : Category
  code : Int
  file : Option String
  start : Nat
  length : Nat
  message : Chain
  related : Option (List Related) := none
  deriving Inhabited, Repr

namespace Diagnostic

/-- An error at a range of a file. -/
def error (code : Int) (file : String) (range : Script.Range) (message : Chain) : Diagnostic :=
  { category := .error, code, file := some file, start := range.start, length := range.length, message }

/-- Whether a diagnostic is an error. -/
def isError (d : Diagnostic) : Bool := d.category == .error

/-- The diagnostic as shown to a user. -/
def render (d : Diagnostic) : String :=
  let body := s!"TS{d.code}: " ++ d.message.render
  match d.file with
  | some file => s!"{file}@{d.start}: " ++ body
  | none => body

/-- The code of malformed sources. -/
def syntaxCode : Int := 1005

/-- A malformed source. -/
def malformed (file : String) : Diagnostic :=
  error syntaxCode file {} (.text "Unexpected token")

end Diagnostic

end ComponentAtlas
