import ComponentAtlas.Diagnostic.Basic
import ComponentAtlas.Text.Chars
import ComponentAtlas.Text.Ranges

/-!
# Diagnostics of the analysis

The analysis has its own codes, which are stored as negative numbers that begin with `-99` and shown
behind the letters `NG`.

* `ErrorCode`, `ErrorCode.stored`: the codes;
* `Fault`: a problem found by the analysis;
* `Diagnostic.showCodes`, `Diagnostic.format`: diagnostics with codes as a user knows them.
-/

namespace ComponentAtlas

/-- What is wrong with a declaration. -/
inductive ErrorCode
  | decoratorArgNotLiteral
  | decoratorArityWrong
  | decoratorNotCalled
  | decoratorCollision
  | valueHasWrongType
  | valueNotLiteral
  | componentMissingTemplate
  | pipeMissingName
  | paramMissingToken
  | directiveMissingSelector
  | componentResourceNotFound
  | componentUnknownImport
  | moduleInvalidDeclaration
  | moduleInvalidImport
  | moduleInvalidExport
  | moduleDeclarationNotUnique
  deriving DecidableEq, Repr, Inhabited

namespace ErrorCode

/-- All codes. -/
def all : List ErrorCode :=
  [.decoratorArgNotLiteral, .decoratorArityWrong, .decoratorNotCalled, .decoratorCollision,
   .valueHasWrongType, .valueNotLiteral, .componentMissingTemplate, .pipeMissingName,
   .paramMissingToken, .directiveMissingSelector, .componentResourceNotFound,
   .componentUnknownImport, .moduleInvalidDeclaration, .moduleInvalidImport, .moduleInvalidExport,
   .moduleDeclarationNotUnique]

/-- The number of a code. -/
def number : ErrorCode → Nat
  | .decoratorArgNotLiteral => 1001
  | .decoratorArityWrong => 1002
  | .decoratorNotCalled => 1003
  | .decoratorCollision => 1006
  | .valueHasWrongType => 1010
  | .valueNotLiteral => 1011
  | .componentMissingTemplate => 2001
  | .pipeMissingName => 2002
  | .paramMissingToken => 2003
  | .directiveMissingSelector => 2004
  | .componentResourceNotFound => 2008
  | .componentUnknownImport => 2012
  | .moduleInvalidDeclaration => 6001
  | .moduleInvalidImport => 6002
  | .moduleInvalidExport => 6003
  | .moduleDeclarationNotUnique => 6007

/-- The name of a code. -/
def name : ErrorCode → String
  | .decoratorArgNotLiteral => "DecoratorArgNotLiteral"
  | .decoratorArityWrong => "DecoratorArityWrong"
  | .decoratorNotCalled => "DecoratorNotCalled"
  | .decoratorCollision => "DecoratorCollision"
  | .valueHasWrongType => "ValueHasWrongType"
  | .valueNotLiteral => "ValueNotLiteral"
  | .componentMissingTemplate => "ComponentMissingTemplate"
  | .pipeMissingName => "PipeMissingName"
  | .paramMissingToken => "ParamMissingToken"
  | .directiveMissingSelector => "DirectiveMissingSelector"
  | .componentResourceNotFound => "ComponentResourceNotFound"
  | .componentUnknownImport => "ComponentUnknownImport"
  | .moduleInvalidDeclaration => "NgmoduleInvalidDeclaration"
  | .moduleInvalidImport => "NgmoduleInvalidImport"
  | .moduleInvalidExport => "NgmoduleInvalidExport"
  | .moduleDeclarationNotUnique => "NgmoduleDeclarationNotUnique"

/-- The code with a name. -/
def ofName? (s : String) : Option ErrorCode := all.find? fun c => c.name == s

/-- The number under which a code is stored in a diagnostic: `-99` and then its digits. -/
def stored (c : ErrorCode) : Int := -Int.ofNat (99 * Nat.pow 10 (Nat.toDigits 10 c.number).length + c.number)

end ErrorCode

/-- A problem that the analysis found at a place in a file. -/
structure Fault where
  code : ErrorCode
  file : String
  range : Script.Range
  message : Chain
  related : Option (List Related) := none
  deriving Inhabited, Repr

namespace Fault

/-- The diagnostic of a problem, with a category. -/
def toDiagnostic (f : Fault) (category : Category) : Diagnostic :=
  { category, code := f.code.stored, file := some f.file, start := f.range.start,
    length := f.range.length, message := f.message, related := f.related }

/-- An error of the analysis. -/
def error (code : ErrorCode) (file : String) (range : Script.Range) (message : String) : Diagnostic :=
  ({ code, file, range, message := .text message } : Fault).toDiagnostic .error

/-- The problem as shown to a developer. -/
def render (f : Fault) : String :=
  "FatalDiagnosticError: Code: " ++ f.code.name ++ ", Message: " ++ f.message.render

end Fault

/-- A remark at a range of a file. -/
def Related.note (file : String) (range : Script.Range) (message : String) : Related :=
  { category := .message, code := 0, file := some file, start := some range.start,
    length := some range.length, message }

namespace Diagnostic

/-- A text in which stored codes are shown with the letters `NG`. -/
def showCodesIn : Nat → List Char → List Char
  | 0, cs => cs
  | _ + 1, [] => []
  | fuel + 1, c :: cs =>
    match Text.dropLiteral? "TS-99".toList (c :: cs) with
    | none => c :: showCodesIn fuel cs
    | some rest =>
      match rest.takeWhile Text.Classes.digit with
      | [] => c :: showCodesIn fuel cs
      | digits => 'N' :: 'G' :: digits ++ showCodesIn fuel (rest.drop digits.length)

/-- A text in which stored codes are shown with the letters `NG`. -/
def showCodes (text : String) : String :=
  String.ofList (showCodesIn (text.length + 1) text.toList)

/-- Diagnostics as shown to a user, each from the start of a line. -/
def format (ds : List Diagnostic) : String := showCodes ("\n".intercalate (ds.map (·.render)))

end Diagnostic

end ComponentAtlas
