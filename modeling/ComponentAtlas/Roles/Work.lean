import ComponentAtlas.Analysis.Engine
import ComponentAtlas.Evaluation.Interpreter
import ComponentAtlas.Resource
import ComponentAtlas.Roles.Analysis
import ComponentAtlas.Scope.Lookup

/-!
# The work of a handler

The handlers of the five roles share a world: the registry, the scopes and the loaded files. They
never ask the engine. What a handler does is a computation that changes the world, leaves remarks for
the log and collects diagnostics.

* `World`, `Context`: what handlers share, changing and fixed;
* `Work`: a computation of a handler; `Work.routine` turns it into steps for the engine;
* `Fields`: the object literal of a decorator and typed reads of its members;
* `Listed.flatten`: the entries of a list.
-/

namespace ComponentAtlas

open ComponentAtlas.Script

/-- What handlers share and change. -/
structure World where
  registry : Registry := {}
  scopes : Scopes := {}
  loader : Loader := {}
  deriving Inhabited

/-- What handlers share and do not change. -/
structure Context where
  program : Program
  resources : Resources := {}
  /-- How deeply expressions are evaluated. -/
  depth : Nat := 64
  /-- Whether a constructor parameter without a token is an error. -/
  strict : Bool := false
  deriving Inhabited

namespace Context

/-- What is known about classes: analysed ones first, then compiled ones. -/
def metadata (cx : Context) (w : World) : Metadata := w.registry.metadata.orElse (.compiled cx.program)

/-- Recognises a role: a compiled class by its marker, any other class by its decorator. -/
def detect (cx : Context) (role : Role) (id : DeclarationId) : Option Detected := do
  let c ← cx.program.cls? id
  if c.isAmbient then
    if Role.ofMarkers? c = some role then some { role } else none
  else role.among? c.decorators

/-- The declaration with a number. -/
def declaration (cx : Context) (id : DeclarationId) : Declaration := (cx.program.declaration? id).getD default

end Context

/-! ### Computations -/

/-- A world in the hands of a handler. -/
structure Desk where
  world : World
  remarks : List String := []
  diagnostics : List Diagnostic := []

/-- A computation of a handler. -/
abbrev Work := StateM Desk

namespace Work

/-- Leaves a remark for the log. -/
def remark (message : String) : Work Unit := modify fun d => { d with remarks := d.remarks ++ [message] }

/-- Adds a diagnostic. -/
def report (diagnostic : Diagnostic) : Work Unit :=
  modify fun d => { d with diagnostics := d.diagnostics ++ [diagnostic] }

/-- The value of an expression; the dependencies that its evaluation notices are kept. -/
def evaluate (cx : Context) (e : Expr) (file : String) : Work Value := do
  let outcome := Evaluation.evaluate cx.program cx.depth e file []
  modify fun d =>
    let loader := { d.world.loader with graph := outcome.note d.world.loader.graph }
    { d with world := { d.world with loader } }
  return outcome.value

/-- Reads what an address of a file stands for. -/
def fetch (cx : Context) (url file : String) : Work (String × Except ResourceError String) := do
  let d ← get
  let (answer, loader) := (Loader.fetch cx.resources url file).run d.world.loader
  set { d with
    world := { d.world with loader := { loader with remarks := [] } }
    remarks := d.remarks ++ loader.remarks }
  return answer

/-- Looks at scopes. -/
def lookUp {β : Type} (s : Scoping β) : Work β := do
  let d ← get
  let (answer, scopes) := s.run d.world.scopes
  set { d with
    world := { d.world with scopes := { scopes with remarks := [] } }
    remarks := d.remarks ++ scopes.remarks }
  return answer

/-- Changes the registry. -/
def register (f : Registry → Registry) : Work Unit :=
  modify fun d => { d with world := { d.world with registry := f d.world.registry } }

/-- The steps of a computation. -/
def routine {β : Type} (w : Work β) : Routine World Analysis Resolution β := do
  let world ← Routine.get
  let (result, desk) := w.run { world }
  Routine.modify fun _ => desk.world
  Routine.notes desk.remarks
  return result

end Work

/-! ### Arguments of decorators -/

/-- The only argument of a decorator, an object literal. A call without arguments is accepted when the
argument is optional. -/
def Script.Decorator.options? (d : Decorator) (file : String) (optional : Bool) :
    Except Diagnostic (Option Expr) :=
  let name := d.shortName
  match d.args with
  | none => .error (Fault.error .decoratorNotCalled file d.range s!"@{name} must be called")
  | some [] =>
    if optional then .ok none
    else .error (Fault.error .decoratorArityWrong file d.range s!"@{name} requires an argument")
  | some [arg] =>
    match arg.shape with
    | .object _ => .ok (some arg)
    | _ => .error (Fault.error .decoratorArgNotLiteral file arg.range
        s!"@{name} argument must be an object literal")
  | some args => .error (Fault.error .decoratorArityWrong file d.range
      s!"@{name} takes at most one argument, got {args.length}")

/-- A value as shown in a message about its type. -/
def Value.describe : Value → String
  | .dynamic d => "a value that could not be determined statically (" ++ d.rootCause.reason.render ++ ")"
  | v => v.typeName ++ " " ++ v.render

/-- The object literal of a decorator, with its file. -/
structure Fields where
  cx : Context
  object : Expr
  file : String

namespace Fields

/-- The expression of a field. -/
def raw? (f : Fields) (name : String) : Option Expr := f.object.member? name

/-- The expression of a field, with its file. -/
def source? (f : Fields) (name : String) : Option SourceExpr := (f.raw? name).map (⟨·, f.file⟩)

/-- Where a field is written. -/
def range (f : Fields) (name : String) : Range := ((f.raw? name).map (·.range)).getD {}

/-- The value of a field. -/
def value? (f : Fields) (name : String) : Work (Option Value) :=
  match f.raw? name with
  | none => return none
  | some e => return some (← Work.evaluate f.cx e f.file)

/-- Reports that a field, or an entry of it, has a value of the wrong type. -/
def wrongType (f : Fields) (field entry expected : String) (actual : Value) : Work Unit :=
  let range := ((f.raw? field).map (·.range)).getD f.object.range
  Work.report (Fault.error .valueHasWrongType f.file range
    (field ++ entry ++ " must be " ++ expected ++ ", got " ++ actual.describe))

/-- The text of a field. -/
def string? (f : Fields) (name : String) : Work (Option String) := do
  match ← f.value? name with
  | none | some .undefined => return none
  | some (.string s) => return some s
  | some other =>
    f.wrongType name "" "a string" other
    return none

/-- The truth value of a field. -/
def boolean? (f : Fields) (name : String) : Work (Option Bool) := do
  match ← f.value? name with
  | none | some .undefined => return none
  | some (.boolean b) => return some b
  | some other =>
    f.wrongType name "" "a boolean" other
    return none

/-- The first value that is no text. -/
def firstOther? : List Value → Option Value
  | [] => none
  | .string _ :: vs => firstOther? vs
  | v :: _ => some v

/-- The texts of a field; a single text is accepted if `single` says so. -/
def strings (f : Fields) (name : String) (single : Bool) : Work (List String) := do
  match ← f.value? name with
  | none | some .undefined => return []
  | some (.array items) =>
    match firstOther? items with
    | none => return items.filterMap Value.asString?
    | some other =>
      f.wrongType name "" "an array of strings" other
      return []
  | some other =>
    match single, other with
    | true, .string s => return [s]
    | _, _ =>
      f.wrongType name "" "an array of strings" other
      return []

/-- Puts the entries that are texts into a table and reports the others. -/
def putStrings (f : Fields) (name : String) :
    List (String × Value) → Table String String → Work (Table String String)
  | [], table => return table
  | (key, .string s) :: rest, table => putStrings f name rest (Table.put key s table)
  | (key, other) :: rest, table => do
    f.wrongType name ("." ++ key) "a string" other
    putStrings f name rest table

/-- The texts of a field by key. -/
def stringMap (f : Fields) (name : String) : Work (Table String String) := do
  match ← f.value? name with
  | none | some .undefined => return []
  | some (.map entries) => f.putStrings name entries []
  | some other =>
    f.wrongType name "" "an object" other
    return []

end Fields

/-! ### Lists -/

/-- An entry of a list of classes. -/
inductive Listed
  | reference (r : Reference)
  /-- Something from outside the program. -/
  | external (module name : String)
  /-- Anything else. -/
  | other (v : Value)
  deriving Inhabited

/-- What a value that is no array is in a list. -/
def Listed.ofLeaf : Value → Listed
  | .reference r => .reference r
  | .dynamic d =>
    match d.rootCause.reason with
    | .external module name => .external module name
    | _ => .other (.dynamic d)
  | v => .other v

mutual

/-- The entries of a value, in which arrays may be nested. -/
def Listed.flatten : Value → List Listed
  | .array items => Listed.flattenAll items
  | v => [Listed.ofLeaf v]

/-- The entries of several values. -/
def Listed.flattenAll : List Value → List Listed
  | [] => []
  | v :: vs => Listed.flatten v ++ Listed.flattenAll vs

end

/-- The reference that an entry is. -/
def Listed.reference? : Listed → Option Reference
  | .reference r => some r
  | _ => none

end ComponentAtlas
