import ComponentAtlas.Program.Classes
import ComponentAtlas.Roles.Work

/-!
# Dependencies of constructors

Every parameter of a constructor asks for a token: the argument of a decorator, or else the class that
its type names.

* `Unavailable`: why a parameter has no token;
* `Work.dependencies`: what the constructor of a class asks for.
-/

namespace ComponentAtlas

open ComponentAtlas.Script

/-- Why a parameter has no token. -/
inductive Unavailable
  | missingType
  /-- The type names nothing that is known. -/
  | unknown (name : String)
  /-- The type is no class. -/
  | unsupported (type : String)
  /-- The type is a whole file. -/
  | wholeModule (name : String)
  deriving DecidableEq, Repr, Inhabited

/-- The reason as shown to a user. -/
def Unavailable.message : Unavailable → String
  | .missingType => "it has no type annotation"
  | .unknown name => s!"'{name}' could not be resolved"
  | .unsupported type => s!"'{type}' is not a valid injection token"
  | .wholeModule name => s!"'{name}' is a namespace import, not a value"

/-- The token that the type of a parameter stands for. -/
def Program.typeToken (p : Program) (file : String) (q : Parameter) : Except Unavailable Value :=
  match q.type with
  | none => .error .missingType
  | some (.keyword keyword) => .error (.unsupported keyword)
  | some (.reference name _) =>
    match p.entity? name file with
    | some (.declaration id) => .ok (.reference (p.reference id))
    | some (.external module imported) =>
      .ok (.dynamic (.mk (.node (.ident name) q.range) file (.external module imported)))
    | some (.whole _) => .error (.wholeModule name)
    | none => .error (.unknown name)
  | some _ => .error (.unsupported "type literal")

/-- A parameter that has no token. -/
structure Missing where
  /-- Its place among the parameters of the constructor. -/
  index : Nat
  name : Option String
  file : String
  range : Range
  reason : Unavailable
  deriving Inhabited

namespace Work

/-- What a decorator of a parameter adds to a dependency. -/
def applyDecorator (cx : Context) (file : String) (dep : Dependency) (d : Decorator) : Work Dependency := do
  if !d.isCore then return dep
  else
    match d.shortName, d.firstArg? with
    | "Optional", _ => return { dep with flags := { dep.flags with optional := true } }
    | "Host", _ => return { dep with flags := { dep.flags with host := true } }
    | "Self", _ => return { dep with flags := { dep.flags with self := true } }
    | "SkipSelf", _ => return { dep with flags := { dep.flags with skipSelf := true } }
    | "Inject", some arg => return { dep with token := some (← evaluate cx arg file) }
    | "Attribute", some arg =>
      let value ← evaluate cx arg file
      return { dep with attributeName := value.asString?, token := some value }
    | _, _ => return dep

/-- What a parameter asks for, and why it has no token. -/
def parameter (cx : Context) (file : String) (q : Parameter) : Work (Dependency × Option Unavailable) := do
  let dep ← q.decorators.foldlM (applyDecorator cx file) { token := none, paramName := q.name }
  match dep.token with
  | some _ => return (dep, none)
  | none =>
    match cx.program.typeToken file q with
    | .ok token => return ({ dep with token := some token }, none)
    | .error reason => return (dep, some reason)

/-- What the parameters of a constructor from the place `index` on ask for, and those that have no
token. -/
def parametersFrom (cx : Context) (file : String) (index : Nat) :
    List Parameter → Work (List Dependency × List Missing)
  | [] => return ([], [])
  | q :: qs => do
    let (dep, reason) ← parameter cx file q
    let (deps, missing) ← parametersFrom cx file (index + 1) qs
    return (dep :: deps, (reason.map fun r => ⟨index, q.name, file, q.range, r⟩).toList ++ missing)

/-- What the parameters of a constructor ask for, and those that have no token. -/
def parameters (cx : Context) (file : String) (qs : List Parameter) :
    Work (List Dependency × List Missing) := parametersFrom cx file 0 qs

/-- The error of a parameter without a token. -/
def missingToken (className : String) (m : Missing) : Diagnostic :=
  Fault.error .paramMissingToken m.file m.range
    ("No suitable injection token for parameter '" ++ m.name.getD "<unknown>" ++ "' of class '" ++
      className ++ "': " ++ m.reason.message ++ ".")

/-- What the constructor of a class asks for. Parameters without a token are errors in strict contexts
and stay without a token in others. -/
def dependencies (cx : Context) (id : DeclarationId) : Work (Option (List Dependency) × List Diagnostic) := do
  match cx.program.constructor? id with
  | none => return (some [], [])
  | some c =>
    let file := (cx.declaration c.owner).file
    let (deps, missing) ← parameters cx file c.params
    let name := (cx.declaration id).name
    if missing.isEmpty then return (some deps, [])
    else if cx.strict then return (none, missing.map (missingToken name))
    else
      remark s!"{name}: {missing.length} constructor parameter(s) without a token"
      return (some deps, [])

end Work

end ComponentAtlas
