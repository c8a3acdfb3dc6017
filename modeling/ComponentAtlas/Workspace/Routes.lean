import ComponentAtlas.Route
import ComponentAtlas.Workspace.Symbols

/-!
# Modules that routes load

The search follows the routes of a module to the modules that they load, and from there on. A file is
entered once; a module that loads itself through others is a failure.

* `LazyRoute`: a module that a route loads;
* `Workspace.lazyRoutes`: all of them below a module, in the order of the search.
-/

namespace ComponentAtlas

open ComponentAtlas.Script

/-- A module that a route loads. -/
structure LazyRoute where
  path : String
  module : Reference
  /-- The name of the module with the route. -/
  parent : String
  deriving DecidableEq, Repr, Inhabited

/-- A search for loaded modules. -/
structure Discovery where
  /-- The files entered so far. -/
  seen : List String := []
  /-- The modules that lead to the current one, the outermost first. -/
  stack : List Reference := []
  routes : List LazyRoute := []
  deriving Inhabited

/-- A computation of a search. -/
abbrev Discovering := StateT Discovery Asking

namespace Workspace

/-- Writes a line to the log. -/
def tell (level : Level) (message : String) : Discovering Unit :=
  show Asking Unit from modify (note level message)

/-- What a route loads, with the lines for the log when that is not known. -/
def loaded? (p : Program) (file path : String) (target : Value) : Except String Reference :=
  match LoadTarget.ofValue? file target with
  | none => .error s!"route '{path}' in {file}: unsupported loadChildren"
  | some t =>
    match p.module? t.file t.specifier with
    | none => .error s!"route '{path}': cannot resolve '{t.specifier}' from {t.file}"
    | some found =>
      match p.export? found t.name with
      | some (.declaration id) => .ok (p.reference id)
      | _ => .error s!"route '{path}': '{t.name}' is not exported by {found}"

/-- The imports of a module; `none` for a class that is no module or has errors. -/
def importsOf? (id : DeclarationId) : Asking (Option SourceExpr) :=
  tryCatch (do
    match ← analysis? id with
    | some (.ngModule m) => return m.importsSource
    | _ => return none) fun
    | .analysis name ds => do
      modify (note .warn ("not following routes of errored module: " ++ (Failure.analysis name ds).message))
      return none
    | f => throw f

section Step

variable (enter : Reference → Discovering Unit)

/-- Follows a route to a module that is not on the way to it. -/
def followTo (path : String) (target : Reference) : Discovering Unit := do
  let d ← get
  match d.stack.findIdx? fun r => r.id == target.id with
  | some place =>
    throw (.lazyRouteCycle (((d.stack.drop place) ++ [target]).map (·.name)))
  | none =>
    if target.file ∈ d.seen then tell .info s!"route '{path}': {target.file} already discovered"
    else
      let parent := ((d.stack.getLast?).map (·.name)).getD ""
      tell .info s!"route '{path}': {parent} loads {target.name} ({target.file})"
      modify fun d => { d with
        seen := d.seen ++ [target.file]
        routes := d.routes ++ [{ path, module := target, parent }] }
      enter target

/-- Follows the routes of a file. -/
def followAll (file : String) : List RouteItem → Discovering Unit
  | [] => return
  | .ignored typeName :: rest => do
    tell .debug s!"ignoring route entry of type {typeName} in {file}"
    followAll file rest
  | .load path target :: rest => do
    match loaded? (← getThe Workspace).program file path target with
    | .error message => tell .debug message
    | .ok found => followTo enter path found
    followAll file rest

/-- Follows the routes of all calls of the router. -/
def followCalls : List (Expr × String) → Discovering Unit
  | [] => return
  | (argument, file) :: rest => do
    let routes ← evaluate argument file
    followAll enter file (RouteItem.ofValue routes)
    followCalls rest

/-- Follows the routes of a module. -/
def followModule (id : DeclarationId) : Discovering Unit := do
  match ← importsOf? id with
  | none => return
  | some imports =>
    let value ← evaluate imports.node imports.file
    followCalls enter (routerCalls value)

end Step

/-- Searches below a module; the bound is on the number of modules that lead to the current one. -/
def discover : Nat → Reference → Discovering Unit
  | 0, _ => return
  | depth + 1, module => do
    modify fun d => { d with stack := d.stack ++ [module] }
    followModule (discover depth) module.id
    modify fun d => { d with stack := d.stack.dropLast }

/-- The modules that routes load below a module. -/
def lazyRoutes (s : Symbol) : Asking (List LazyRoute) := do
  let _ ← moduleOf s
  let p ← theProgram
  require .evaluator
  require .engine
  let (_, d) ← (discover (p.declarations.length + 1) (p.reference s.id)).run { seen := [s.path] }
  return d.routes

end Workspace

end ComponentAtlas
