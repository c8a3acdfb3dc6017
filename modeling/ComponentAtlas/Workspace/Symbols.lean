import ComponentAtlas.Workspace.Session

/-!
# Symbols of a workspace

* `Workspace.all`, `Workspace.symbol?`, `Workspace.symbolNamed?`: annotated classes;
* `Workspace.find`: what answers a request for a token;
* `Workspace.dependencies`, `Workspace.providersOfSymbol`: what a class asks for and offers;
* `Workspace.problems`: all diagnostics.
-/

namespace ComponentAtlas

open ComponentAtlas.Script

/-- What answers a request for a token. -/
inductive Supply
  | symbol (s : Symbol)
  | provider (p : Provider)
  deriving Inhabited

/-- The name of what answers a request. -/
def Supply.name : Supply → String
  | .symbol s => s.name
  | .provider p => p.provide.render

namespace Workspace

/-- A class of the program with a role. -/
def symbolOf (w : Workspace) (id : DeclarationId) (role : Role) : Symbol :=
  let r := w.program.reference id
  ⟨id, role, r.name, r.file⟩

/-- What the engine has recorded about a class. -/
def recorded? (w : Workspace) (id : DeclarationId) : Option Symbol := (w.state.role? id).map (w.symbolOf id)

/-- The annotated class with a number. -/
def symbol? (id : DeclarationId) : Asking (Option Symbol) := do
  match ← role? id with
  | none => return none
  | some role =>
    require .program
    return some ((← get).symbolOf id role)

/-- The first of several declarations that is an annotated class. -/
def firstSymbol? : List DeclarationId → Asking (Option Symbol)
  | [] => return none
  | id :: ids => do
    match ← symbol? id with
    | some s => return some s
    | none => firstSymbol? ids

/-- The first annotated class with a name. -/
def symbolNamed? (name : String) : Asking (Option Symbol) := do
  let p ← theProgram
  firstSymbol? ((p.declarations.filter fun d => d.isClass && d.name == name).map (·.id))

/-- All classes with a role, those with errors included. -/
def all (role : Role) : Asking (List Symbol) := do
  analyzeAll
  require .program
  let w ← get
  return (w.state.recorded (some role)).map (w.symbolOf · role)

/-- The classes among some references that are annotated. -/
def symbols : List Reference → Asking (List Symbol)
  | [] => return []
  | r :: rs => do
    let s ← symbol? r.id
    return s.toList ++ (← symbols rs)

/-! ### Analyses of symbols -/

/-- The analysis of a class; the query fails for a class that has errors or was skipped. -/
def analysisOf (s : Symbol) : Asking Analysis := do
  match ← analysis? s.id with
  | some a => return a
  | none => throw (.skipped s.name)

/-- The analysis of a component. -/
def componentOf (s : Symbol) : Asking ComponentAnalysis := do
  match ← analysisOf s with
  | .component c => return c
  | _ => throw (.skipped s.name)

/-- The analysis of a module. -/
def moduleOf (s : Symbol) : Asking ModuleAnalysis := do
  match ← analysisOf s with
  | .ngModule m => return m
  | _ => throw (.skipped s.name)

/-- The errors of a class; `none` for a class without errors. -/
def problemsOf? (s : Symbol) : Asking (Option (List Diagnostic)) := do
  let _ ← ask (.resolve s.id)
  if (← get).state.stage? s.id = some .errored then return some (← diagnosticsOf s.id)
  else return none

/-! ### Requests for tokens -/

/-- All providers that an analysis lists. -/
def entriesOf (a : Analysis) : Asking (List ProviderEntry) := do
  let own ← a.providerSources.mapM providersOf
  let imported ← a.providerValues.mapM providers
  return own.flatten ++ imported.flatten

/-- The analysis of a class; `none` also for a class with errors. -/
def soundAnalysis? (id : DeclarationId) : Asking (Option Analysis) :=
  tryCatch (analysis? id) fun
    | .analysis _ _ => return none
    | f => throw f

/-- The first provider for a token that the given classes list. -/
def firstProvider? (token : Value) : List DeclarationId → Asking (Option ProviderEntry)
  | [] => return none
  | id :: ids => do
    match ← soundAnalysis? id with
    | none => firstProvider? token ids
    | some a =>
      match (← entriesOf a).find? (·.provides token) with
      | some entry => return some entry
      | none => firstProvider? token ids

/-- The first provider for a token that classes of the given roles list. -/
def firstProviderOf? (token : Value) : List Role → Asking (Option ProviderEntry)
  | [] => return none
  | role :: roles => do
    match ← firstProvider? token ((← get).state.recorded (some role)) with
    | some entry => return some entry
    | none => firstProviderOf? token roles

/-- What answers a request for a token among the providers of modules, components and directives. -/
def findProvider? (token : Value) : Asking (Option Supply) := do
  require .engine
  require .providers
  analyzeAll
  match ← firstProviderOf? token [.ngModule, .component, .directive] with
  | none => return none
  | some (.cls _ target) => return (← symbol? target.id).map Supply.symbol
  | some (.provider p) => return some (.provider p)

/-- The injectable class with a name in the file that a relative module specifier stands for. -/
def findInjectable? (module name origin : String) : Asking (Option Supply) := do
  if !Path.isLocalRelative module then return none
  else
    let p ← theProgram
    let file := (p.module? origin module).getD
      (Path.join (Path.dirname origin) (Path.stripEmittedExtension module ++ ".ts"))
    analyzeAll
    require .registry
    let ids := (← get).state.world.registry.inFile file (some .injectable)
    match ids.find? fun id => (p.reference id).name == name with
    | some id => return (← symbol? id).map Supply.symbol
    | none =>
      modify (note .debug s!"no injectable '{name}' in '{file}' for a token of {origin}")
      return none

/-- The annotated class that a token is. -/
def ownSymbol? : Value → Asking (Option Symbol)
  | .reference r => symbol? r.id
  | _ => return none

/-- What answers a request for a token made in a file. An annotated class answers itself; other tokens
are searched among providers, and at last among the injectable classes of a file. -/
def find (token : Value) (origin : String) : Asking (Option Supply) := do
  match ← ownSymbol? token with
  | some s => return some (.symbol s)
  | none =>
    match ← findProvider? token with
    | some found => return some found
    | none =>
      match token with
      | .dynamic d =>
        match d.rootCause.reason with
        | .external module name => findInjectable? module name origin
        | _ => return none
      | _ => return none

/-- What answers the requests of a constructor; attributes and unknown tokens are left out. -/
def supplies (s : Symbol) : List Dependency → Asking (List Supply)
  | [] => return []
  | d :: ds => do
    match d.attributeName, d.token with
    | none, some token =>
      let found ← find token s.path
      return found.toList ++ (← supplies s ds)
    | _, _ => supplies s ds

/-- What answers the requests of the constructor of a class; a module has no requests. -/
def dependencies (s : Symbol) : Asking (List Supply) := do
  match s.role with
  | .ngModule => return []
  | _ => supplies s ((← analysisOf s).deps.getD [])

/-! ### Providers of a class -/

/-- The providers of a list as shown to a user; a class without a role is passed over. -/
def offered (s : Symbol) : List ProviderEntry → Asking (List Supply)
  | [] => return []
  | .provider p :: rest => return .provider p :: (← offered s rest)
  | .cls _ target :: rest => do
    match ← symbol? target.id with
    | some found => return .symbol found :: (← offered s rest)
    | none =>
      modify (note .debug s!"{s.name}: provided class {target.name} has no annotation")
      offered s rest

/-- The providers that an expression lists, as shown to a user. -/
def offeredBy (s : Symbol) : Option SourceExpr → Asking (List Supply)
  | none => return []
  | some source => do offered s (← providersOf source)

/-- The providers that several values list, as shown to a user. -/
def offeredByValues (s : Symbol) : List Value → Asking (List Supply)
  | [] => return []
  | v :: vs => do
    let first ← offered s (← providers v)
    return first ++ (← offeredByValues s vs)

/-- The providers of a module, a component or a directive; other classes have none. -/
def providersOfSymbol (s : Symbol) : Asking (List Supply) := do
  match s.role with
  | .pipe | .injectable => return []
  | _ =>
    match ← analysisOf s with
    | .ngModule m =>
      let own ← offeredBy s m.providers
      require .providers
      return own ++ (← offeredByValues s m.importProviders)
    | .component c => offeredBy s c.providers
    | .directive d => offeredBy s d.providers
    | _ => return []

/-- The providers for the view of a component. -/
def viewProviders (s : Symbol) : Asking (List Supply) := do
  offeredBy s (← componentOf s).viewProviders

/-! ### The whole workspace -/

/-- The files that a change concerns. -/
def affected (changed : List String) : Asking (List String) := do
  analyzeAll
  require .dependencies
  return (← get).graph.affected changed

/-- The diagnostics of the program, then those of all classes with errors. -/
def problems : Asking (List Diagnostic) := do
  let p ← theProgram
  analyzeAll
  ((← get).state.recorded none).forM fun id => do
    let _ ← ask (.resolve id)
  return p.diagnostics ++ (← get).state.diagnostics

end Workspace

end ComponentAtlas
