import ComponentAtlas.Roles.Handlers
import ComponentAtlas.Workspace.Options

/-!
# Workspaces

A workspace answers questions about the annotated classes of a program. Its services are built when
they are first needed, each after those that it needs itself; a service that cannot be built is tried
again the next time.

* `Service`, `Service.needs`: the services and what they need;
* `Workspace`: options, files and all that was found out;
* computations in `Asking`: `Workspace.require`, `Workspace.ask`, `Workspace.evaluate`.
-/

namespace ComponentAtlas

open ComponentAtlas.Script

/-! ### Services -/

/-- The services of a workspace. -/
inductive Service
  | program
  | dependencies
  | reflector
  | evaluator
  | registry
  | metadata
  | moduleScopes
  | componentScopes
  | loader
  | context
  | engine
  | providers
  deriving DecidableEq, Repr, Inhabited

namespace Service

/-- The name of a service in the log. -/
def key : Service → String
  | .program => "program"
  | .dependencies => "dependencies"
  | .reflector => "reflector"
  | .evaluator => "evaluator"
  | .registry => "local_metadata"
  | .metadata => "metadata"
  | .moduleScopes => "module_scopes"
  | .componentScopes => "component_scopes"
  | .loader => "resource_loader"
  | .context => "handler_context"
  | .engine => "trait_compiler"
  | .providers => "provider_registry"

/-- The services that a service needs, in the order in which it asks for them. -/
def needs : Service → List Service
  | .program => []
  | .dependencies => [.program]
  | .reflector => [.program]
  | .evaluator => [.program, .dependencies]
  | .registry => []
  | .metadata => [.registry, .program]
  | .moduleScopes => [.metadata]
  | .componentScopes => [.registry, .moduleScopes]
  | .loader => [.dependencies]
  | .context => [.program, .reflector, .evaluator, .registry, .metadata]
  | .engine => [.context, .loader, .componentScopes, .moduleScopes, .program]
  | .providers => [.evaluator]

/-- The length of the longest chain of needs below a service. -/
def height : Service → Nat
  | .program | .registry => 0
  | .dependencies | .reflector | .metadata => 1
  | .evaluator | .moduleScopes | .loader => 2
  | .componentScopes | .context | .providers => 3
  | .engine => 4

/-- No service needs itself, not even through others. -/
theorem height_lt_of_mem_needs {s t : Service} (h : t ∈ s.needs) : t.height < s.height := by
  revert h
  cases s <;> cases t <;> decide

end Service

/-! ### Workspaces -/

/-- Options, files, and all that was found out about them. -/
structure Workspace where
  options : Options
  host : Host
  resources : Resources := {}
  /-- The services that were built. -/
  built : List Service := []
  program : Program := {}
  /-- What the engine found out; it holds the log. -/
  state : Engine.State World Analysis Resolution

/-- A computation in a workspace that may fail; what it changed before stays changed. -/
abbrev Asking := ExceptT Failure (StateM Workspace)

namespace Workspace

/-- A new workspace. -/
def new (options : Options) (host : Host) (resources : Resources) (log : Log) : Except Failure Workspace := do
  let options ← options.check
  return { options, host, resources, state := { world := {}, log } }

/-- Forgets all that was found out. -/
def reset (w : Workspace) : Workspace :=
  { w with built := [], program := {}
           state := { world := {}, log := w.state.log.write .info "resetting workspace" } }

/-- What the handlers share. -/
def context (w : Workspace) : Context :=
  { program := w.program, resources := w.resources, depth := w.options.maxEvaluationDepth
    strict := w.options.strictInjectionParameters }

/-- What is known about classes. -/
def metadata (w : Workspace) : Metadata := w.context.metadata w.state.world

/-- The dependencies between files. -/
def graph (w : Workspace) : FileGraph := w.state.world.loader.graph

/-- The workspace with a line in its log. -/
def note (level : Level) (message : String) (w : Workspace) : Workspace :=
  { w with state := w.state.note level message }

/-- The workspace with another world. -/
def withWorld (f : World → World) (w : Workspace) : Workspace :=
  { w with state := { w.state with world := f w.state.world } }

/-! ### Building services -/

/-- Loads the program; its diagnostics are warnings in the log. -/
def loadProgram : Asking Unit := do
  let w ← get
  let roots ← w.options.roots w.host
  match Program.load w.host roots w.options.settings with
  | .error e => throw (.ofProgram e)
  | .ok p => modify fun w => p.diagnostics.foldl (fun w d => w.note .warn d.render) { w with program := p }

/-- Builds a service, given all that it needs. -/
def build : Service → Asking Unit
  | .program => loadProgram
  | .dependencies => modify fun w => w.withWorld fun world =>
      { world with loader := { world.loader with graph := .ofProgram w.program } }
  | _ => return

/-- Has a service built, after those that it needs. -/
def require (s : Service) : Asking Unit := do
  if s ∈ (← get).built then return
  else
    modify (note .debug ("constructing " ++ s.key))
    s.needs.attach.forM fun ⟨t, _⟩ => require t
    build s
    modify fun w => { w with built := w.built ++ [s] }
termination_by s.height
decreasing_by exact Service.height_lt_of_mem_needs (by assumption)

/-! ### Questions -/

/-- The program. -/
def theProgram : Asking Program := do
  require .program
  return (← get).program

/-- Asks the engine. -/
def ask (q : Query) : Asking (Answer Analysis Resolution) := do
  require .engine
  let w ← get
  let (answer, state) := w.context.engine.answer q w.state
  set { w with state }
  match answer with
  | .ok a => return a
  | .error f => throw f

/-- Has the whole program analysed. -/
def analyzeAll : Asking Unit := do
  let _ ← ask .analyzeAll

/-- The analysis of a class; a class with errors has none. -/
def analysis? (id : DeclarationId) : Asking (Option Analysis) := do
  match ← ask (.analysis id) with
  | .analysis a => return a
  | _ => return none

/-- What resolving found out about a class. -/
def resolution? (id : DeclarationId) : Asking (Option Resolution) := do
  match ← ask (.resolution id) with
  | .resolution r => return r
  | _ => return none

/-- The role of a class. -/
def role? (id : DeclarationId) : Asking (Option Role) := do
  match ← ask (.role id) with
  | .role r => return r
  | _ => return none

/-- The errors of a class. -/
def diagnosticsOf (id : DeclarationId) : Asking (List Diagnostic) := do
  match ← ask (.diagnostics id) with
  | .diagnostics ds => return ds
  | _ => return []

/-- Runs the work of a handler; its remarks go to the log. -/
def work {β : Type} (f : Context → Work β) : Asking β := do
  let w ← get
  let (result, desk) := (f w.context).run { world := w.state.world }
  set { w with state := { w.state with world := desk.world, log := w.state.log.notes desk.remarks } }
  return result

/-- The value of an expression of a file. -/
def evaluate (e : Expr) (file : String) : Asking Value := work fun cx => Work.evaluate cx e file

/-- The value of a declaration. -/
def evaluateDeclaration (d : Declaration) : Asking Value := do
  require .evaluator
  work fun cx => do
    let outcome := Evaluation.evaluateDeclaration cx.program cx.depth d
    modify fun desk => { desk with world := { desk.world with
      loader := { desk.world.loader with graph := outcome.note desk.world.loader.graph } } }
    return outcome.value

/-- The providers that a value lists; what is left out is noted in the log. -/
def providers (v : Value) : Asking (List ProviderEntry) := do
  require .providers
  let flat := Flattened.ofValue (← get).options.maxProviderDepth v
  modify fun w => { w with state := { w.state with log := w.state.log.notes flat.notes } }
  return flat.entries

/-- The providers that an expression lists. -/
def providersOf (s : SourceExpr) : Asking (List ProviderEntry) := do
  require .providers
  providers (← evaluate s.node s.file)

end Workspace

end ComponentAtlas
