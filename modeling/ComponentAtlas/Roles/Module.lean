import ComponentAtlas.Roles.Injection

/-!
# Modules

* `Work.ngModule`: the analysis of a module;
* `Work.moduleProblems`: what is wrong with the lists of a module, given all that is known;
* `Context.moduleHandler`: the handler of modules.
-/

namespace ComponentAtlas

open ComponentAtlas.Script

/-- A module with providers that come with its import. -/
structure ModuleWithProviders where
  module : Reference
  providers : Option Value
  deriving Inhabited

/-- The module with providers that an object stands for. -/
def ModuleWithProviders.ofValue? (v : Value) : Option ModuleWithProviders := do
  let module ← (← v.get? "ngModule").asReference?
  return { module, providers := v.get? "providers" }

namespace Work

/-- The declared or exported classes of a module. Entries from outside the program are passed over in
a list of exports. -/
def moduleReferences (f : Fields) (field : String) (code : ErrorCode) (owner : String) :
    List Listed → Work (List Reference)
  | [] => return []
  | .reference r :: rest => return r :: (← moduleReferences f field code owner rest)
  | .external module name :: rest => do
    if code = .moduleInvalidExport then
      remark s!"{owner}: skipping external export {name} from '{module}'"
    else
      report (Fault.error code f.file (f.range field)
        s!"'{name}' in {field} of {owner} is not a class of this program.")
    moduleReferences f field code owner rest
  | .other v :: rest => do
    report (Fault.error code f.file (f.range field)
      (s!"Value in NgModule.{field} of {owner} is not a reference: " ++ v.render))
    moduleReferences f field code owner rest

/-- The entries of a list of a module. -/
def entries (f : Fields) (field : String) : Work (List Listed) := do
  return ((← f.value? field).map Listed.flatten).getD []

/-- The imported classes of a module, and the providers that come with them. -/
def moduleImports (f : Fields) (owner : String) : List Listed → Work (List Reference × List Value)
  | [] => return ([], [])
  | .reference r :: rest => do
    let (imports, providers) ← moduleImports f owner rest
    return (r :: imports, providers)
  | .external module name :: rest => do
    remark s!"{owner}: skipping external import {name} from '{module}'"
    moduleImports f owner rest
  | .other v :: rest => do
    match ModuleWithProviders.ofValue? v with
    | some m =>
      let (imports, providers) ← moduleImports f owner rest
      return (m.module :: imports, m.providers.toList ++ providers)
    | none =>
      if v.isDynamic then
        remark (s!"{owner}: skipping import that cannot be resolved statically: " ++ v.render)
      else
        report (Fault.error .moduleInvalidImport f.file (f.range "imports")
          (s!"Value in NgModule.imports of {owner} is not a reference: " ++ v.render))
      moduleImports f owner rest

/-- The name of a schema. -/
def schemaName? : Listed → Option String
  | .external _ name => some name
  | .reference r => some r.name
  | .other v => (v.get? "name").bind Value.asString?

/-- The analysis of a module. -/
def ngModule (cx : Context) (id : DeclarationId) (detected : Detected) : Work (Findings Analysis) := do
  let d := cx.declaration id
  match detected.decorator with
  | none =>
    let info := (cx.metadata (← get).world).module? id
    return { analysis := info.map fun info => .ngModule {
      reference := info.reference, declarations := info.declarations, imports := info.imports
      exports := info.exports, isCompiled := true } }
  | some decorator =>
    let reference := cx.program.reference id
    match decorator.options? d.file true with
    | .error problem => return { diagnostics := [problem] }
    | .ok none => return { analysis := some (.ngModule { reference }) }
    | .ok (some object) =>
      let f : Fields := ⟨cx, object, d.file⟩
      let declarations ← moduleReferences f "declarations" .moduleInvalidDeclaration d.name
        (← entries f "declarations")
      let (imports, importProviders) ← moduleImports f reference.name (← entries f "imports")
      let exports ← moduleReferences f "exports" .moduleInvalidExport d.name (← entries f "exports")
      let bootstrap := (← entries f "bootstrap").filterMap Listed.reference?
      let schemas := (← entries f "schemas").filterMap schemaName?
      let name ← f.string? "id"
      let written (field : String) : Option Range := (f.raw? field).map (·.range)
      return {
        analysis := some (.ngModule {
          reference, declarations, imports, exports, bootstrap, schemas, importProviders
          id := name
          providers := f.source? "providers"
          importsSource := f.source? "imports"
          ranges := {
            declarations := written "declarations"
            imports := written "imports"
            exports := written "exports" } })
        diagnostics := (← get).diagnostics }

/-! ### Checks of the lists -/

/-- What is wrong with the place of a declared class among directives, components and pipes. -/
def declarationProblem? (m : Metadata) (range : Range) (a : ModuleAnalysis) (file : String) (d : Reference) :
    Option Diagnostic :=
  match ((m.directive? d.id).map (·.isStandalone)).or ((m.pipe? d.id).map (·.isStandalone)) with
  | none => some (Fault.error .moduleInvalidDeclaration file range
      (s!"The class '{d.name}' is listed in the declarations of the NgModule '{a.reference.name}', " ++
        "but is not a directive, a component, or a pipe."))
  | some true => some (Fault.error .moduleInvalidDeclaration file range
      (s!"'{d.name}' is marked as standalone and can't be declared in any NgModule - " ++
        "did you intend to import it instead?"))
  | some false => none

/-- The error of a class that another module of the program, an earlier one, declares too. -/
def sharedProblem? (cx : Context) (r : Registry) (range : Range) (id : DeclarationId) (d : Reference) :
    Option Diagnostic :=
  match r.declaringModules d.id with
  | owner :: _ :: _ =>
    if owner = id then none
    else
      let first := cx.declaration owner
      let second := cx.declaration id
      some (({ code := .moduleDeclarationNotUnique, file := second.file, range
               message := .text (s!"The class '{d.name}' is declared by more than one NgModule: " ++
                 s!"'{first.name}' and '{second.name}'.")
               related := some [Related.note first.file first.range
                 s!"'{d.name}' is also declared in '{first.name}'."] } : Fault).toDiagnostic .error)
  | _ => none

/-- The error of an import that is neither a module nor standalone. -/
def importProblem? (m : Metadata) (range : Range) (a : ModuleAnalysis) (file : String) (i : Reference) :
    Option Diagnostic :=
  if m.isModule i.id || m.isStandalone i.id then none
  else some (Fault.error .moduleInvalidImport file range
    (s!"'{i.name}' is listed in the imports of '{a.reference.name}', " ++
      "but is not an NgModule or a standalone declaration."))

/-- The error of an export that is neither a module nor declarable. -/
def exportProblem? (m : Metadata) (range : Range) (a : ModuleAnalysis) (file : String) (e : Reference) :
    Option Diagnostic :=
  if m.isModule e.id || m.isDeclarable e.id then none
  else some (Fault.error .moduleInvalidExport file range
    (s!"'{e.name}' is listed in the exports of '{a.reference.name}', " ++
      "but is not a module, a directive, a component, or a pipe."))

/-- What is wrong with the lists of a module. A compiled module is not checked. -/
def moduleProblems (cx : Context) (w : World) (id : DeclarationId) (a : ModuleAnalysis) : List Diagnostic :=
  if a.isCompiled then []
  else
    let m := cx.metadata w
    let own := cx.declaration a.reference.id
    let place (written : Option Range) : Range := written.getD own.range
    let declared := place a.ranges.declarations
    (a.declarations.flatMap fun d =>
      (declarationProblem? m declared a own.file d).toList ++
      (sharedProblem? cx w.registry (a.ranges.declarations.getD (cx.declaration id).range) id d).toList) ++
    a.imports.filterMap (importProblem? m (place a.ranges.imports) a own.file) ++
    a.exports.filterMap (exportProblem? m (place a.ranges.exports) a own.file)

/-- The scope of the templates of a module, and what is wrong with its lists. -/
def resolveModule (cx : Context) (id : DeclarationId) (a : ModuleAnalysis) : Work (Settlement Resolution) := do
  let w := (← get).world
  let scope ← lookUp (Scoping.ofModule (cx.metadata w) id)
  return { resolution := some (.ngModule (scope.getD {})), diagnostics := moduleProblems cx w id a }

end Work

/-- The handler of modules. -/
def Context.moduleHandler (cx : Context) : Handler World Analysis Resolution where
  detect := cx.detect .ngModule
  analyze id detected := (Work.ngModule cx id detected).routine
  register _ a := Work.routine do
    match a with
    | .ngModule m => Work.register (·.addModule m.info)
    | _ => return
  resolve id a := Work.routine do
    match a with
    | .ngModule m => Work.resolveModule cx id m
    | _ => return {}

end ComponentAtlas
