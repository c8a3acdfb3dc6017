import ComponentAtlas.Roles.Directive

/-!
# Components

* `Work.template?`, `Work.styles`: template and style sheets, in the component or in files;
* `Work.component`: the analysis of a component;
* `Work.resolveComponent`: the scope of its template, and errors of its imports;
* `Context.componentHandler`: the handler of components.
-/

namespace ComponentAtlas

open ComponentAtlas.Script

namespace Work

/-- Reads a file that a component names; `what` says what kind of file it is. -/
def resource? (f : Fields) (what url : String) (range : Range) : Work (Option (String × String)) := do
  let (resolved, outcome) ← fetch f.cx url f.file
  match outcome with
  | .ok content => return some (resolved, content)
  | .error e =>
    report (Fault.error .componentResourceNotFound f.file range
      s!"Could not find {what} file '{url}': {e.message}")
    return none

/-- The template of a component. -/
def template? (f : Fields) (owner : String) : Work (Option ComponentTemplate) := do
  if (f.raw? "template").isSome then
    return (← f.string? "template").map fun content => { content }
  else if (f.raw? "templateUrl").isSome then
    match ← f.string? "templateUrl" with
    | none => return none
    | some url =>
      let found ← resource? f "template" url (f.range "templateUrl")
      return found.map fun (resolved, content) => { content, url := some url, resolvedUrl := some resolved }
  else
    report (Fault.error .componentMissingTemplate f.file f.object.range
      s!"component {owner} is missing a template")
    return none

/-- The style sheets that a component names. -/
def externalStyles (f : Fields) (range : Range) : List String → Work (List ExternalStyle)
  | [] => return []
  | url :: urls => do
    let found ← resource? f "stylesheet" url range
    let rest ← externalStyles f range urls
    return (found.map fun (resolvedUrl, content) => ({ url, resolvedUrl, content } : ExternalStyle)).toList ++ rest

/-- The style sheets of a component. -/
def styles (f : Fields) : Work ComponentStyles := do
  let inline ← f.strings "styles" true
  let urls ← f.strings "styleUrls" false
  let urls := urls ++ (← f.string? "styleUrl").toList
  let range := (((f.raw? "styleUrls").or (f.raw? "styleUrl")).map (·.range)).getD {}
  return { inline, external := ← externalStyles f range urls }

/-- The name of a member of an enumeration of the core package. -/
def coreMember? (enumeration : String) (v : Value) : Option String := do
  let (module, name) ← v.asExternal?
  if module = corePackage then Text.dropStart? (enumeration ++ ".") name else none

/-- The member of an enumeration that a field holds, by name or by number. -/
def member? {τ : Type} (f : Fields) (field enumeration : String) (ofName? : String → Option τ)
    (ofNumber? : Int → Option τ) : Work (Option τ) := do
  match ← f.value? field with
  | none => return none
  | some value =>
    let found := match value with
      | .number x => ofNumber? x.toInt64.toInt
      | v => (coreMember? enumeration v).bind ofName?
    if found.isNone then
      report (Fault.error .valueHasWrongType f.file (f.range field)
        s!"{field} must be a member of {enumeration} enum from @angular/core, got {value.render}")
    return found

/-- The classes that a component imports. -/
def componentImports (f : Fields) (owner : String) : List Listed → Work (List Reference)
  | [] => return []
  | .reference r :: rest => return r :: (← componentImports f owner rest)
  | .external module name :: rest => do
    remark s!"{owner}: skipping external import {name} from '{module}'"
    componentImports f owner rest
  | .other v :: rest => do
    report (Fault.error .componentUnknownImport f.file (f.range "imports")
      (s!"'imports' of {owner} must only contain components, directives, pipes, or NgModules, got " ++ v.render))
    componentImports f owner rest

/-- The analysis of a component. -/
def component (cx : Context) (id : DeclarationId) (detected : Detected) : Work (Findings Analysis) := do
  let (deps, problems) ← dependencies cx id
  match detected.decorator with
  | none =>
    let data ← compiledDirective? cx id deps
    return { analysis := data.map fun data => .component { data, isCompiled := true } }
  | some decorator =>
    let d := cx.declaration id
    match decorator.options? d.file false with
    | .error problem => return { diagnostics := [problem] }
    | .ok none => return {}
    | .ok (some object) =>
      let f : Fields := ⟨cx, object, d.file⟩
      let data ← directiveData id f deps
      let template ← template? f d.name
      let styles ← styles f
      let changeDetection ← member? f "changeDetection" "ChangeDetectionStrategy"
        ChangeDetection.ofName? ChangeDetection.ofNumber?
      let encapsulation ← member? f "encapsulation" "ViewEncapsulation"
        Encapsulation.ofName? Encapsulation.ofNumber?
      let listed := ((← f.value? "imports").map Listed.flatten).getD []
      let imports ← componentImports f d.name listed
      return {
        analysis := some (.component {
          data, template, styles, changeDetection, imports
          encapsulation := encapsulation.getD .emulated
          importsSource := f.source? "imports"
          providers := f.source? "providers"
          viewProviders := f.source? "viewProviders" })
        diagnostics := problems ++ (← get).diagnostics }

/-- The error of an import that is neither a module nor standalone. -/
def unknownImport? (m : Metadata) (c : ComponentAnalysis) (i : Reference) : Option Diagnostic :=
  if m.isModule i.id || m.isStandalone i.id then none
  else some (Fault.error .componentUnknownImport c.data.reference.file
    ((c.importsSource.map fun (s : SourceExpr) => s.node.range).getD {})
    (s!"'{i.name}' is listed in the imports of {c.data.reference.name}, " ++
      "but is neither a standalone declaration nor an NgModule"))

/-- The scope of the template of a component, and errors of its imports. -/
def resolveComponent (cx : Context) (id : DeclarationId) (c : ComponentAnalysis) : Work (Settlement Resolution) := do
  let w := (← get).world
  let m := cx.metadata w
  let scope ← lookUp (Scoping.ofComponent m w.registry id)
  if scope.isNone then
    remark s!"{c.data.reference.name} is not declared by any NgModule"
  return { resolution := some (.component scope), diagnostics := c.imports.filterMap (unknownImport? m c) }

end Work

/-- The handler of components. -/
def Context.componentHandler (cx : Context) : Handler World Analysis Resolution where
  detect := cx.detect .component
  analyze id detected := (Work.component cx id detected).routine
  register _ a := Work.routine do
    match a with
    | .component c => Work.register (·.addDirective (c.data.info true c.imports))
    | _ => return
  resolve id a := Work.routine do
    match a with
    | .component c => Work.resolveComponent cx id c
    | _ => return {}

end ComponentAtlas
