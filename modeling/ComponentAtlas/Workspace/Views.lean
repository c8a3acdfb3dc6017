import ComponentAtlas.Style.Reading
import ComponentAtlas.Template.Binding
import ComponentAtlas.Template.Reading
import ComponentAtlas.Workspace.Symbols

/-!
# Views of components and modules

* `Workspace.componentScope`, `Workspace.moduleScope`: what templates can use;
* `Workspace.boundTemplate`: the template of a component with what its nodes match;
* `Workspace.styleSheets`: the style sheets of a component;
* `Workspace.ownerOf`: the module that declares a component.
-/

namespace ComponentAtlas

open ComponentAtlas.Script

namespace Workspace

/-- What the template of a component can use; `none` for a component that no module declares. -/
def componentScope (s : Symbol) : Asking (Option Scope) := do
  let _ ← componentOf s
  match ← resolution? s.id with
  | some (.component scope) => return scope
  | _ => return none

/-- What the templates of a module can use. -/
def moduleScope (s : Symbol) : Asking Scope := do
  let _ ← moduleOf s
  match ← resolution? s.id with
  | some (.ngModule scope) => return scope
  | _ => return {}

/-- The selectors in the scope of a component; lists of selectors are taken apart. -/
def selectorScope (s : Symbol) : Asking (List String) := do
  let scope := (← componentScope s).getD {}
  return ((scope.directives.filterMap (·.selector)).flatMap fun text =>
    (Text.splitOn ',' text).map Text.trimmed).filter (· ≠ "")

/-- The pipes in the scope of a component. -/
def pipeScope (s : Symbol) : Asking (List String) := do
  return (((← componentScope s).getD {}).pipes).map (·.name)

/-- The template of a component as read; `none` for a component without one. -/
def template? (s : Symbol) : Asking (Option (Except Template.Failure Template.Yield)) := do
  return (← componentOf s).template.map fun t => Template.read t.content

/-- The problems of the template of a component. -/
def templateProblems (s : Symbol) : Asking (Except Template.Failure (List Source.Problem)) := do
  match ← template? s with
  | none => return .ok []
  | some (.ok y) => return .ok y.problems
  | some (.error e) => return .error e

/-- The template of a component with what its nodes match. A component without scope or template has
none. The whole program is analysed before the template is there, so the records have every symbol. -/
def boundTemplate (s : Symbol) : Asking (Except Template.Failure (Option (List Template.BoundNode))) := do
  match ← componentScope s with
  | none => return .ok none
  | some scope =>
    match ← template? s with
    | none => return .ok none
    | some (.error e) => return .error e
    | some (.ok y) =>
      let b := Template.Binding.ofScope scope
      modify fun w => { w with state := { w.state with log := w.state.log.notes b.remarks } }
      match b.nodes (← get).recorded? y.nodes with
      | .ok nodes => return .ok (some nodes)
      | .error text => throw (.malformedInput text)

/-- The style sheets of a component. -/
def styleSheets (s : Symbol) : Asking (List Style.Sheet) := do
  return (← componentOf s).styles.texts.map Style.Sheet.read

/-- The module that declares a component. -/
def ownerOf (s : Symbol) : Asking (Option Symbol) := do
  let _ ← componentOf s
  require .componentScopes
  match (← get).state.world.registry.owner? s.id with
  | some id => symbol? id
  | none => return none

end Workspace

end ComponentAtlas
