import ComponentAtlas.Scope.Basic

/-!
# Scopes of modules and components

A module exports declarations and other modules, perhaps in a circle. Its templates see what it
declares and what the modules that it imports export. A standalone component sees itself and what it
imports. Scopes are remembered; a scope that was cut off at a circle above its own module is not.

* `Scoping.exported`: what a module offers to those that import it;
* `Scoping.ofModule`: what the templates of a module can use;
* `Scoping.ofComponent`: what the template of a component can use.
-/

namespace ComponentAtlas

open ComponentAtlas.Script

/-- The scopes found so far, and remarks on how they were found. -/
structure Scopes where
  /-- What the templates of a module can use. -/
  compilation : Table DeclarationId Scope := []
  /-- What a module offers to those that import it. -/
  exported : Table DeclarationId Scope := []
  /-- What a standalone component can use. -/
  standalone : Table DeclarationId Scope := []
  remarks : List String := []
  deriving Inhabited

/-- A computation that looks at scopes and remembers them. -/
abbrev Scoping := StateM Scopes

namespace Scoping

/-- The exported scope of a module, and the outermost place on the current path at which a circle was
cut off while the scope was built. -/
structure Found where
  scope : Scope
  cut : Option Nat := none
  deriving Inhabited, Repr

/-- The outermost of two places. -/
def outermost : Option Nat → Option Nat → Option Nat
  | none, b => b
  | a, none => a
  | some a, some b => some (min a b)

/-- Whether nothing above a depth was cut off. -/
def Found.isWhole (depth : Nat) (p : Found) : Bool := p.cut.all fun c => decide (depth ≤ c)

/-- Adds the exports of a module one after the other; `visit` gives the scope of an exported module. -/
def collect (m : Metadata) (visit : DeclarationId → Scoping (Option Found)) :
    List Reference → Found → Scoping Found
  | [], acc => return acc
  | e :: es, acc => do
    if m.isModule e.id then
      match ← visit e.id with
      | some found => collect m visit es ⟨acc.scope.merge found.scope, outermost acc.cut found.cut⟩
      | none => collect m visit es acc
    else
      collect m visit es { acc with scope := acc.scope.addDeclarable m e.id }

/-- The exported scope of a module; `path` holds the modules through which the search came, the
outermost first. -/
def exportedAt (m : Metadata) : Nat → List DeclarationId → DeclarationId → Scoping (Option Found)
  | 0, _, _ => return none
  | fuel + 1, path, id => do
    match Table.get? id (← get).exported with
    | some scope => return some { scope }
    | none =>
      match m.module? id with
      | none => return none
      | some info =>
        match path.findIdx? (· == id) with
        | some place =>
          modify fun s => { s with
            remarks := s.remarks ++ [info.reference.name ++ " re-exports itself through a cycle"] }
          return some { scope := {}, cut := some place }
        | none =>
          let found ← collect m (exportedAt m fuel (path ++ [id])) info.exports { scope := {} }
          if found.isWhole path.length then
            modify fun s => { s with exported := Table.put id found.scope s.exported }
          return some found

/-- What a module offers to those that import it. -/
def exported (m : Metadata) (id : DeclarationId) : Scoping (Option Scope) := do
  return (← exportedAt m (m.modules.length + 2) [] id).map (·.scope)

/-- The scope with what imports bring: what a module exports, or a class that needs no module. -/
def addImports (m : Metadata) : List Reference → Scope → Scoping Scope
  | [], scope => return scope
  | i :: is, scope => do
    match ← exported m i.id with
    | some found => addImports m is (scope.merge found)
    | none => addImports m is (scope.addStandalone m i.id)

/-- What the templates of a module can use. -/
def ofModule (m : Metadata) (id : DeclarationId) : Scoping (Option Scope) := do
  match Table.get? id (← get).compilation with
  | some scope => return some scope
  | none =>
    match m.module? id with
    | none => return none
    | some info =>
      let own := (info.declarations.map (·.id)).foldl (Scope.addDeclarable m) {}
      let scope ← addImports m info.imports own
      modify fun s => { s with compilation := Table.put id scope s.compilation }
      return some scope

/-- What the template of a standalone component can use. -/
def ofStandalone (m : Metadata) (id : DeclarationId) : Scoping (Option Scope) := do
  match Table.get? id (← get).standalone with
  | some scope => return some scope
  | none =>
    match m.directive? id with
    | none => return none
    | some info =>
      if info.isComponent && info.isStandalone then
        let scope ← addImports m info.imports (Scope.addDirective {} info)
        modify fun s => { s with standalone := Table.put id scope s.standalone }
        return some scope
      else return none

/-- What the template of a component can use; a component that is not standalone and not declared by
a module of the registry has no scope. -/
def ofComponent (m : Metadata) (r : Registry) (id : DeclarationId) : Scoping (Option Scope) := do
  match ← ofStandalone m id with
  | some scope => return some scope
  | none =>
    match r.owner? id with
    | some owner => ofModule m owner
    | none => return none

end Scoping

end ComponentAtlas
