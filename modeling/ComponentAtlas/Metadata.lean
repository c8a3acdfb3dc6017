import ComponentAtlas.Role
import ComponentAtlas.Evaluation.Value
import ComponentAtlas.Program.Names

/-!
# What is known about annotated classes

Scopes need a few facts about directives, pipes and modules. They come from classes that were
analysed, which are put into a registry, or from the type arguments of the markers of compiled
classes.

* `DirectiveInfo`, `PipeInfo`, `ModuleInfo`: the facts;
* `Registry`: the facts about analysed classes;
* `Metadata`: a source of facts; `Registry.metadata` and `Metadata.compiled` are sources, and
  `Metadata.orElse` asks one source and then another.
-/

namespace ComponentAtlas

open ComponentAtlas.Script

/-- What scopes need to know about a directive or component. -/
structure DirectiveInfo where
  reference : Reference
  selector : Option String := none
  exportAs : Option (List String) := none
  inputs : List String := []
  outputs : List String := []
  isComponent : Bool := false
  isStandalone : Bool := false
  /-- What a standalone component imports. -/
  imports : List Reference := []
  deriving Inhabited, Repr

/-- What scopes need to know about a pipe. -/
structure PipeInfo where
  reference : Reference
  name : String
  isStandalone : Bool := false
  deriving Inhabited, Repr

/-- What scopes need to know about a module. -/
structure ModuleInfo where
  reference : Reference
  declarations : List Reference := []
  imports : List Reference := []
  exports : List Reference := []
  deriving Inhabited, Repr

/-! ### Sources of facts -/

/-- A source of facts about classes. Only listed classes are modules. -/
structure Metadata where
  directive? : DeclarationId → Option DirectiveInfo
  pipe? : DeclarationId → Option PipeInfo
  module? : DeclarationId → Option ModuleInfo
  modules : List DeclarationId
  mem_modules : ∀ id, (module? id).isSome → id ∈ modules

namespace Metadata

/-- Whether a class is a directive, a component or a pipe. -/
def isDeclarable (m : Metadata) (id : DeclarationId) : Bool := (m.directive? id).isSome || (m.pipe? id).isSome

/-- Whether a class is a module. -/
def isModule (m : Metadata) (id : DeclarationId) : Bool := (m.module? id).isSome

/-- Whether a class is a directive, a component or a pipe that needs no module. -/
def isStandalone (m : Metadata) (id : DeclarationId) : Bool :=
  ((m.directive? id).map (·.isStandalone)).getD false || ((m.pipe? id).map (·.isStandalone)).getD false

/-- Two sources: the second one is asked for what the first one does not know. -/
def orElse (a b : Metadata) : Metadata where
  directive? id := (a.directive? id).or (b.directive? id)
  pipe? id := (a.pipe? id).or (b.pipe? id)
  module? id := (a.module? id).or (b.module? id)
  modules := a.modules ++ b.modules
  mem_modules id h := by
    rcases ha : a.module? id with _ | i
    · rw [ha, Option.none_or] at h
      exact List.mem_append_right _ (b.mem_modules id h)
    · exact List.mem_append_left _ (a.mem_modules id (by rw [ha]; rfl))

end Metadata

/-! ### Facts about analysed classes -/

/-- The facts about analysed classes, and which annotated classes a file holds. -/
structure Registry where
  directives : Table DeclarationId DirectiveInfo := []
  pipes : Table DeclarationId PipeInfo := []
  modules : Table DeclarationId ModuleInfo := []
  byFile : Table String (List (DeclarationId × Role)) := []
  deriving Inhabited

namespace Registry

/-- Notes that a class of a file has a role. The first note about a class counts. -/
def note (r : Registry) (file : String) (id : DeclarationId) (a : Role) : Registry :=
  { r with byFile := Table.update file (fun entries =>
      let entries := entries.getD []
      if entries.any fun e => e.1 = id then entries else entries ++ [(id, a)]) r.byFile }

/-- The registry with the facts about a directive or component. -/
def addDirective (r : Registry) (info : DirectiveInfo) : Registry :=
  let r := r.note info.reference.file info.reference.id
    (if info.isComponent then .component else .directive)
  { r with directives := Table.put info.reference.id info r.directives }

/-- The registry with the facts about a pipe. -/
def addPipe (r : Registry) (info : PipeInfo) : Registry :=
  let r := r.note info.reference.file info.reference.id .pipe
  { r with pipes := Table.put info.reference.id info r.pipes }

/-- The registry with the facts about a module. -/
def addModule (r : Registry) (info : ModuleInfo) : Registry :=
  let r := r.note info.reference.file info.reference.id .ngModule
  { r with modules := Table.put info.reference.id info r.modules }

/-- The annotated classes of a file in the order in which they were noted, perhaps of one kind only. -/
def inFile (r : Registry) (file : String) (a : Option Role) : List DeclarationId :=
  (((Table.get? file r.byFile).getD []).filter fun e => a.all (· == e.2)).map (·.1)

/-- Numbers in ascending order. -/
def ascending (ids : List DeclarationId) : List DeclarationId := ids.mergeSort fun a b => decide (a ≤ b)

/-- The modules that declare a class, in the order of the program. -/
def declaringModules (r : Registry) (id : DeclarationId) : List DeclarationId :=
  ascending ((r.modules.filter fun e => e.2.declarations.any fun d => d.id == id).map (·.1))

/-- The module to which a class belongs: the first one of the program that declares it. -/
def owner? (r : Registry) (id : DeclarationId) : Option DeclarationId := (r.declaringModules id).head?

/-- All modules in the order of the program. -/
def moduleIds (r : Registry) : List DeclarationId := ascending (r.modules.map (·.1))

theorem mem_keys_of_get? {α : Type} {id : DeclarationId} :
    ∀ {t : Table DeclarationId α}, (Table.get? id t).isSome → id ∈ t.map (·.1)
  | [], h => by simp at h
  | (k, v) :: rest, h => by
    by_cases hk : k = id
    · simp [hk]
    · simp only [Table.get?, hk, if_false] at h
      exact List.mem_cons_of_mem _ (mem_keys_of_get? h)

/-- A registry as a source of facts. -/
def metadata (r : Registry) : Metadata where
  directive? id := Table.get? id r.directives
  pipe? id := Table.get? id r.pipes
  module? id := Table.get? id r.modules
  modules := r.modules.map (·.1)
  mem_modules _ h := mem_keys_of_get? h

end Registry

/-! ### Facts about compiled classes -/

namespace Program

/-- Whether a class is declared without implementation. -/
def isAmbient (p : Program) (id : DeclarationId) : Bool :=
  match p.declaration? id with
  | none => false
  | some d => ((d.cls?.map (·.isAmbient)).getD false) || p.isDeclarationFile d.file

/-- The reference to a declaration of a program. -/
def reference (p : Program) (id : DeclarationId) : Reference :=
  ((p.declaration? id).map Reference.ofDeclaration).getD ⟨id, "", ""⟩

/-- The type arguments of the marker for a role. -/
def markerArgs? (p : Program) (a : Role) (id : DeclarationId) : Option (List TypeNode) := do
  let c ← p.cls? id
  let m ← c.static? a.marker
  match ← m.type with
  | .reference _ args => some args
  | _ => none

end Program

namespace Metadata

/-- The texts of a tuple of literal types, or the text of a single one. -/
def texts? : Option TypeNode → Option (List String)
  | some (.tuple items) => some (items.filterMap TypeNode.asString?)
  | some (.string value) => some [value]
  | _ => none

/-- Whether a type is the literal type `true`. -/
def isTrue : Option TypeNode → Bool
  | some (.keyword name) => name == "true"
  | _ => false

/-- The declarations that a tuple of types of values refers to; other names are left out. -/
def references (p : Program) (file : String) : Option TypeNode → List Reference
  | some (.tuple items) => items.filterMap fun
    | .query name =>
      match p.entity? name file with
      | some (.declaration id) => some (p.reference id)
      | _ => none
    | _ => none
  | _ => []

/-- The facts about a compiled directive or component. -/
def compiledDirective? (p : Program) (id : DeclarationId) : Option DirectiveInfo :=
  let read (isComponent : Bool) (args : List TypeNode) : DirectiveInfo :=
    { reference := p.reference id
      selector := args[1]?.bind TypeNode.asString?
      exportAs := texts? args[2]?
      isComponent
      isStandalone := isTrue args[7]? }
  match p.markerArgs? .component id with
  | some args => some (read true args)
  | none => (p.markerArgs? .directive id).map (read false)

/-- The facts about a compiled pipe; it needs a name. -/
def compiledPipe? (p : Program) (id : DeclarationId) : Option PipeInfo := do
  let args ← p.markerArgs? .pipe id
  let name ← args[1]?.bind TypeNode.asString?
  return { reference := p.reference id, name, isStandalone := isTrue args[2]? }

/-- The facts about a compiled module. -/
def compiledModule? (p : Program) (id : DeclarationId) : Option ModuleInfo := do
  let args ← p.markerArgs? .ngModule id
  let reference := p.reference id
  return {
    reference
    declarations := references p reference.file args[1]?
    imports := references p reference.file args[2]?
    exports := references p reference.file args[3]? }

/-- The compiled classes of a program as a source of facts. -/
def compiled (p : Program) : Metadata where
  directive? id := if p.isAmbient id then compiledDirective? p id else none
  pipe? id := if p.isAmbient id then compiledPipe? p id else none
  module? id := if p.isAmbient id then compiledModule? p id else none
  modules := List.range p.declarations.length
  mem_modules id h := by
    rw [List.mem_range]
    rcases hd : p.declarations[id]? with _ | d
    · simp [Program.isAmbient, Program.declaration?, hd] at h
    · exact (List.getElem?_eq_some_iff.1 hd).1

end Metadata

end ComponentAtlas
