import ComponentAtlas.Program.Basic
import ComponentAtlas.Table

/-!
# Dependencies between files

A graph of files, stored in both directions, tells which files have to be looked at again when one
of them changes. A file never depends on itself.

* `FileGraph.add`: one more dependency;
* `FileGraph.dependencies`, `FileGraph.dependents`: the neighbours of a file;
* `FileGraph.affected`: the files that a change concerns;
* `FileGraph.ofProgram`: the dependencies that imports and exports state.
-/

namespace ComponentAtlas

/-- Which file depends on which. -/
structure FileGraph where
  /-- The files that a file depends on. -/
  forward : Table String (List String) := []
  /-- The files that depend on a file. -/
  reverse : Table String (List String) := []
  deriving Inhabited, Repr

namespace FileGraph

/-- The graph in which `source` depends on `target`. -/
def add (g : FileGraph) (source target : String) : FileGraph :=
  if source = target then g
  else
    { forward := Table.update source (fun ts => addNew (ts.getD []) target) g.forward
      reverse := Table.update target (fun ss => addNew (ss.getD []) source) g.reverse }

/-- The files that a file depends on. -/
def dependencies (g : FileGraph) (file : String) : List String := (Table.get? file g.forward).getD []

/-- The files that depend on a file. -/
def dependents (g : FileGraph) (file : String) : List String := (Table.get? file g.reverse).getD []

/-- Number of dependencies. -/
def edgeCount (g : FileGraph) : Nat := g.forward.foldl (fun n e => n + e.2.length) 0

/-- A search for dependents: the files still to be looked at, the last one first, and the files
found so far. -/
structure Search where
  stack : List String
  found : List String
  deriving Repr

/-- Notes a dependent, unless it is the start of the search or found already. -/
def Search.note (start : String) (s : Search) (file : String) : Search :=
  if file = start ∨ file ∈ s.found then s else ⟨file :: s.stack, s.found ++ [file]⟩

/-- Runs a search; every file is looked at once. -/
def search (g : FileGraph) (start : String) : Nat → Search → List String
  | 0, s => s.found
  | fuel + 1, s =>
    match s.stack with
    | [] => s.found
    | file :: stack =>
      search g start fuel ((g.dependents file).foldl (Search.note start) { s with stack })

/-- Number of entries of the reversed graph, which bounds how many files a search can find. -/
def reverseCount (g : FileGraph) : Nat := g.reverse.foldl (fun n e => n + e.2.length) 0

/-- All files that depend on a file directly or through others, without the file itself. -/
def transitiveDependents (g : FileGraph) (file : String) : List String :=
  g.search file (g.reverseCount + 2) ⟨[file], []⟩

/-- Changed files and all files that depend on them. -/
def affected (g : FileGraph) (changed : List String) : List String :=
  changed.foldl (fun out file => (g.transitiveDependents file).foldl addNew (addNew out file)) []

/-- The dependencies that the imports and exports of a program state. -/
def ofProgram (p : Program) : FileGraph :=
  p.files.foldl (fun g f =>
    (f.imports.map (·.module) ++ f.exports.filterMap Script.Export.module?).foldl (fun g module =>
      match p.module? f.path module with
      | some target => g.add f.path target
      | none => g) g) {}

end FileGraph

end ComponentAtlas
