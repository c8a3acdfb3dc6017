import ComponentAtlas.Program.Basic

/-!
# What names refer to

A name of a file is declared there or imported. An imported name is looked up among the exports of
the other file, which may lead on to further files.

* `Program.exportSearch`: the search through the exports of files;
* `Program.lookup`: what a name of a file refers to, within a bound on the number of names that are
  looked up inside files on the way;
* `Program.exported`: what a name exported by a file refers to;
* `Program.entity?`: what a qualified name refers to.

A search that comes back to a name it has been asked for goes on for ever; it has no outcome for any
bound.
-/

namespace ComponentAtlas

open ComponentAtlas.Script

/-- What a name refers to. -/
inductive Target
  | declaration (id : DeclarationId)
  /-- A file as a whole. -/
  | whole (file : String)
  /-- A name of a module outside the program. -/
  | external (module name : String)
  deriving DecidableEq, Repr, Inhabited

namespace Program

/-- The outcome of a search: what was found, if anything; none when the search was given up. -/
abbrev Search := Option (Option Target)

/-- The first export of a name that is not an `export *`. -/
def namedExport? (f : SourceFile) (name : String) : Option Export :=
  f.exports.find? fun
    | .own exported _ => exported == name
    | .reexport exported _ _ => exported == name
    | .star _ => false

/-- A search together with the files that it has visited, and the names (with their files) that it has
looked up inside files. -/
structure Visit where
  outcome : Search
  visited : List String
  asked : List (String × String) := []
  deriving Inhabited

/-- Goes through files until one of them gives something. -/
def firstOf (search : String → List String → Visit) : List String → List String → Visit
  | [], visited => ⟨some none, visited, []⟩
  | file :: files, visited =>
    let v := search file visited
    match v.outcome with
    | some none =>
      let w := firstOf search files v.visited
      { w with asked := v.asked ++ w.asked }
    | _ => v

/-- The files whose names a file exports as well. -/
def starTargets (p : Program) (f : SourceFile) (file : String) : List String :=
  f.exports.filterMap fun
    | .star module => p.module? file module
    | _ => none

/-- What a name exported by a file refers to. A file that was visited before gives nothing. `local?`
looks up a name inside a file. -/
def exportedFrom (p : Program) (local? : String → String → Search) :
    Nat → String → String → List String → Visit
  | 0, _, _, visited => ⟨none, visited, []⟩
  | fuel + 1, file, name, visited =>
    if visited.contains file then ⟨some none, visited, []⟩
    else
      let visited := file :: visited
      match p.file? file with
      | none => ⟨some none, visited, []⟩
      | some f =>
        match namedExport? f name with
        | some (.own _ localName) => ⟨local? localName file, visited, [(localName, file)]⟩
        | some (.reexport _ imported module) =>
          match p.module? file module with
          | some target => exportedFrom p local? fuel target imported visited
          | none => ⟨some (some (.external module imported)), visited, []⟩
        | _ =>
          firstOf (fun target visited => exportedFrom p local? fuel target name visited)
            (p.starTargets f file) visited

/-- Number of files that a search through exports can visit. -/
def exportBound (p : Program) : Nat := p.files.length + 2

/-- The search for what a name exported by a file refers to. -/
def exportSearch (p : Program) (local? : String → String → Search) (file name : String) : Visit :=
  exportedFrom p local? p.exportBound file name []

/-- The search for what a name of a file refers to. `local?` looks up further names on the way. -/
def nameSearch (p : Program) (local? : String → String → Search) (name file : String) : Visit :=
  match p.file? file with
  | none => ⟨some none, [], []⟩
  | some f =>
    match f.declarations.find? fun id => ((p.declaration? id).map (·.name)) == some name with
    | some id => ⟨some (some (.declaration id)), [], []⟩
    | none =>
      match f.importOf? name with
      | none => ⟨some none, [], []⟩
      | some i =>
        match p.module? file i.module, i.imported with
        | some target, .whole => ⟨some (some (.whole target)), [], []⟩
        | some target, .named imported => p.exportSearch local? target imported
        | some target, .default => p.exportSearch local? target "default"
        | none, .named imported => ⟨some (some (.external i.module imported)), [], []⟩
        | none, .default => ⟨some (some (.external i.module "default")), [], []⟩
        | none, .whole => ⟨some (some (.external i.module "*")), [], []⟩

/-- What a name of a file refers to; the bound counts the names that are looked up inside files. -/
def lookup (p : Program) : Nat → String → String → Search
  | 0, _, _ => none
  | fuel + 1, name, file => (p.nameSearch (lookup p fuel) name file).outcome

/-- More names than a search that comes to an end can look up: one for each export that leads back
into its file. -/
def lookupBound (p : Program) : Nat := p.files.foldl (fun n f => n + f.exports.length + 1) 2

/-- What a name of a file refers to. -/
def identifier? (p : Program) (name file : String) : Option Target :=
  (p.lookup p.lookupBound name file).join

/-- What a name exported by a file refers to, with the mark of a search that was given up. -/
def exported (p : Program) (fuel : Nat) (file name : String) : Search :=
  (p.exportSearch (p.lookup fuel) file name).outcome

/-- What a name exported by a file refers to. -/
def export? (p : Program) (file name : String) : Option Target :=
  (p.exported p.lookupBound file name).join

/-- What the next part of a qualified name refers to. -/
def qualify (p : Program) (target : Target) (segment : String) : Option Target :=
  match target with
  | .whole file => p.export? file segment
  | .external module name =>
    some (.external module (if name == "*" then segment else name ++ "." ++ segment))
  | .declaration _ => none

/-- What a possibly qualified name of a file refers to. -/
def entity? (p : Program) (name file : String) : Option Target :=
  match Text.splitOn '.' name with
  | [] => none
  | first :: segments => segments.foldlM p.qualify =<< p.identifier? first file

end Program

end ComponentAtlas
