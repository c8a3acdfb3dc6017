import ComponentAtlas.Diagnostic.Basic
import ComponentAtlas.Program.Host
import ComponentAtlas.Script.Reading.Module

/-!
# Programs

A program holds the source files that are reachable from its roots over imports and exports, with
all their declarations in one numbered list.

* `Settings.resolve`: the file that a module specifier stands for;
* `Program.load`: the program of some roots;
* `Program.module?`: resolution among the files of a program.
-/

namespace ComponentAtlas

open ComponentAtlas.Script

/-! ### Module specifiers -/

namespace Settings

/-- The files that a path without extension may stand for, in order. -/
def candidates (base : String) : List String :=
  let own := if Text.endsWith base ".ts" then [base] else []
  let stem := Path.stripEmittedExtension base
  let emitted := if stem.utf8ByteSize < base.utf8ByteSize then [stem ++ ".ts", stem ++ ".d.ts"] else []
  own ++ emitted ++ [base ++ ".ts", base ++ ".d.ts", base ++ "/index.ts", base ++ "/index.d.ts"]

/-- A directory and the directories above it, as far as the root or the current directory. -/
def ancestors : Nat → String → List String
  | 0, dir => [dir]
  | fuel + 1, dir => if dir = "/" ∨ dir = "." then [dir] else dir :: ancestors fuel (Path.dirname dir)

/-- The text with its first `*` replaced. -/
def fillStar (target captured : String) : String :=
  match Text.splitOnce '*' target.toList with
  | none => target
  | some (before, after) => String.ofList before ++ captured ++ String.ofList after

/-- The paths that a module specifier may stand for, in order, before an extension is added. -/
def bases (s : Settings) (origin specifier : String) : List String :=
  if Path.isLocalRelative specifier || Path.isRooted specifier then
    [Path.join (Path.dirname origin) specifier]
  else
    let baseDir := (s.baseUrl.or s.rootDir).getD "/"
    let mapped := s.paths.flatMap fun (pattern, targets) =>
      match Path.capture pattern specifier with
      | none => []
      | some captured => targets.map fun target => Path.join baseDir (fillStar target captured)
    let dir := Path.dirname origin
    let installed := (ancestors dir.length dir).map fun dir =>
      Path.join dir ("node_modules/" ++ specifier)
    mapped ++ installed

/-- The first existing file that a module specifier of the file `origin` may stand for. -/
def resolve (s : Settings) (isFile : String → Bool) (origin specifier : String) : Option String :=
  (s.bases origin specifier).findSome? fun base => (candidates base).find? isFile

end Settings

/-! ### Programs -/

/-- The source files reachable from some roots, and their declarations. -/
structure Program where
  settings : Settings := {}
  roots : List String := []
  files : List SourceFile := []
  /-- All declarations; the place in the list is the number of the declaration. -/
  declarations : List Declaration := []
  diagnostics : List Diagnostic := []
  deriving Inhabited

namespace Program

/-- The source file with a path. -/
def file? (p : Program) (path : String) : Option SourceFile := p.files.find? fun f => f.path == path

/-- Whether a path is the path of a source file. -/
def hasFile (p : Program) (path : String) : Bool := p.files.any fun f => f.path == path

/-- The declaration with a number. -/
def declaration? (p : Program) (id : DeclarationId) : Option Declaration := p.declarations[id]?

/-- The declarations of a file. -/
def declarationsOf (p : Program) (path : String) : List DeclarationId :=
  ((p.file? path).map (·.declarations)).getD []

/-- The class with a number. -/
def cls? (p : Program) (id : DeclarationId) : Option ClassBody := (p.declaration? id).bind (·.cls?)

/-- Whether a file holds declarations only. -/
def isDeclarationFile (p : Program) (path : String) : Bool :=
  ((p.file? path).map (·.isDeclarationFile)).getD false

/-- The file that a module specifier stands for, among the files of the program. -/
def module? (p : Program) (origin specifier : String) : Option String :=
  p.settings.resolve p.hasFile origin specifier

/-- The program with one more source file. -/
def add (p : Program) (path : String) (c : Contents) : Program :=
  let first := p.declarations.length
  let numbered := c.declarations.mapIdx fun i d => { d with id := first + i, file := path }
  { p with
    files := p.files ++ [{
      path
      isDeclarationFile := Path.isDeclarationFile path
      declarations := numbered.map (·.id)
      imports := c.imports
      exports := c.exports }]
    declarations := p.declarations ++ numbered
    diagnostics := p.diagnostics ++ (if c.faulty then [Diagnostic.malformed path] else []) }

end Program

/-- The distinct module specifiers of a source file in the order of its imports and exports. -/
def Script.Contents.specifiers (c : Contents) : List String :=
  (c.imports.map (·.module) ++ c.exports.filterMap Export.module?).eraseDups

/-- The distinct module specifiers of a loaded source file. -/
def Script.SourceFile.specifiers (f : SourceFile) : List String :=
  (f.imports.map (·.module) ++ f.exports.filterMap Export.module?).eraseDups

namespace Program

/-- Files that are about to be loaded, and all paths that were ever chosen for loading. -/
structure Frontier where
  seen : List String := []
  wave : List (String × String) := []
  deriving Inhabited

/-- The frontier with a file, unless it was chosen before. -/
def Frontier.visit (host : Host) (f : Frontier) (path : String) : Frontier :=
  if path ∈ f.seen then f
  else
    match host.read? path with
    | some text => ⟨f.seen ++ [path], f.wave ++ [(path, text)]⟩
    | none => ⟨f.seen ++ [path], f.wave⟩

/-- The frontier with all files that the specifiers of a file stand for. -/
def Frontier.follow (host : Host) (settings : Settings) (f : Frontier) (path : String) (c : Contents) :
    Frontier :=
  c.specifiers.foldl (fun f specifier =>
    match settings.resolve (fun q => f.seen.contains q || host.contains q) path specifier with
    | some target => f.visit host target
    | none => f) f

/-- Loads the files of a wave, then those which they refer to, wave by wave. Every wave but an empty
one has a file of the host that was not seen before. -/
def loadWaves (host : Host) : Nat → Program → List String → List (String × String) → Program
  | 0, p, _, _ => p
  | fuel + 1, p, seen, wave =>
    if wave.isEmpty then p
    else
      let read := wave.map fun (path, text) => (path, Contents.read host.parse path text)
      let next := read.foldl (fun f (path, c) => f.follow host p.settings path c) (Frontier.mk seen [])
      let p := read.foldl (fun p (path, c) => p.add path c) p
      loadWaves host fuel p next.seen next.wave

/-- The program of some roots: the roots and all files that are reachable from them. -/
def load (host : Host) (roots : List String) (settings : Settings) : Except Failure Program :=
  let roots := roots.map Path.normalize
  if roots.isEmpty then .error .noInputFiles
  else
    match roots.find? fun root => !host.contains root with
    | some missing => .error (.fileNotFound missing)
    | none =>
      let first := roots.foldl (fun f root => f.visit host root) (Frontier.mk [] [])
      .ok (loadWaves host (host.files.length + 1) { settings, roots } first.seen first.wave)

end Program

end ComponentAtlas
