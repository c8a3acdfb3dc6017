import ComponentAtlas.Path
import ComponentAtlas.Program.Glob
import ComponentAtlas.Script.Reading.Module
import ComponentAtlas.Table

/-!
# Hosts and settings of a program

* `Host`: the texts of the files that a program can load, in the order in which they were first
  written, and the parser that reads them;
* `Settings`: how module specifiers are mapped to paths;
* `Program.Failure`: why a program cannot be built.
-/

namespace ComponentAtlas

/-- Files by their normalized paths, and how they are read. -/
structure Host where
  files : Table String String := []
  parse : Script.Parser := .standard
  deriving Inhabited

/-- Why a program cannot be built. -/
inductive Program.Failure
  | fileNotFound (path : String)
  | noInputFiles
  | invalidPattern (pattern : String)
  deriving DecidableEq, Repr, Inhabited

/-- The failure as shown to a user. -/
def Program.Failure.message : Program.Failure → String
  | .fileNotFound path => "file not found: " ++ path
  | .noInputFiles => "no input files"
  | .invalidPattern _ => "invalid include pattern"

namespace Host

/-- The host with the text of a file. -/
def write (h : Host) (path text : String) : Host :=
  { h with files := Table.put (Path.normalize path) text h.files }

/-- The text of a file. -/
def read? (h : Host) (path : String) : Option String := Table.get? path h.files

/-- Whether there is a file. -/
def contains (h : Host) (path : String) : Bool := (h.read? path).isSome

/-- The paths of all files. -/
def paths (h : Host) : List String := h.files.map (·.1)

/-- The host with the given files. -/
def ofList (files : List (String × String)) (parse : Script.Parser := .standard) : Host :=
  files.foldl (fun h f => h.write f.1 f.2) { parse }

/-- The files that fit one of the patterns, which are relative to a directory. -/
def list (h : Host) (root : String) (patterns : List String) : Except Program.Failure (List String) := do
  let globs ← patterns.mapM fun pattern =>
    match Glob.ofText? (Path.join root pattern) with
    | some glob => .ok glob
    | none => .error (.invalidPattern pattern)
  return h.paths.filter fun path => globs.any (·.matches path)

end Host

/-- How module specifiers are mapped to paths. -/
structure Settings where
  rootDir : Option String := none
  baseUrl : Option String := none
  /-- Patterns for specifiers with the targets that replace them. -/
  paths : List (String × List String) := []
  deriving Inhabited, Repr

end ComponentAtlas
