import ComponentAtlas.Diagnostic.Failure
import ComponentAtlas.Json.Reading
import ComponentAtlas.Log

/-!
# Options of a workspace

Options are read from a JSON object. Its members are known by name, each may occur once, and those
that are left out have a default. The values of all members may also be given as a list, in the order
of `Options.names`.

* `Options.ofText`: the options that a text denotes;
* `Options.check`: whether they make sense;
* `Options.roots`: the files from which a program is loaded.
-/

namespace ComponentAtlas

/-- The options of a workspace. -/
structure Options where
  rootDir : Option String := none
  baseUrl : Option String := none
  /-- Files to start from; a path that is not rooted is relative to the root directory. -/
  files : List String := []
  /-- Patterns for further files to start from, relative to the root directory. -/
  patterns : List String := []
  /-- Patterns for module specifiers with the targets that replace them. -/
  paths : Table String (List String) := []
  strictInjectionParameters : Bool := false
  maxProviderDepth : Nat := 32
  maxEvaluationDepth : Nat := 64
  logLevel : Option Level := none
  deriving Inhabited, Repr

namespace Options

/-! ### Values of members -/

/-- A text, or nothing. -/
def text? : Json → Option (Option String)
  | .null => some none
  | .str s => some (some s)
  | _ => none

/-- A list of texts. -/
def texts? : Json → Option (List String)
  | .arr items => items.mapM fun
    | .str s => some s
    | _ => none
  | _ => none

/-- Lists of texts by key; the last list of a key counts. -/
def lists? : Json → Option (Table String (List String))
  | .obj members => members.foldlM (fun table m => (texts? m.2).map (Table.put m.1 · table)) []
  | _ => none

/-- A truth value. -/
def bool? : Json → Option Bool
  | .bool b => some b
  | _ => none

/-- A natural number of at most 64 bits, written without sign, fraction and exponent. -/
def nat? : Json → Option Nat
  | .num d => if d.integral && !d.negative && d.digits < Nat.pow 2 64 then some d.digits else none
  | _ => none

/-- A level by its name, perhaps as the only key of an object, or nothing. -/
def level? : Json → Option (Option Level)
  | .null => some none
  | .str s => (Level.ofName? s).map some
  | .obj [(s, .null)] => (Level.ofName? s).map some
  | _ => none

/-! ### Reading -/

/-- The names of the members. -/
def names : List String :=
  ["rootDir", "baseUrl", "files", "include", "paths", "strictInjectionParameters", "maxProviderDepth",
   "maxEvaluationDepth", "logLevel"]

/-- The options with the value of a member. -/
def assign (o : Options) (name : String) (j : Json) : Option Options :=
  match name with
  | "rootDir" => (text? j).map fun rootDir => { o with rootDir }
  | "baseUrl" => (text? j).map fun baseUrl => { o with baseUrl }
  | "files" => (texts? j).map fun files => { o with files }
  | "include" => (texts? j).map fun patterns => { o with patterns }
  | "paths" => (lists? j).map fun paths => { o with paths }
  | "strictInjectionParameters" => (bool? j).map fun strict => { o with strictInjectionParameters := strict }
  | "maxProviderDepth" => (nat? j).map fun depth => { o with maxProviderDepth := depth }
  | "maxEvaluationDepth" => (nat? j).map fun depth => { o with maxEvaluationDepth := depth }
  | "logLevel" => (level? j).map fun logLevel => { o with logLevel }
  | _ => none

/-- The options that a structured value denotes. -/
def ofJson? : Json → Option Options
  | .obj members =>
    if (members.map (·.1)).eraseDups.length = members.length then
      members.foldlM (fun o m => o.assign m.1 m.2) {}
    else none
  | .arr items =>
    if items.length ≤ names.length then
      (names.zip items).foldlM (fun o m => o.assign m.1 m.2) {}
    else none
  | _ => none

/-- The first target of a mapping with more than one star. -/
def badTarget? (targets : List String) : Option String := targets.find? fun t => Text.countChar '*' t > 1

/-- What is wrong with a mapping of module specifiers. -/
def pathProblem? (entry : String × List String) : Option String :=
  if Text.countChar '*' entry.1 > 1 then some s!"paths pattern '{entry.1}' can have at most one '*'"
  else (badTarget? entry.2).map fun target =>
    s!"substitution '{target}' for '{entry.1}' can have at most one '*'"

/-- The first thing that is wrong with options. -/
def problem? (o : Options) : Option String :=
  if o.files.isEmpty && o.patterns.isEmpty then some "no input files: set `files` or `include`"
  else
    (o.paths.findSome? pathProblem?).or
      (if o.maxProviderDepth = 0 then some "maxProviderDepth must be positive"
       else if o.maxEvaluationDepth = 0 then some "maxEvaluationDepth must be positive"
       else none)

/-- Options that make sense. -/
def check (o : Options) : Except Failure Options :=
  match o.problem? with
  | some text => .error (.configuration text)
  | none => .ok o

/-- The options that a text denotes. -/
def ofText (text : String) : Except Failure Options :=
  match (Json.ofText? text).bind ofJson? with
  | none => .error (.configuration "cannot parse options")
  | some o => o.check

/-! ### Programs -/

/-- The directory that paths are relative to. -/
def root (o : Options) : String := o.rootDir.getD "/"

/-- How module specifiers are mapped to paths. -/
def settings (o : Options) : Settings := { rootDir := o.rootDir, baseUrl := o.baseUrl, paths := o.paths }

/-- The files from which a program is loaded, each of them once. -/
def roots (o : Options) (h : Host) : Except Failure (List String) := do
  let own := o.files.map fun file => if Path.isRooted file then Path.normalize file else Path.join o.root file
  if o.patterns.isEmpty then return own.foldl addNew []
  else
    match h.list o.root o.patterns with
    | .ok found => return (own ++ found).foldl addNew []
    | .error e => .error (.ofProgram e)

end Options

end ComponentAtlas
