import ComponentAtlas.Text.Chars

/-!
# Slash-separated paths

Sources are addressed by paths such as `/app/app.module.ts`.

* `normalize`: the path without `.`, `..` and repeated separators, as far as they can be resolved;
* `join`: a path read relative to another one;
* `dirname`, `basename`: the two ends of a path;
* `capture`: the part of a specifier that stands for the `*` of a mapping pattern.

A path is a flag for a leading `/` and a list of segments; `normalize` folds the segments of the
text into a stack with `push` and writes the stack back with `render`.
-/

namespace ComponentAtlas.Path

open ComponentAtlas.Text

/-- Whether a path begins at the root. -/
def isRooted (path : String) : Bool := path.toList.head? == some '/'

/-- The segments of a path, empty ones included. -/
def segments (path : String) : List String := splitOn '/' path

/-- One more segment on a stack of resolved segments, innermost first. The segment `..` takes back
the last one; at the root it has no effect, and elsewhere it is kept once nothing is left to take
back. -/
def push (rooted : Bool) (stack : List String) (segment : String) : List String :=
  if segment = "" ∨ segment = "." then stack
  else if segment = ".." then
    match stack with
    | [] => if rooted then [] else [".."]
    | top :: rest => if top ≠ ".." then rest else if rooted then top :: rest else ".." :: top :: rest
  else segment :: stack

/-- The stack of resolved segments of a list of segments, innermost first. -/
def resolve (rooted : Bool) (segs : List String) : List String := segs.foldl (push rooted) []

/-- The text of a path with resolved segments, outermost first. -/
def render (rooted : Bool) (segs : List String) : String :=
  let joined := "/".intercalate segs
  if rooted then "/" ++ joined else if segs.isEmpty then "." else joined

/-- The path with `.`, `..` and repeated separators resolved. -/
def normalize (path : String) : String :=
  render (isRooted path) (resolve (isRooted path) (segments path)).reverse

/-- The normalized path of `path` read relative to `base`. -/
def join (base path : String) : String :=
  if isRooted path then normalize path else normalize (base ++ "/" ++ path)

/-- The directory that holds a file. -/
def dirname (file : String) : String :=
  match splitLast '/' file.toList with
  | none => "."
  | some ([], _) => "/"
  | some (dir, _) => String.ofList dir

/-- The last segment of a path. -/
def basename (file : String) : String :=
  match splitLast '/' file.toList with
  | none => file
  | some (_, base) => String.ofList base

/-- Whether a module specifier is relative to the file that names it. -/
def isLocalRelative (specifier : String) : Bool :=
  startsWith specifier "./" || startsWith specifier "../" || specifier == "." || specifier == ".."

/-- Whether a file holds declarations only. -/
def isDeclarationFile (path : String) : Bool := endsWith path ".d.ts"

/-- A specifier of an emitted file without the extension of the emitted file. -/
def stripEmittedExtension (specifier : String) : String :=
  ((dropEnd? ".js" specifier).or (dropEnd? ".mjs" specifier)).getD specifier

/-- What stands for the `*` of `pattern` in `specifier`; the empty text when the pattern has no `*`
and is the specifier itself. -/
def capture (pattern specifier : String) : Option String :=
  match splitOnce '*' pattern.toList with
  | none => if pattern == specifier then some "" else none
  | some (before, after) =>
    match dropLiteral? before specifier.toList with
    | none => none
    | some rest =>
      (dropLiteral? after.reverse rest.reverse).map fun mid => String.ofList mid.reverse

end ComponentAtlas.Path
