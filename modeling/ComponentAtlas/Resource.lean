import ComponentAtlas.FileGraph
import ComponentAtlas.Path

/-!
# Templates and styles in files of their own

A component names its template and style files by addresses relative to its own file. Every address is
read once, and the component depends on the file from then on.

* `Resources`: the texts that can be read;
* `Loader`: what was read so far;
* `Loader.fetch`: reads what an address of a file stands for.
-/

namespace ComponentAtlas

/-- Why a resource has no text. -/
inductive ResourceError
  | notFound (url : String)
  | loadFailed (url reason : String)
  deriving DecidableEq, Repr, Inhabited

namespace ResourceError

/-- The error as shown to a user. -/
def message : ResourceError → String
  | .notFound url => "resource not found: " ++ url
  | .loadFailed url reason => "failed to load " ++ url ++ ": " ++ reason

/-- The address that has no text. -/
def url : ResourceError → String
  | .notFound url => url
  | .loadFailed url _ => url

end ResourceError

/-- Texts by normalised address, and addresses that cannot be read. -/
structure Resources where
  contents : Table String String := []
  failing : List (String × String) := []
  /-- What any other address stands for; nothing, unless the texts come from elsewhere. -/
  other : String → Except ResourceError String := fun url => .error (.notFound url)
  deriving Inhabited

namespace Resources

/-- The resources with a text under an address. -/
def write (r : Resources) (url text : String) : Resources :=
  { r with contents := Table.put (Path.normalize url) text r.contents }

/-- Whether there is a text under an address. -/
def contains (r : Resources) (url : String) : Bool := Table.contains (Path.normalize url) r.contents

/-- The text under an address. -/
def read (r : Resources) (url : String) : Except ResourceError String :=
  match Table.get? url r.failing with
  | some reason => .error (.loadFailed url reason)
  | none =>
    match Table.get? (Path.normalize url) r.contents with
    | some text => .ok text
    | none => r.other url

end Resources

/-- What was read so far. -/
structure Loader where
  /-- Which file depends on which. -/
  graph : FileGraph := {}
  /-- The outcome for each address that was read. -/
  loaded : Table String (Except ResourceError String) := []
  /-- The addresses for which a text was requested, in order. -/
  requests : List String := []
  remarks : List String := []
  deriving Inhabited

namespace Loader

/-- What an address of a file stands for. -/
def resolve (url file : String) : String :=
  if Path.isRooted url then Path.normalize url else Path.join (Path.dirname file) url

/-- Reads a text, whether it was read before or not. -/
def request (r : Resources) (url : String) : StateM Loader (Except ResourceError String) := do
  modify fun l => { l with requests := l.requests ++ [url] }
  return r.read url

/-- The remark on what was read. -/
def remark (url : String) : Except ResourceError String → String
  | .ok text => s!"loaded {url} ({text.utf8ByteSize} bytes)"
  | .error e => e.message

/-- Reads a resolved address for a file, which depends on it from then on. -/
def load (r : Resources) (url file : String) : StateM Loader (Except ResourceError String) := do
  modify fun l => { l with graph := l.graph.add file url }
  match Table.get? url (← get).loaded with
  | some outcome => return outcome
  | none =>
    let outcome ← request r url
    modify fun l => { l with
      remarks := l.remarks ++ [remark url outcome]
      loaded := Table.put url outcome l.loaded }
    return outcome

/-- Reads what an address of a file stands for. -/
def fetch (r : Resources) (url file : String) :
    StateM Loader (String × Except ResourceError String) := do
  let resolved := resolve url file
  return (resolved, ← load r resolved file)

end Loader

end ComponentAtlas
