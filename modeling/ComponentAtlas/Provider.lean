import ComponentAtlas.Evaluation.Value

/-!
# Providers

The value of a `providers` list is a tree of arrays. Its leaves are classes and bindings of a token
to a value, a factory, another token or a class.

* `ProviderEntry`: an entry of a flattened list;
* `Flattened.ofValue`: the entries of a value up to a depth, with notes on what was left out.
-/

namespace ComponentAtlas

/-- How a provider produces its value. -/
inductive UseKind
  | value
  | factory
  | existing
  | cls
  deriving DecidableEq, Repr, Inhabited

namespace UseKind

/-- All kinds, in the order in which a binding is searched for them. -/
def all : List UseKind := [.value, .factory, .existing, .cls]

/-- The key that marks the kind in a binding. -/
def key : UseKind → String
  | .value => "useValue"
  | .factory => "useFactory"
  | .existing => "useExisting"
  | .cls => "useClass"

end UseKind

/-- A binding of a token. -/
structure Provider where
  provide : Value
  use : UseKind
  value : Value
  multi : Bool
  deriving Inhabited

/-- An entry of a list of providers. -/
inductive ProviderEntry
  /-- A class, provided under its own token or under another one. -/
  | cls (provide : Option Value) (target : Reference)
  | provider (p : Provider)
  deriving Inhabited

namespace ProviderEntry

/-- Whether an entry answers requests for a token. -/
def provides (token : Value) : ProviderEntry → Bool
  | .cls (some provide) _ => provide.sameToken token
  | .cls none target => (token.asReference?.map fun r => r.id == target.id).getD false
  | .provider p => p.provide.sameToken token

/-- The name of an entry as shown to a user. -/
def name : ProviderEntry → String
  | .cls _ target => target.name
  | .provider p => p.provide.render

/-- The entry that an object stands for: it has a token and exactly one key that says what is
provided, and a provided class is a reference. -/
def ofMap? (entries : List (String × Value)) : Option ProviderEntry := do
  let provide ← Table.get? "provide" entries
  let uses := UseKind.all.filterMap fun kind => (Table.get? kind.key entries).map (kind, ·)
  match uses with
  | [(.cls, value)] => return .cls (some provide) (← value.asReference?)
  | [(use, value)] =>
    let multi := ((Table.get? "multi" entries).bind Value.asBool?).getD false
    return .provider { provide, use, value, multi }
  | _ => none

end ProviderEntry

/-- A flattened list of providers, with notes on what was left out. -/
structure Flattened where
  entries : List ProviderEntry := []
  notes : List String := []
  deriving Inhabited

/-- Two flattened lists one after the other. -/
def Flattened.append (a b : Flattened) : Flattened := ⟨a.entries ++ b.entries, a.notes ++ b.notes⟩

/-- What a value that is no array contributes. -/
def Flattened.ofLeaf : Value → Flattened
  | .reference r => { entries := [.cls none r] }
  | .map entries =>
    match ProviderEntry.ofMap? entries with
    | some entry => { entries := [entry] }
    | none => { notes := ["dropping unrecognized provider " ++ (Value.map entries).render] }
  | .dynamic d => { notes := ["dropping dynamic provider: " ++ d.render] }
  | v => { notes := ["dropping provider " ++ v.render] }

/-- Flattens a value that lies under arrays; `room` says how many more arrays may be entered, `limit`
how many there may be at all. -/
def Flattened.walk (limit : Nat) : Nat → Value → Flattened
  | 0, _ => { notes := [s!"providers nested deeper than {limit}, ignoring the rest"] }
  | room + 1, .array items =>
    (items.map (walk limit room)).foldl Flattened.append {}
  | _ + 1, v => ofLeaf v

/-- The entries of a value; leaves under more than `limit` arrays are left out. -/
def Flattened.ofValue (limit : Nat) (v : Value) : Flattened := walk limit (limit + 1) v

end ComponentAtlas
