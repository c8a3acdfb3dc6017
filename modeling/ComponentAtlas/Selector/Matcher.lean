import ComponentAtlas.Selector.Basic

/-!
# Matching nodes against registered selectors

A matcher holds lists of selectors, each with a value. Its indexes name, for an element name, a
class or an attribute name, the registered selectors that ask for it, so that only those have to be
tested against a node.

* `Matcher.insertAll`: register a list of selectors;
* `Matcher.candidates`: the numbers of the selectors that the indexes suggest for a node;
* `Matcher.found`: the first satisfied selector of each list with a satisfied one;
* `Matcher.report`: the same, handed to a callback.
-/

namespace ComponentAtlas

/-- A registered selector and the number of its list. -/
structure Matcher.Entry where
  selector : Selector
  list : Nat
  deriving Inhabited

/-- Registered selectors with their indexes. -/
structure Matcher (α : Type) where
  /-- The registered selectors, in order of registration. -/
  entries : List Matcher.Entry := []
  /-- The values of the registered lists. -/
  values : List α := []
  byElement : List (String × Nat) := []
  byClass : List (String × Nat) := []
  byAttr : List (String × Nat) := []
  /-- The selectors that ask for no name, class or attribute. -/
  universal : List Nat := []

namespace Matcher

variable {α : Type}

/-- The numbers that an index holds for a key. -/
def lookup (index : List (String × Nat)) (key : String) : List Nat :=
  index.filterMap fun (k, id) => if k == key then some id else none

/-- One more selector for the list with number `list`. -/
def insertEntry (m : Matcher α) (list : Nat) (s : Selector) : Matcher α :=
  let id := m.entries.length
  let element :=
    match s.element with
    | some name => if s.hasElement then [(name, id)] else []
    | none => []
  { m with
    entries := m.entries ++ [⟨s, list⟩]
    byElement := m.byElement ++ element
    byClass := m.byClass ++ s.classes.map (·, id)
    byAttr := m.byAttr ++ s.attrs.map (·.1, id)
    universal :=
      if !s.hasElement && s.classes.isEmpty && s.attrs.isEmpty then m.universal ++ [id]
      else m.universal }

/-- One more list of selectors with its value. -/
def insertAll (m : Matcher α) (selectors : List Selector) (value : α) : Matcher α :=
  selectors.foldl (fun m s => m.insertEntry (m.values.length - 1) s)
    { m with values := m.values ++ [value] }

/-- One more selector with its value. -/
def insert (m : Matcher α) (s : Selector) (value : α) : Matcher α := m.insertAll [s] value

/-- Number of registered lists. -/
def size (m : Matcher α) : Nat := m.values.length

/-- The numbers that the indexes hold for a node. -/
def suggested (m : Matcher α) (node : Selector) : List Nat :=
  (match node.element with
    | some name => lookup m.byElement name
    | none => []) ++
    node.classes.flatMap (lookup m.byClass) ++
    node.attrs.flatMap (fun a => lookup m.byAttr a.1) ++ m.universal

/-- The selectors to test against a node, in order of registration. -/
def candidates (m : Matcher α) (node : Selector) : List Nat :=
  let ids := m.suggested node
  (List.range m.entries.length).filter fun id => ids.contains id

/-- The satisfied selectors among the given ones, without those of lists already in `seen`. -/
def collect (node : Selector) (seen : List Nat) : List Entry → List Entry
  | [] => []
  | e :: es =>
    if seen.contains e.list || !node.satisfies e.selector then collect node seen es
    else e :: collect node (e.list :: seen) es

/-- The first satisfied selector of each list that has one, with the value of the list. -/
def found (m : Matcher α) (node : Selector) : List (Selector × α) :=
  (collect node [] ((m.candidates node).filterMap fun id => m.entries[id]?)).filterMap fun e =>
    m.values[e.list]?.map fun v => (e.selector, v)

/-- Hands what was found to a callback that changes `b`, one after the other; tells whether anything
was found. -/
def report {β : Type} (m : Matcher α) (node : Selector) (callback : β → Selector → α → β) (b : β) :
    Bool × β :=
  let found := m.found node
  (!found.isEmpty, found.foldl (fun b x => callback b x.1 x.2) b)

/-- The values of the lists that a node matches. -/
def valuesFor (m : Matcher α) (node : Selector) : List α :=
  (m.report node (fun values _ value => values ++ [value]) []).2

end Matcher

end ComponentAtlas
