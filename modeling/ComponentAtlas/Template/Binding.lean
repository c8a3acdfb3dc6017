import ComponentAtlas.Markup.Tag
import ComponentAtlas.Role
import ComponentAtlas.Scope.Basic
import ComponentAtlas.Selector.Matcher
import ComponentAtlas.Selector.Reading
import ComponentAtlas.Template.Node

/-!
# Templates bound to a scope

Every element and template of a template is matched against the selectors of a scope. Texts leave no
trace in the result.

* `BoundNode`: a node with the component and the directives that it matches;
* `Binding.ofScope`: the selectors of a scope, and remarks on those that cannot be read;
* `Binding.nodes`: the bound nodes of a template.
-/

namespace ComponentAtlas

open ComponentAtlas.Script

namespace Template

open ComponentAtlas.Source

/-- What a node holds apart from its children. -/
structure BoundHead where
  /-- The tag name without the part for the namespace. -/
  name : String
  space : Option String := none
  component : Option Symbol := none
  directives : List Symbol := []
  attributes : List (String × String) := []
  /-- The names of bound properties. -/
  inputs : List String := []
  outputs : List String := []
  references : List (String × String) := []
  locals : List (String × String) := []
  span : Span
  deriving DecidableEq, Repr, Inhabited

/-- The names of the component and the directives of a node. -/
def BoundHead.matched (h : BoundHead) : List String := (h.component.toList ++ h.directives).map (·.name)

/-- A node of a bound template. -/
inductive BoundNode
  | mk (head : BoundHead) (children : List BoundNode)
  deriving Inhabited, Repr

namespace BoundNode

/-- What a node holds apart from its children. -/
def head : BoundNode → BoundHead
  | .mk head _ => head

/-- The children of a node. -/
def children : BoundNode → List BoundNode
  | .mk _ children => children

mutual

/-- The first node with a name, from the top and from the left. -/
def find? (name : String) : BoundNode → Option BoundNode
  | .mk head children => if head.name = name then some (.mk head children) else findIn? name children

/-- The first node with a name in several trees. -/
def findIn? (name : String) : List BoundNode → Option BoundNode
  | [] => none
  | n :: ns => (find? name n).or (findIn? name ns)

end

end BoundNode

/-! ### Keys of nodes -/

/-- The tag name of templates. -/
def templateTag : String := "ng-template"

/-- The selector with literal attributes; the words of a `class` are class names too. Attributes
that only mark a text for localisation are left out. -/
def withAttributes (s : Selector) (attributes : List TextAttr) : Selector :=
  attributes.foldl (fun s a =>
    if a.i18n then s
    else
      let s := s.addAttribute a.name a.value
      if a.name = "class" then (Text.words a.value).foldl Selector.addClass s else s) s

/-- The selector with attributes that have no value. -/
def withNames (s : Selector) (names : List String) : Selector :=
  names.foldl (fun s name => s.addAttribute name "") s

/-- The name that an attribute of the template around an element adds to the key. -/
def HoistedAttr.keyName? : HoistedAttr → Option String
  | .text a => if a.i18n then none else some a.name
  | .bound i => some i.name

/-- What selectors see of an element. -/
def elementKey (name : String) (attrs : Attrs) : Selector :=
  withNames (withAttributes (Selector.setElement {} name) attrs.attributes)
    (attrs.inputs.map (·.name) ++ attrs.outputs.map (·.name))

/-- What selectors see of a template. -/
def templateKey (attrs : Attrs) (hoisted : List HoistedAttr) : Selector :=
  withNames (withAttributes (Selector.setElement {} templateTag) attrs.attributes)
    (hoisted.filterMap HoistedAttr.keyName? ++ attrs.inputs.map (·.name) ++ attrs.outputs.map (·.name))

/-! ### Binding -/

/-- The selectors of a scope: every list stands for a declaration and tells whether it is a component. -/
structure Binding where
  matcher : Matcher (DeclarationId × Bool) := {}
  /-- Remarks on selectors that cannot be read. -/
  remarks : List String := []

namespace Binding

/-- The binding with one more directive of a scope. -/
def add (b : Binding) (d : ScopeDirective) : Binding :=
  match d.selector with
  | none => b
  | some text =>
    match Selector.ofText text with
    | .ok selectors => { b with matcher := b.matcher.insertAll selectors (d.reference.id, d.isComponent) }
    | .error e => { b with remarks := b.remarks ++
        ["ignoring selector '" ++ text ++ "' of " ++ d.reference.name ++ ": " ++ e.message] }

/-- The selectors of a scope, in its order. -/
def ofScope (s : Scope) : Binding := s.directives.foldl add {}

/-- The head with the first component and all directives that a key matches. -/
def apply (b : Binding) (symbol? : DeclarationId → Option Symbol) (key : Selector) (head : BoundHead) :
    BoundHead :=
  let found := (b.matcher.valuesFor key).filterMap fun (id, isComponent) =>
    (symbol? id).map fun s => (s, isComponent)
  { head with
    component := (found.find? (·.2)).map (·.1)
    directives := (found.filter fun f => !f.2).map (·.1) }

/-- Names and values of literal attributes. -/
def literal (attributes : List TextAttr) : List (String × String) := attributes.map fun a => (a.name, a.value)

/-- Names and values of references and variables. -/
def pairs (bs : List Binder) : List (String × String) := bs.map fun b => (b.name, b.value)

/-- The bound head of an element. -/
def elementHead (b : Binding) (symbol? : DeclarationId → Option Symbol) (tag : String) (attrs : Attrs)
    (span : Span) : Except String BoundHead := do
  let (space, name) ← Markup.Tag.splitName tag true
  return b.apply symbol? (elementKey name attrs) {
    name, space, span
    attributes := literal attrs.attributes
    inputs := attrs.inputs.map (·.name)
    outputs := attrs.outputs.map (·.name)
    references := pairs attrs.references }

/-- The bound head of a template. -/
def templateHead (b : Binding) (symbol? : DeclarationId → Option Symbol) (tag : Option String) (attrs : Attrs)
    (hoisted : List HoistedAttr) (locals : List Binder) (span : Span) : Except String BoundHead := do
  let (space, name) ← match tag with
    | some tag => Markup.Tag.splitName tag true
    | none => .ok (none, templateTag)
  return b.apply symbol? (templateKey attrs hoisted) {
    name, space, span
    attributes := literal attrs.attributes
    inputs := attrs.inputs.map (·.name) ++ hoisted.map (·.name)
    outputs := attrs.outputs.map (·.name)
    references := pairs attrs.references
    locals := pairs locals }

mutual

/-- What a node of a template is bound to; fails at a name whose namespace is not closed. -/
def node (b : Binding) (symbol? : DeclarationId → Option Symbol) : Node → Except String (List BoundNode)
  | .element tag attrs children extent => do
    let head ← b.elementHead symbol? tag attrs extent.span
    return [.mk head (← nodes b symbol? children)]
  | .template tag attrs hoisted locals children extent => do
    let head ← b.templateHead symbol? tag attrs hoisted locals extent.span
    return [.mk head (← nodes b symbol? children)]
  | .content _ attributes children span => do
    let head : BoundHead := { name := "ng-content", attributes := literal attributes, span }
    return [.mk head (← nodes b symbol? children)]
  | .text _ _ => return []
  | .boundText _ _ => return []
  | .icu _ _ => return []

/-- What the nodes of a template are bound to. -/
def nodes (b : Binding) (symbol? : DeclarationId → Option Symbol) : List Node → Except String (List BoundNode)
  | [] => return []
  | n :: ns => do
    let first ← node b symbol? n
    return first ++ (← nodes b symbol? ns)

end

end Binding

end Template

end ComponentAtlas
