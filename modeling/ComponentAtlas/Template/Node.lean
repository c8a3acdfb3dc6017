import ComponentAtlas.Markup.Node

/-!
# Template nodes

The nodes of a template after its attributes have been sorted into literal attributes, bound
inputs, events, references and variables.
-/

namespace ComponentAtlas.Template

open ComponentAtlas.Source

/-- A literal attribute. -/
structure TextAttr where
  name : String
  value : String
  span : Span
  valueSpan : Option Span := none
  /-- Set for `i18n` and `i18n-…` markers. -/
  i18n : Bool := false
  deriving DecidableEq, Repr, Inhabited

/-- What a bound input is bound to. -/
inductive BindingKind
  | property
  | attr
  | cls
  | style
  | twoWay
  deriving DecidableEq, Repr, Inhabited

/-- A bound input. -/
structure Input where
  name : String
  kind : BindingKind
  value : String
  span : Span
  deriving DecidableEq, Repr, Inhabited

/-- A listener for an event. -/
structure Output where
  name : String
  handler : String
  span : Span
  deriving DecidableEq, Repr, Inhabited

/-- A name that a template introduces: a reference to a node or a variable of a template. -/
structure Binder where
  name : String
  value : String
  span : Span
  deriving DecidableEq, Repr, Inhabited

/-- An attribute that a `*` attribute puts on the template around its element. -/
inductive HoistedAttr
  | text (a : TextAttr)
  | bound (i : Input)
  deriving DecidableEq, Repr, Inhabited

/-- The name of a hoisted attribute. -/
def HoistedAttr.name : HoistedAttr → String
  | .text a => a.name
  | .bound i => i.name

/-- The sorted attributes of a node. -/
structure Attrs where
  attributes : List TextAttr := []
  inputs : List Input := []
  outputs : List Output := []
  references : List Binder := []
  deriving DecidableEq, Repr, Inhabited

/-- Where a node stands, and where its tags stand. -/
structure Extent where
  span : Span
  startSpan : Span
  endSpan : Option Span
  deriving DecidableEq, Repr, Inhabited

/-- A node of a template. -/
inductive Node
  | element (name : String) (attrs : Attrs) (children : List Node) (extent : Extent)
  /-- A template; the tag is none for a template that a `*` attribute stands for. -/
  | template (tag : Option String) (attrs : Attrs) (hoisted : List HoistedAttr)
      (locals : List Binder) (children : List Node) (extent : Extent)
  | content (selector : String) (attributes : List TextAttr) (children : List Node) (span : Span)
  | text (value : String) (span : Span)
  | boundText (value : String) (span : Span)
  | icu (e : Markup.Expansion) (span : Span)

instance : Inhabited Node := ⟨.text "" {}⟩

end ComponentAtlas.Template
