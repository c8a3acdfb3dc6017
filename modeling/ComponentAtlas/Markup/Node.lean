import ComponentAtlas.Source.Span

/-!
# Markup trees

* `Node`: an element, a text, a comment or an expansion such as `{n, plural, =0 {none}}`;
* `Document`: the nodes of a source with the problems found while reading it.
-/

namespace ComponentAtlas.Markup

open ComponentAtlas.Source

/-- An attribute as written in a start tag, with its decoded value. -/
structure Attribute where
  name : String
  value : String
  span : Span
  valueSpan : Option Span := none
  deriving DecidableEq, Repr, Inhabited

/-- What a start tag says about an element. -/
structure Head where
  /-- Full name; a name in a namespace is `:namespace:name`. -/
  name : String
  attrs : List Attribute
  startSpan : Span
  selfClosing : Bool
  deriving DecidableEq, Repr, Inhabited

mutual

/-- A node of a markup tree. -/
inductive Node
  | element (head : Head) (children : List Node) (span : Span) (endSpan : Option Span)
  | text (value : String) (span : Span)
  | comment (value : String) (span : Span)
  | expansion (e : Expansion)

/-- A choice between alternatives by the value of an expression. -/
inductive Expansion
  | mk (switch kind : String) (cases : List Case) (span : Span)

/-- One alternative of an expansion. -/
inductive Case
  | mk (value : String) (nodes : List Node) (span : Span)

end

instance : Inhabited Node := ⟨.text "" {}⟩

/-- The span of a node. -/
def Node.span : Node → Span
  | .element _ _ span _ => span
  | .text _ span => span
  | .comment _ span => span
  | .expansion (.mk _ _ _ span) => span

/-- A source read as markup. -/
structure Document where
  nodes : List Node
  problems : List Problem
  deriving Inhabited

end ComponentAtlas.Markup
