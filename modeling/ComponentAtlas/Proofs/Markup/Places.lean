import ComponentAtlas.Markup.Tree
import ComponentAtlas.Proofs.Source.Positions

/-!
# Trees whose spans are nested

* `Siblings`: nodes beside each other, one after the other in the source, with no two texts in a row;
* `Node.Placed`: a node whose parts lie inside it, down to the leaves;
* `Document.Placed`: a document all of whose nodes and problems are placed.
-/

namespace ComponentAtlas.Markup

open ComponentAtlas.Source

/-- An attribute that contains its value. -/
structure Attribute.Placed (source : List Char) (a : Attribute) : Prop where
  proper : a.span.Proper source
  value : ∀ v ∈ a.valueSpan, v.Proper source ∧ v.Within a.span

/-- A start tag that contains its attributes, one after the other. -/
structure Head.Placed (source : List Char) (h : Head) : Prop where
  proper : h.startSpan.Proper source
  order : InOrder h.startSpan.start.offset (h.attrs.map (·.span)) h.startSpan.stop.offset
  attrs : ∀ a ∈ h.attrs, a.Placed source

/-- Whether a node is a text. -/
def Node.isText : Node → Bool
  | .text _ _ => true
  | _ => false

/-- The span of a case. -/
def Case.span : Case → Span
  | .mk _ _ span => span

/-- The nodes of a case. -/
def Case.nodes : Case → List Node
  | .mk _ nodes _ => nodes

/-- Nodes one after the other between two offsets, with no two texts in a row. -/
structure Siblings (lo : ℕ) (nodes : List Node) (hi : ℕ) : Prop where
  order : InOrder lo (nodes.map Node.span) hi
  texts : nodes.IsChain fun a b => ¬ (a.isText ∧ b.isText)

/-- A node whose parts lie inside it. The children of an element lie between its start tag and its
end, and before its end tag if it has one of its own. -/
inductive Node.Placed (source : List Char) : Node → Prop
  | element {head children span endSpan} (proper : span.Proper source) (head_placed : head.Placed source)
      (start : head.startSpan.start = span.start) (within : head.startSpan.Within span)
      (endTag : ∀ e ∈ endSpan, e.Proper source ∧ e.Within span)
      (siblings : Siblings head.startSpan.stop.offset children span.stop.offset)
      (beforeEnd : head.selfClosing = false → ∀ e ∈ endSpan, ∀ n ∈ children,
        n.span.stop.offset ≤ e.start.offset)
      (children_placed : ∀ n ∈ children, n.Placed source) :
      Node.Placed source (.element head children span endSpan)
  | text {value span} (proper : span.Proper source) (nonempty : value ≠ "") :
      Node.Placed source (.text value span)
  | comment {value span} (proper : span.Proper source) : Node.Placed source (.comment value span)
  | expansion {switch kind cases span} (proper : span.Proper source)
      (order : InOrder span.start.offset (cases.map Case.span) span.stop.offset)
      (cases_proper : ∀ c ∈ cases, c.span.Proper source)
      (siblings : ∀ c ∈ cases, Siblings c.span.start.offset c.nodes c.span.stop.offset)
      (nodes_placed : ∀ c ∈ cases, ∀ n ∈ c.nodes, n.Placed source) :
      Node.Placed source (.expansion (.mk switch kind cases span))

/-- A document whose nodes lie between two offsets of the source and whose problems point into it. -/
structure Document.Placed (source : List Char) (lo hi : ℕ) (d : Document) : Prop where
  siblings : Siblings lo d.nodes hi
  nodes : ∀ n ∈ d.nodes, n.Placed source
  problems : ∀ p ∈ d.problems, p.span.Proper source

end ComponentAtlas.Markup
