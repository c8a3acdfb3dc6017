import ComponentAtlas.Source.Span

/-!
# Style sheets

* `Rule`: a style rule or an at-rule;
* `Sheet`: the rules of a style sheet with the problems found while reading it.
-/

namespace ComponentAtlas.Style

open ComponentAtlas.Source

/-- A declaration `property: value`. -/
structure Declaration where
  property : String
  value : String
  important : Bool
  deriving DecidableEq, Repr, Inhabited

mutual

/-- A rule of a style sheet. -/
inductive Rule
  | style (selectors : List String) (declarations : List Declaration) (span : Span)
  | at (name prelude : String) (block : Option Block) (span : Span)

/-- The block of an at-rule. -/
inductive Block
  | rules (rules : List Rule)
  | declarations (declarations : List Declaration)

end

instance : Inhabited Rule := ⟨.style [] [] {}⟩

/-- At-rules whose block holds rules. -/
def nestingNames : List String :=
  ["media", "supports", "document", "container", "layer", "scope", "keyframes",
   "-webkit-keyframes"]

/-- A style sheet as read from a text. -/
structure Sheet where
  rules : List Rule := []
  problems : List Problem := []
  deriving Inhabited

end ComponentAtlas.Style
