import ComponentAtlas.Text.Chars

/-!
# Positions, spans and problems of a source text

A position is a byte offset together with its line and its column in bytes, all counted from zero.

* `Lines.ofText`: where the lines of a text begin;
* `Lines.locate`: the position of a byte offset;
* `Problem`: a message anchored at a span, with the text shown to a user.
-/

namespace ComponentAtlas.Source

/-- A byte offset with the line and the column, in bytes, at which it lies. -/
structure Position where
  offset : Nat := 0
  line : Nat := 0
  col : Nat := 0
  deriving DecidableEq, Repr, Inhabited

/-- A user counts lines and columns from one. -/
def Position.render (p : Position) : String := s!"{p.line + 1}:{p.col + 1}"

/-- The part of a source between two positions. -/
structure Span where
  start : Position := {}
  stop : Position := {}
  deriving DecidableEq, Repr, Inhabited

/-- A span is shown by the position of its start. -/
def Span.render (s : Span) : String := s.start.render

/-- How serious a problem is. -/
inductive Severity
  | warning
  | error
  deriving DecidableEq, Repr, Inhabited

/-- A problem found while reading a source. -/
structure Problem where
  span : Span
  message : String
  severity : Severity := .error
  deriving DecidableEq, Repr, Inhabited

/-- The message followed by the position of its span. -/
def Problem.render (p : Problem) : String := p.message ++ " (\"" ++ p.span.render ++ "\")"

/-- The byte offsets at which the lines of a text begin, in increasing order. -/
structure Lines where
  starts : List Nat
  deriving DecidableEq, Repr, Inhabited

namespace Lines

/-- The offsets just behind the line feeds of a text that begins at `offset`. -/
def breaks (offset : Nat) : List Char → List Nat
  | [] => []
  | c :: cs =>
    let next := offset + c.utf8Size
    if c == '\n' then next :: breaks next cs else breaks next cs

/-- The lines of a text. -/
def ofText (cs : List Char) : Lines := ⟨0 :: breaks 0 cs⟩

/-- Number and start of the last line that begins at or before `offset`, given the number and start
of an earlier line. -/
def lastAt (offset : Nat) : Nat → Nat → List Nat → Nat × Nat
  | line, start, [] => (line, start)
  | line, start, s :: rest =>
    if s ≤ offset then lastAt offset (line + 1) s rest else (line, start)

/-- The position of a byte offset. -/
def locate (lines : Lines) (offset : Nat) : Position :=
  let (line, start) := lastAt offset 0 0 lines.starts.tail
  ⟨offset, line, offset - start⟩

@[simp] theorem locate_offset (lines : Lines) (offset : Nat) :
    (lines.locate offset).offset = offset := rfl

/-- The span between two byte offsets. -/
def span (lines : Lines) (start stop : Nat) : Span := ⟨lines.locate start, lines.locate stop⟩

end Lines

end ComponentAtlas.Source
