import ComponentAtlas.Style.Rule
import ComponentAtlas.Text.LetterCase

/-!
# Reading style sheets

Comments are blanked character by character before anything else is read; all positions are
positions in the blanked text.

* `blankComments`: the text with blanks in place of comments;
* `splitTop`: the first of some characters outside quotes and parentheses;
* `Sheet.read`: the rules of a style sheet. Malformed parts are reported and passed over.
-/

namespace ComponentAtlas.Style

open ComponentAtlas.Text ComponentAtlas.Source

/-- The part of a text up to the end of an open comment, with what follows it. -/
def commentEnd : List Char → Option (List Char × List Char)
  | '*' :: '/' :: rest => some (['*', '/'], rest)
  | c :: cs => (commentEnd cs).map fun (a, b) => (c :: a, b)
  | [] => none

theorem commentEnd_length {cs a b : List Char} (h : commentEnd cs = some (a, b)) :
    b.length < cs.length := by
  induction cs using commentEnd.induct generalizing a b with
  | case1 rest =>
    simp only [commentEnd, Option.some.injEq, Prod.mk.injEq] at h
    rw [← h.2, List.length_cons, List.length_cons]
    omega
  | case2 c cs hne ih =>
    rw [commentEnd.eq_2 c cs hne] at h
    obtain ⟨⟨a', b'⟩, hs, hab⟩ := Option.map_eq_some_iff.1 h
    simp only [Prod.mk.injEq] at hab
    have := ih hs
    simp [← hab.2]
    omega
  | case3 => simp [commentEnd] at h

/-- What a character of a comment is replaced by. -/
def blanked (c : Char) : Char := if c == '\n' then '\n' else ' '

/-- The comment at the start of a text with what follows it. -/
def comment? (cs : List Char) : Option (List Char × List Char) :=
  match cs with
  | '/' :: '*' :: inner => (commentEnd inner).map fun (a, b) => ('/' :: '*' :: a, b)
  | _ => none

theorem comment?_length {cs a b : List Char} (h : comment? cs = some (a, b)) :
    b.length < cs.length := by
  unfold comment? at h
  split at h
  · obtain ⟨⟨a', b'⟩, hs, hab⟩ := Option.map_eq_some_iff.1 h
    simp only [Prod.mk.injEq] at hab
    have := commentEnd_length hs
    simp [← hab.2]
    omega
  · simp at h

/-- The text with blanks in place of the characters of comments; line feeds stay. -/
def blankComments (cs : List Char) : List Char :=
  match cs with
  | [] => []
  | c :: rest =>
    match _h : comment? (c :: rest) with
    | some (body, after) => body.map blanked ++ blankComments after
    | none => c :: blankComments rest
termination_by cs.length
decreasing_by
  · exact comment?_length _h
  · simp

/-- The first character among `stops` outside quotes and parentheses, with what precedes and what
follows it. A backslash inside quotes protects the next character. The depth has no bound here; a
counter of 32 bits agrees with it in every text of less than two gibibytes. -/
def splitTopFrom (stops : List Char) (depth : Int) (quote : Option Char) :
    List Char → Option (List Char × Char × List Char)
  | [] => none
  | c :: cs =>
    let keep (depth : Int) (quote : Option Char) : Option (List Char × Char × List Char) :=
      (splitTopFrom stops depth quote cs).map fun (a, s, b) => (c :: a, s, b)
    match quote with
    | some q =>
      if c == q then keep depth none
      else if c == '\\' then
        match cs with
        | d :: rest =>
          (splitTopFrom stops depth quote rest).map fun (a, s, b) => (c :: d :: a, s, b)
        | [] => none
      else keep depth quote
    | none =>
      if c == '"' || c == '\'' then keep depth (some c)
      else if c == '(' then keep (depth + 1) none
      else if c == ')' then keep (depth - 1) none
      else if depth == 0 && stops.contains c then some ([], c, cs)
      else keep depth none

/-- The first character among `stops` outside quotes and parentheses. -/
def splitTop (stops : List Char) (cs : List Char) : Option (List Char × Char × List Char) :=
  splitTopFrom stops 0 none cs

theorem splitTopFrom_append {stops : List Char} {depth : Int} {quote : Option Char}
    {cs a b : List Char} {s : Char}
    (h : splitTopFrom stops depth quote cs = some (a, s, b)) : cs = a ++ s :: b := by
  induction hn : cs.length using Nat.strongRecOn generalizing depth quote cs a b with
  | _ n ih =>
    subst hn
    cases cs with
    | nil => simp [splitTopFrom] at h
    | cons c cs =>
      have keep : ∀ depth quote, (splitTopFrom stops depth quote cs).map
          (fun (a, s, b) => (c :: a, s, b)) = some (a, s, b) → c :: cs = a ++ s :: b := by
        intro depth quote h
        obtain ⟨⟨a', s', b'⟩, hs, hab⟩ := Option.map_eq_some_iff.1 h
        simp only [Prod.mk.injEq] at hab
        obtain ⟨rfl, rfl, rfl⟩ := hab
        simpa using ih cs.length (by simp) hs rfl
      unfold splitTopFrom at h
      dsimp only at h
      split at h
      · split at h
        · exact keep _ _ h
        · split at h
          · split at h
            · rename_i d rest
              obtain ⟨⟨a', s', b'⟩, hs, hab⟩ := Option.map_eq_some_iff.1 h
              simp only [Prod.mk.injEq] at hab
              obtain ⟨rfl, rfl, rfl⟩ := hab
              simpa using ih rest.length (by rw [List.length_cons, List.length_cons]; omega) hs rfl
            · simp at h
          · exact keep _ _ h
      · split at h
        · exact keep _ _ h
        · split at h
          · exact keep _ _ h
          · split at h
            · exact keep _ _ h
            · split at h
              · simp only [Option.some.injEq, Prod.mk.injEq] at h
                simp [← h.1, ← h.2.1, ← h.2.2]
              · exact keep _ _ h

theorem splitTop_length {stops cs a b : List Char} {s : Char}
    (h : splitTop stops cs = some (a, s, b)) : a.length + 1 + b.length = cs.length := by
  have := congrArg List.length (splitTopFrom_append h)
  simp at this
  omega

/-- The content of a block up to the brace that closes it, with what follows the brace. As in
`splitTopFrom`, the depth has no bound. -/
def blockBody (depth : Nat) (cs : List Char) : Option (List Char × List Char) :=
  match _h : splitTop ['\x7b', '\x7d'] cs with
  | none => none
  | some (a, s, b) =>
    if s == '\x7b' then (blockBody (depth + 1) b).map fun (x, y) => (a ++ s :: x, y)
    else
      match depth with
      | 0 => some (a, b)
      | depth + 1 => (blockBody depth b).map fun (x, y) => (a ++ s :: x, y)
termination_by cs.length
decreasing_by
  all_goals
    have := splitTop_length _h
    omega

theorem blockBody_length {depth : Nat} {cs a b : List Char}
    (h : blockBody depth cs = some (a, b)) : a.length + 1 + b.length = cs.length := by
  induction hn : cs.length using Nat.strongRecOn generalizing depth cs a b with
  | _ n ih =>
    subst hn
    rw [blockBody] at h
    split at h
    · simp at h
    · rename_i x s y hs
      have hl := splitTop_length hs
      split at h
      · obtain ⟨⟨a', b'⟩, hb, hab⟩ := Option.map_eq_some_iff.1 h
        simp only [Prod.mk.injEq] at hab
        have := ih y.length (by omega) hb rfl
        simp [← hab.1, ← hab.2]
        omega
      · split at h
        · simp only [Option.some.injEq, Prod.mk.injEq] at h
          rw [← h.1, ← h.2]
          exact hl
        · obtain ⟨⟨a', b'⟩, hb, hab⟩ := Option.map_eq_some_iff.1 h
          simp only [Prod.mk.injEq] at hab
          have := ih y.length (by omega) hb rfl
          simp [← hab.1, ← hab.2]
          omega

/-! ### Declarations -/

/-- One declaration, `none` when the text is none. -/
def declaration? (cs : List Char) : Option Declaration :=
  match splitOnce ':' cs with
  | none => none
  | some (property, value) =>
    if (trim property).isEmpty || property.contains '\x7b' then none
    else
      let value := trim value
      match dropLiteral? "!important".toList.reverse value.reverse with
      | some rest =>
        some ⟨String.ofList (trim property), String.ofList (trimEnd rest.reverse), true⟩
      | none => some ⟨String.ofList (trim property), String.ofList value, false⟩

/-- The declaration or the problem of one piece of a block; a blank piece yields nothing. -/
def declarationPiece (lines : Lines) (offset : Nat) (cs : List Char) :
    List Declaration × List Problem :=
  let text := trim cs
  if text.isEmpty then ([], [])
  else
    match declaration? text with
    | some d => ([d], [])
    | none =>
      ([], [⟨lines.span offset (offset + byteLength cs),
        "Invalid declaration \"" ++ String.ofList text ++ "\"", .error⟩])

/-- The declarations of a block. -/
def declarations (lines : Lines) (offset : Nat) (cs : List Char) :
    List Declaration × List Problem :=
  match _h : splitTop [';'] cs with
  | none => declarationPiece lines offset cs
  | some (piece, _, rest) =>
    let (ds, ps) := declarationPiece lines offset piece
    let (ds', ps') := declarations lines (offset + byteLength piece + 1) rest
    (ds ++ ds', ps ++ ps')
termination_by cs.length
decreasing_by
  have := splitTop_length _h
  omega

/-! ### Rules -/

/-- The pieces of a selector list between commas outside brackets. As in `splitTopFrom`, the depth has
no bound. -/
def selectorPieces (depth : Int) : List Char → List (List Char)
  | [] => [[]]
  | c :: cs =>
    let keep (depth : Int) : List (List Char) :=
      match selectorPieces depth cs with
      | [] => [[c]]
      | w :: ws => (c :: w) :: ws
    if c == '(' || c == '[' then keep (depth + 1)
    else if c == ')' || c == ']' then keep (depth - 1)
    else if c == ',' && depth == 0 then [] :: selectorPieces depth cs
    else keep depth

/-- The selectors of a style rule. -/
def selectors (cs : List Char) : List String :=
  (((selectorPieces 0 cs).map trim).filter fun s => !s.isEmpty).map String.ofList

/-- A character of the name of an at-rule. -/
def isAtNameChar (c : Char) : Bool := c.isAlphanum || c == '-'

/-- What stands at the start of a list of rules. -/
inductive Item
  /-- Nothing, or something malformed. -/
  | none
  | rule (r : Rule)
  /-- An at-rule whose block, which begins at an offset, holds rules. -/
  | nesting (name prelude : String) (offset : Nat) (body : List Char) (span : Span)

/-- An item with the problems found while reading it and the text behind it. -/
structure Scan where
  item : Item
  problems : List Problem
  offset : Nat
  rest : List Char

/-- A problem at a span of offsets. -/
def problem (lines : Lines) (start stop : Nat) (message : String) : Problem :=
  ⟨lines.span start stop, message, .error⟩

/-- A block behind its opening brace: its content, whether it is closed, and what follows. -/
structure OpenBlock where
  body : List Char
  closed : Bool
  rest : List Char

/-- The block whose opening brace stands before a text. -/
def openBlock (cs : List Char) : OpenBlock :=
  match blockBody 0 cs with
  | some (body, rest) => ⟨body, true, rest⟩
  | none => ⟨cs, false, []⟩

/-- The at-rule whose `@` stands at `start` and is followed by `cs`. -/
def atRule (lines : Lines) (start : Nat) (cs : List Char) : Scan :=
  let name := cs.takeWhile isAtNameChar
  let label := String.ofList name
  let afterName := cs.dropWhile isAtNameChar
  let nameEnd := start + 1 + byteLength name
  match splitTop ['\x7b', ';', '\x7d'] afterName with
  | none =>
    let stop := nameEnd + byteLength afterName
    ⟨.rule (.at label (String.ofList (trim afterName)) none (lines.span start stop)),
      [problem lines start stop ("Unterminated at-rule \"@" ++ label ++ "\"")], stop, []⟩
  | some (before, mark, rest) =>
    let prelude := String.ofList (trim before)
    let stop := nameEnd + byteLength before
    if mark == ';' then
      ⟨.rule (.at label prelude none (lines.span start (stop + 1))), [], stop + 1, rest⟩
    else if mark == '\x7d' then
      ⟨.rule (.at label prelude none (lines.span start stop)),
        [problem lines start stop ("Unterminated at-rule \"@" ++ label ++ "\"")], stop,
        mark :: rest⟩
    else
      let block := openBlock rest
      let bodyEnd := stop + 1 + byteLength block.body
      let next := if block.closed then bodyEnd + 1 else bodyEnd
      let problems :=
        if block.closed then []
        else [problem lines start bodyEnd ("Unclosed block in \"@" ++ label ++ "\"")]
      let span := lines.span start next
      if nestingNames.contains (asciiLower label) then
        ⟨.nesting label prelude (stop + 1) block.body span, problems, next, block.rest⟩
      else
        let (ds, ps) := declarations lines (stop + 1) block.body
        ⟨.rule (.at label prelude (some (.declarations ds)) span), problems ++ ps, next, block.rest⟩

/-- The style rule at the start of `cs`. -/
def styleRule (lines : Lines) (start : Nat) (cs : List Char) : Scan :=
  let expected := "Expected \"\x7b\" after selector"
  match splitTop ['\x7b', ';', '\x7d'] cs with
  | none =>
    let stop := start + byteLength cs
    ⟨.none, [problem lines start stop expected], stop, []⟩
  | some (before, mark, rest) =>
    let stop := start + byteLength before
    if mark == ';' then ⟨.none, [problem lines start stop expected], stop + 1, rest⟩
    else if mark == '\x7d' then ⟨.none, [problem lines start stop expected], stop, mark :: rest⟩
    else
      let block := openBlock rest
      let bodyEnd := stop + 1 + byteLength block.body
      let next := if block.closed then bodyEnd + 1 else bodyEnd
      let problems := if block.closed then [] else [problem lines start bodyEnd "Unclosed block"]
      let (ds, ps) := declarations lines (stop + 1) block.body
      ⟨.rule (.style (selectors before) ds (lines.span start next)), problems ++ ps, next, block.rest⟩

/-- The item at the start of a text that begins with no white space. -/
def item (lines : Lines) (start : Nat) (c : Char) (cs : List Char) : Scan :=
  if c == '\x7d' then ⟨.none, [problem lines start (start + 1) "Unexpected \"\x7d\""], start + 1, cs⟩
  else if c == ';' then ⟨.none, [], start + 1, cs⟩
  else if c == '@' then atRule lines start cs
  else styleRule lines start (c :: cs)

theorem openBlock_length (cs : List Char) :
    (openBlock cs).body.length ≤ cs.length ∧ (openBlock cs).rest.length ≤ cs.length := by
  unfold openBlock
  split
  · rename_i h
    have := blockBody_length h
    simp only
    omega
  · simp

theorem dropWhile_length (p : Char → Bool) (cs : List Char) :
    (cs.dropWhile p).length ≤ cs.length :=
  (List.dropWhile_suffix p).length_le

/-- An item takes at least one character, and a nested block is shorter than the text. -/
theorem item_length (lines : Lines) (start : Nat) (c : Char) (cs : List Char) :
    (item lines start c cs).rest.length < (c :: cs).length ∧
      ∀ name prelude offset body span,
        (item lines start c cs).item = .nesting name prelude offset body span →
          body.length < (c :: cs).length := by
  unfold item
  split
  · simp
  · split
    · simp
    · split
      · have hd := dropWhile_length isAtNameChar cs
        simp only [atRule]
        split
        · simp
        · rename_i before mark rest h
          have hs := splitTop_length h
          have hb := openBlock_length rest
          split
          · simp
            omega
          · split
            · simp
              omega
            · split
              · simp only [List.length_cons, Item.nesting.injEq]
                refine ⟨by omega, ?_⟩
                rintro _ _ _ body _ ⟨_, _, _, rfl, _⟩
                omega
              · simp
                omega
      · rename_i hc1 hc2 hc3
        simp only [styleRule]
        split
        · simp
        · rename_i before mark rest h
          have hs := splitTop_length h
          have hb := openBlock_length rest
          split
          · simp at hs ⊢
            omega
          · split
            · rename_i hm
              have happ := splitTopFrom_append h
              cases before with
              | nil =>
                simp only [List.nil_append, List.cons.injEq] at happ
                simp only [← happ.1] at hm
                exact absurd hm hc1
              | cons b bs =>
                simp at hs ⊢
                omega
            · simp at hs ⊢
              omega

/-- The rules of a text that begins at an offset. A nested list of rules ends at a closing brace. -/
def readRules (lines : Lines) (nested : Bool) (offset : Nat) (cs : List Char) :
    List Rule × List Problem :=
  match _h : cs.dropWhile isAsciiBlank with
  | [] => ([], [])
  | c :: rest =>
    if nested && c == '\x7d' then ([], [])
    else
      let start := offset + byteLength (cs.takeWhile isAsciiBlank)
      let scan := item lines start c rest
      let (more, problems) := readRules lines nested scan.offset scan.rest
      match _hi : scan.item with
      | .none => (more, scan.problems ++ problems)
      | .rule r => (r :: more, scan.problems ++ problems)
      | .nesting name prelude at_ body span =>
        let (inner, ps) := readRules lines true at_ body
        (.at name prelude (some (.rules inner)) span :: more, scan.problems ++ ps ++ problems)
termination_by cs.length
decreasing_by
  · have h1 := dropWhile_length isAsciiBlank cs
    have h2 := (item_length lines (offset + byteLength (cs.takeWhile isAsciiBlank)) c rest).1
    simp only [_h] at h1
    omega
  · have h1 := dropWhile_length isAsciiBlank cs
    have h2 := (item_length lines (offset + byteLength (cs.takeWhile isAsciiBlank)) c rest).2
      _ _ _ _ _ _hi
    simp only [_h] at h1
    omega

/-- The style sheet of a text. -/
def Sheet.read (text : String) : Sheet :=
  let cs := blankComments text.toList
  let (rs, ps) := readRules (Lines.ofText cs) false 0 cs
  ⟨rs, ps⟩

end ComponentAtlas.Style
