import ComponentAtlas.Markup.Entity
import ComponentAtlas.Markup.Tag
import ComponentAtlas.Markup.Node

/-!
# Tokens of markup

A source is cut into tokens without regard to how they nest.

* `lexeme`: the token at the start of a text; the contents of the cases of an expansion are given
  as text;
* `tokens`: all tokens of a text, with the contents of cases cut into tokens as well.

An element with raw text is one token from its start tag to the end of its end tag.
-/

namespace ComponentAtlas.Markup

open ComponentAtlas.Text ComponentAtlas.Source

/-- The content of an element with raw text. -/
structure Raw where
  value : String
  span : Span
  /-- The end tag, if there is one. -/
  endSpan : Option Span
  deriving Repr, Inhabited

/-- A start tag. -/
structure StartTag where
  name : String
  attrs : List Attribute
  selfClosing : Bool
  span : Span
  raw : Option Raw := none
  deriving Repr, Inhabited

/-- One case of an expansion whose content is not yet read. -/
structure OpenCase where
  value : String
  contentStart : Nat
  content : List Char
  span : Span

/-- An expansion whose contents are not yet read. -/
structure OpenExpansion where
  switch : String
  kind : String
  cases : List OpenCase
  span : Span

/-- The pieces of markup that contain no markup of their own. -/
inductive Simple
  | comment (value : String) (span : Span)
  | text (value : String) (span : Span)
  | startTag (tag : StartTag)
  | endTag (name : String) (span : Span)

/-- A piece of markup at the start of a text. -/
inductive Lexeme
  | simple (s : Simple)
  | expansion (e : OpenExpansion)

mutual

/-- A token, preceded by the problems found while reading it. -/
inductive Token
  | simple (problems : List Problem) (s : Simple)
  | expansion (switch kind : String) (cases : List TokenCase) (span : Span)

/-- A case of an expansion. -/
inductive TokenCase
  | mk (value : String) (tokens : List Token) (span : Span)

end

/-! ### Scanning -/

/-- The parts before and behind the first occurrence of a literal. -/
def splitAtLiteral (lit : List Char) : List Char → Option (List Char × List Char)
  | [] => none
  | c :: cs =>
    match dropLiteral? lit (c :: cs) with
    | some rest => some ([], rest)
    | none => (splitAtLiteral lit cs).map fun (a, b) => (c :: a, b)

/-- A character that may begin a tag name. -/
def isNameStart (c : Char) : Bool := c.isAlpha || c == ':' || c == '_'

/-- Whether a text begins with a character of a tag name. -/
def nameStarts (cs : List Char) : Bool := (cs.head?.map isNameStart).getD false

/-- A character that belongs to the tag name it follows. -/
def isTagNameChar (c : Char) : Bool := !isAsciiBlank c && c != '>' && c != '/' && c != '<'

/-- Whether markup begins here inside a text. -/
def atMarkup (cs : List Char) : Bool :=
  match cs with
  | '\x7b' :: _ => true
  | '<' :: '/' :: rest => nameStarts rest
  | '<' :: rest => nameStarts rest || (dropLiteral? ['!', '-', '-'] rest).isSome
  | _ => false

/-- What follows an interpolation: everything behind the next closing braces, nothing if there are
none. -/
def afterInterpolation (cs : List Char) : List Char :=
  match splitAtLiteral ['\x7d', '\x7d'] cs with
  | some (_, rest) => rest
  | none => []

theorem splitAtLiteral_length {lit cs a b : List Char}
    (h : splitAtLiteral lit cs = some (a, b)) : a.length + lit.length + b.length = cs.length := by
  induction cs generalizing a b with
  | nil => simp [splitAtLiteral] at h
  | cons c cs ih =>
    simp only [splitAtLiteral] at h
    split at h
    · rename_i rest hr
      have := congrArg List.length (eq_append_of_dropLiteral? hr)
      simp only [Option.some.injEq, Prod.mk.injEq] at h
      simp [← h.1, ← h.2, this]
    · obtain ⟨⟨a', b'⟩, hs, hab⟩ := Option.map_eq_some_iff.1 h
      simp only [Prod.mk.injEq] at hab
      have := ih hs
      simp [← hab.1, ← hab.2]
      omega

theorem afterInterpolation_length (cs : List Char) :
    (afterInterpolation cs).length ≤ cs.length := by
  unfold afterInterpolation
  split
  · rename_i hs
    have := splitAtLiteral_length hs
    omega
  · simp

/-- The end of a text that has begun: what follows it. Interpolations are passed over as a whole. -/
def textEnd (cs : List Char) : List Char :=
  match cs with
  | [] => []
  | '\x7b' :: '\x7b' :: rest => textEnd (afterInterpolation rest)
  | c :: rest => if atMarkup (c :: rest) then c :: rest else textEnd rest
termination_by cs.length
decreasing_by
  · have := afterInterpolation_length rest
    simp
    omega
  · simp

theorem textEnd_length (cs : List Char) : (textEnd cs).length ≤ cs.length := by
  fun_induction textEnd cs with
  | case1 => simp
  | case2 rest ih =>
    have := afterInterpolation_length rest
    simp
    omega
  | case3 c rest => simp
  | case4 c rest _ _ ih => simp; omega

/-- What follows a text whose first character belongs to it in any case. -/
def afterText (cs : List Char) : List Char :=
  match cs with
  | [] => []
  | '\x7b' :: '\x7b' :: rest => textEnd (afterInterpolation rest)
  | _ :: rest => textEnd rest

theorem afterText_length (c : Char) (cs : List Char) :
    (afterText (c :: cs)).length < (c :: cs).length := by
  unfold afterText
  split
  · rename_i heq
    simp at heq
  · rename_i rest heq
    have := textEnd_length (afterInterpolation rest)
    have := afterInterpolation_length rest
    simp [heq]
    omega
  · rename_i rest _ heq
    simp only [List.cons.injEq] at heq
    have := textEnd_length rest
    simp [heq.2]
    omega

/-! ### Attributes and tags -/

/-- What a scan has read: the result, the problems found, and the text behind it with its offset. -/
structure Scan (α : Type) where
  value : α
  problems : List Problem
  offset : Nat
  rest : List Char

/-- Whether an attribute name ends before this text. -/
def attrNameEnds : List Char → Bool
  | [] => true
  | '/' :: '>' :: _ => true
  | c :: _ => isAsciiBlank c || c == '=' || c == '>' || c == '<'

/-- The characters of an attribute name at the start of a text, with what follows them. -/
def attrName : List Char → List Char × List Char
  | [] => ([], [])
  | c :: cs =>
    if attrNameEnds (c :: cs) then ([], c :: cs)
    else
      let (name, rest) := attrName cs
      (c :: name, rest)

/-- The name of an attribute at the start of a text, with what follows it. A character that cannot
begin a name is a name of its own. -/
def attrHead (cs : List Char) : List Char × List Char :=
  if (attrName cs).1.isEmpty then (cs.take 1, cs.drop 1) else attrName cs

/-- The attribute that begins at `start` and whose value begins at `at_` with the given text. A value
without quotes ends at white space or `>`; a value whose closing quote is missing extends to the
end. -/
def attrValue (lines : Lines) (start : Nat) (name : String) (at_ : Nat) (inner : List Char) :
    Scan Attribute :=
  let unquoted : Scan Attribute :=
    let raw := inner.takeWhile (fun c => !isAsciiBlank c && c != '>')
    let stop := at_ + byteLength raw
    { value := ⟨name, Entity.decode raw, lines.span start stop, some (lines.span at_ stop)⟩
      problems := [], offset := stop
      rest := inner.dropWhile (fun c => !isAsciiBlank c && c != '>') }
  match inner with
  | q :: body =>
    if q == '"' || q == '\'' then
      let raw := body.takeWhile (· != q)
      let valueEnd := at_ + 1 + byteLength raw
      match body.dropWhile (· != q) with
      | _ :: rest =>
        { value := ⟨name, Entity.decode raw, lines.span start (valueEnd + 1),
            some (lines.span (at_ + 1) valueEnd)⟩
          problems := [], offset := valueEnd + 1, rest := rest }
      | [] =>
        { value := ⟨name, Entity.decode raw, lines.span start valueEnd,
            some (lines.span (at_ + 1) valueEnd)⟩
          problems := [⟨lines.span start valueEnd,
            "Unterminated attribute value for \"" ++ name ++ "\"", .error⟩]
          offset := valueEnd, rest := [] }
    else unquoted
  | [] => unquoted

/-- The attribute at the start of a text. -/
def attribute? (lines : Lines) (start : Nat) (cs : List Char) : Scan Attribute :=
  let (name, afterName) := attrHead cs
  let nameEnd := start + byteLength name
  match afterName.dropWhile isAsciiBlank with
  | '=' :: afterEq =>
    attrValue lines start (String.ofList name)
      (nameEnd + byteLength (afterName.takeWhile isAsciiBlank) + 1 +
        byteLength (afterEq.takeWhile isAsciiBlank))
      (afterEq.dropWhile isAsciiBlank)
  | _ =>
    { value := ⟨String.ofList name, "", lines.span start nameEnd, none⟩
      problems := [], offset := nameEnd, rest := afterName }

theorem dropWhile_length (p : Char → Bool) (cs : List Char) :
    (cs.dropWhile p).length ≤ cs.length :=
  (List.dropWhile_suffix p).length_le

theorem attrName_length (cs : List Char) :
    (attrName cs).1.length + (attrName cs).2.length = cs.length := by
  induction cs with
  | nil => simp [attrName]
  | cons c cs ih =>
    simp only [attrName]
    split
    · simp
    · simp only [List.length_cons]
      omega

theorem attrHead_length (c : Char) (cs : List Char) :
    (attrHead (c :: cs)).2.length < (c :: cs).length := by
  have hlen := attrName_length (c :: cs)
  rw [attrHead]
  split
  · simp
  · rename_i hne
    have := List.length_pos_iff.2 (mt List.isEmpty_iff.2 hne)
    omega

theorem attrValue_length (lines : Lines) (start : Nat) (name : String) (at_ : Nat)
    (inner : List Char) : (attrValue lines start name at_ inner).rest.length ≤ inner.length := by
  have hunquoted := dropWhile_length (fun c => !isAsciiBlank c && c != '>') inner
  unfold attrValue
  dsimp only
  split
  · rename_i q body
    split
    · have hb := dropWhile_length (· != q) body
      split
      · rename_i rest hr
        simp only [hr, List.length_cons] at hb ⊢
        omega
      · simp
    · exact hunquoted
  · exact hunquoted

/-- An attribute takes at least one character. -/
theorem attribute?_length (lines : Lines) (start : Nat) (c : Char) (cs : List Char) :
    (attribute? lines start (c :: cs)).rest.length < (c :: cs).length := by
  have hlt := attrHead_length c cs
  unfold attribute?
  rcases hpair : attrHead (c :: cs) with ⟨name, afterName⟩
  rw [hpair] at hlt
  have hd := dropWhile_length isAsciiBlank afterName
  dsimp only
  split
  · rename_i afterEq heq
    simp only [heq, List.length_cons] at hd
    have hi := dropWhile_length isAsciiBlank afterEq
    have hv := attrValue_length lines start (String.ofList name)
      (start + byteLength name + byteLength (afterName.takeWhile isAsciiBlank) + 1 +
        byteLength (afterEq.takeWhile isAsciiBlank)) (afterEq.dropWhile isAsciiBlank)
    simp only [List.length_cons] at hlt ⊢
    omega
  · exact hlt

/-- How a start tag ends. -/
inductive TagEnd
  | open
  | selfClosing
  | missing
  deriving DecidableEq

/-- The attributes of a start tag, up to and with its end. -/
def attributes (lines : Lines) (offset : Nat) (cs : List Char) :
    Scan (List Attribute × TagEnd) :=
  match _h : cs.dropWhile isAsciiBlank with
  | [] => ⟨([], .missing), [], offset + byteLength (cs.takeWhile isAsciiBlank), []⟩
  | c :: rest =>
    let here := offset + byteLength (cs.takeWhile isAsciiBlank)
    if c == '>' then ⟨([], .open), [], here + 1, rest⟩
    else if c == '/' then
      if rest.head? == some '>' then ⟨([], .selfClosing), [], here + 2, rest.tail⟩
      else attributes lines (here + 1) rest
    else if c == '<' then ⟨([], .missing), [], here, c :: rest⟩
    else
      let a := attribute? lines here (c :: rest)
      let more := attributes lines a.offset a.rest
      ⟨(a.value :: more.value.1, more.value.2), a.problems ++ more.problems, more.offset,
        more.rest⟩
termination_by cs.length
decreasing_by
  · have := dropWhile_length isAsciiBlank cs
    simp only [_h, List.length_cons] at this
    omega
  · have := dropWhile_length isAsciiBlank cs
    have := attribute?_length lines (offset + byteLength (cs.takeWhile isAsciiBlank)) c rest
    simp only [_h] at *
    omega

theorem attributes_length (lines : Lines) (offset : Nat) (cs : List Char) :
    (attributes lines offset cs).rest.length ≤ cs.length := by
  induction hn : cs.length using Nat.strongRecOn generalizing offset cs with
  | _ n ih =>
    subst hn
    have hd := dropWhile_length isAsciiBlank cs
    rw [attributes]
    split
    · simp
    · rename_i c rest h
      simp only [h, List.length_cons] at hd
      dsimp only
      split
      · simp; omega
      · split
        · split
          · simp; omega
          · have := ih rest.length (by omega) (offset + byteLength (cs.takeWhile isAsciiBlank) + 1)
              rest rfl
            omega
        · split
          · simp; omega
          · have ha := attribute?_length lines
              (offset + byteLength (cs.takeWhile isAsciiBlank)) c rest
            simp only [List.length_cons] at ha
            have := fun o => ih (attribute? lines (offset + byteLength (cs.takeWhile isAsciiBlank))
              (c :: rest)).rest.length (by omega) o _ rfl
            exact Nat.le_trans (this _) (by omega)

/-- Whether a text begins with `</` and the given name, in any case of its ASCII letters. -/
def atEndTag (name : List Char) (cs : List Char) : Bool :=
  match cs with
  | '<' :: '/' :: rest => (rest.take name.length).map Char.toLower == name.map Char.toLower
  | _ => false

/-- The content before the first end tag of the given name, with the text from the end tag on. -/
def rawContent (name : List Char) : List Char → List Char × List Char
  | [] => ([], [])
  | c :: cs =>
    if atEndTag name (c :: cs) then ([], c :: cs)
    else
      let (content, rest) := rawContent name cs
      (c :: content, rest)

/-- A text up to and with the first `>`, with what follows; everything when there is none. -/
def throughBracket (cs : List Char) : List Char × List Char :=
  match cs.dropWhile (· != '>') with
  | c :: rest => (cs.takeWhile (· != '>') ++ [c], rest)
  | [] => (cs, [])

theorem rawContent_length (name cs : List Char) : (rawContent name cs).2.length ≤ cs.length := by
  induction cs with
  | nil => simp [rawContent]
  | cons c cs ih =>
    simp only [rawContent]
    split
    · simp
    · simp only [List.length_cons]
      omega

theorem throughBracket_length (cs : List Char) :
    (throughBracket cs).2.length ≤ cs.length := by
  unfold throughBracket
  have := dropWhile_length (· != '>') cs
  split
  · rename_i h
    simp only [h, List.length_cons] at this
    simp only
    omega
  · simp

/-- The raw content of an element up to the end of its end tag. -/
def rawText (lines : Lines) (kind : Tag.Content) (name : List Char) (offset : Nat)
    (cs : List Char) : Scan Raw :=
  let (content, fromEnd) := rawContent name cs
  let stop := offset + byteLength content
  let value := if kind = .escapableRawText then Entity.decode content else String.ofList content
  match fromEnd with
  | [] => ⟨⟨value, lines.span offset stop, none⟩, [], stop, []⟩
  | _ :: _ =>
    let (tag, rest) := throughBracket fromEnd
    let tagEnd := stop + byteLength tag
    ⟨⟨value, lines.span offset stop, some (lines.span stop tagEnd)⟩, [], tagEnd, rest⟩

theorem rawText_length (lines : Lines) (kind : Tag.Content) (name : List Char) (offset : Nat)
    (cs : List Char) : (rawText lines kind name offset cs).rest.length ≤ cs.length := by
  have h := rawContent_length name cs
  unfold rawText
  split
  rename_i content fromEnd heq
  simp only [heq] at h
  dsimp only
  split
  · simp
  · rename_i c r
    have := throughBracket_length (c :: r)
    simp only
    omega

/-! ### Lexemes -/

/-- The comment whose opening mark begins at `start` and is followed by `body`. -/
def commentToken (lines : Lines) (start : Nat) (body : List Char) : Scan Simple :=
  match splitAtLiteral ['-', '-', '>'] body with
  | some (value, rest) =>
    let stop := start + 4 + byteLength value + 3
    ⟨.comment (String.ofList (trim value)) (lines.span start stop), [], stop, rest⟩
  | none =>
    let stop := start + 4 + byteLength body
    ⟨.comment (String.ofList (trim body)) (lines.span start stop),
      [⟨lines.span start stop, "Unexpected character \"EOF\" in comment", .error⟩], stop, []⟩

/-- The end tag whose mark `</` begins at `start` and is followed by `body`. -/
def endTagToken (lines : Lines) (start : Nat) (body : List Char) : Scan Simple :=
  let name := String.ofList (body.takeWhile isTagNameChar)
  let (tag, rest) := throughBracket body
  let stop := start + 2 + byteLength tag
  let span := lines.span start stop
  let problems : List Problem :=
    if tag.getLast? == some '>' then []
    else [⟨span, "Unterminated end tag \"" ++ name ++ "\"", .error⟩]
  ⟨.endTag name span, problems, stop, rest⟩

/-- The start tag whose `<` stands at `start` and is followed by `body`, together with the raw text
of its element. -/
def startTagToken (lines : Lines) (start : Nat) (body : List Char) : Scan Simple :=
  let name := body.takeWhile isTagNameChar
  let scan := attributes lines (start + 1 + byteLength name) (body.dropWhile isTagNameChar)
  let span := lines.span start scan.offset
  let problems : List Problem :=
    if scan.value.2 = .missing then
      scan.problems ++
        [⟨span, "Unterminated start tag \"" ++ String.ofList name ++ "\"", .error⟩]
    else scan.problems
  let tag : StartTag :=
    { name := String.ofList name, attrs := scan.value.1
      selfClosing := scan.value.2 = .selfClosing, span := span }
  let short := Tag.localName tag.name
  let kind := Tag.content short
  if tag.selfClosing || Tag.isVoid short || kind = .parsed then
    ⟨.startTag tag, problems, scan.offset, scan.rest⟩
  else
    let raw := rawText lines kind short.toList scan.offset scan.rest
    ⟨.startTag { tag with raw := some raw.value }, problems, raw.offset, raw.rest⟩

/-- The text at the start of `cs`. -/
def textToken (lines : Lines) (start : Nat) (cs : List Char) : Scan Simple :=
  let rest := afterText cs
  let raw := cs.take (cs.length - rest.length)
  let stop := start + byteLength raw
  ⟨.text (Entity.decode raw) (lines.span start stop), [], stop, rest⟩

/-- The content before the brace that closes an open one, with what follows the brace. -/
def untilBrace (depth : Nat) : List Char → Option (List Char × List Char)
  | [] => none
  | c :: cs =>
    if c == '\x7d' && depth == 0 then some ([], cs)
    else
      let depth := if c == '\x7b' then depth + 1 else if c == '\x7d' then depth - 1 else depth
      (untilBrace depth cs).map fun (a, b) => (c :: a, b)

theorem untilBrace_length {depth : Nat} {cs a b : List Char}
    (h : untilBrace depth cs = some (a, b)) : a.length + 1 + b.length = cs.length := by
  induction cs generalizing depth a b with
  | nil => simp [untilBrace] at h
  | cons c cs ih =>
    simp only [untilBrace] at h
    split at h
    · simp only [Option.some.injEq, Prod.mk.injEq] at h
      simp [← h.1, ← h.2]
      omega
    · obtain ⟨⟨a', b'⟩, hs, hab⟩ := Option.map_eq_some_iff.1 h
      simp only [Prod.mk.injEq] at hab
      have := ih hs
      simp [← hab.1, ← hab.2]
      omega

/-- A character of the value of a case. -/
def isCaseChar (c : Char) : Bool := !isAsciiBlank c && c != '\x7b' && c != '\x7d'

/-- The value of a case, the white space behind it, and the text behind the opening brace of its
content. -/
def caseHead (cs : List Char) : Option (List Char × List Char × List Char) :=
  if (cs.takeWhile isCaseChar).isEmpty then none
  else
    match (cs.dropWhile isCaseChar).dropWhile isAsciiBlank with
    | '\x7b' :: inner =>
      some (cs.takeWhile isCaseChar, (cs.dropWhile isCaseChar).takeWhile isAsciiBlank, inner)
    | _ => none

theorem caseHead_length {cs value gap inner : List Char}
    (h : caseHead cs = some (value, gap, inner)) : inner.length < cs.length := by
  have h1 := dropWhile_length isCaseChar cs
  have h2 := dropWhile_length isAsciiBlank (cs.dropWhile isCaseChar)
  unfold caseHead at h
  split at h
  · simp at h
  · split at h
    · rename_i heq
      simp only [heq, List.length_cons] at h2
      simp only [Option.some.injEq, Prod.mk.injEq] at h
      rw [← h.2.2]
      omega
    · simp at h

/-- The cases of an expansion up to its closing brace, with the offset of the text behind it. -/
def openCases (lines : Lines) (offset : Nat) (cs : List Char) :
    Option (List OpenCase × Nat × List Char) :=
  let here := offset + byteLength (cs.takeWhile isAsciiBlank)
  match cs.dropWhile isAsciiBlank with
  | '\x7d' :: rest => some ([], here + 1, rest)
  | _ =>
    match _h : caseHead (cs.dropWhile isAsciiBlank) with
    | none => none
    | some (value, gap, inner) =>
      match _hb : untilBrace 0 inner with
      | none => none
      | some (content, rest) =>
        let contentStart := here + byteLength value + byteLength gap + 1
        let stop := contentStart + byteLength content + 1
        (openCases lines stop rest).map fun (more, final) =>
          (⟨String.ofList value, contentStart, content, lines.span here stop⟩ :: more, final)
termination_by cs.length
decreasing_by
  have h1 := untilBrace_length _hb
  have h2 := dropWhile_length isAsciiBlank cs
  have h3 := caseHead_length _h
  omega

/-- The expansion whose opening brace stands at `start` and is followed by `body`. A text that does
not have the shape of an expansion is none. -/
def openExpansion (lines : Lines) (start : Nat) (body : List Char) :
    Option (OpenExpansion × Nat × List Char) :=
  match splitOnce ',' body with
  | none => none
  | some (switch, afterSwitch) =>
    let name := trim switch
    if name.isEmpty || name.any (fun c => c == '\x7b' || c == '\x7d') then none
    else
      match splitOnce ',' afterSwitch with
      | none => none
      | some (kind, afterKind) =>
        let kindName := trim kind
        if kindName.isEmpty || !kindName.all (fun c => c.isAlphanum || c == '_') then none
        else
          match openCases lines (start + byteLength switch + byteLength kind + 3) afterKind with
          | none => none
          | some (cases, stop, rest) =>
            if cases.isEmpty then none
            else
              some (⟨String.ofList name, String.ofList kindName, cases, lines.span start stop⟩,
                stop, rest)

/-- A simple piece of markup at the start of a text that is not empty. -/
def simpleLexeme (lines : Lines) (start : Nat) (cs : List Char) : Scan Simple :=
  match cs with
  | '<' :: '!' :: '-' :: '-' :: body => commentToken lines start body
  | '<' :: '/' :: body =>
    if nameStarts body then endTagToken lines start body else textToken lines start cs
  | '<' :: body =>
    if nameStarts body then startTagToken lines start body else textToken lines start cs
  | _ => textToken lines start cs

/-- An expansion at the start of a text. -/
def expansionLexeme (lines : Lines) (start : Nat) (cs : List Char) :
    Option (OpenExpansion × Nat × List Char) :=
  match cs with
  | '\x7b' :: '\x7b' :: _ => none
  | '\x7b' :: body => openExpansion lines start body
  | _ => none

/-! ### Every lexeme takes at least one character -/

theorem splitOnce_length {sep : Char} {cs a b : List Char}
    (h : splitOnce sep cs = some (a, b)) : a.length + 1 + b.length = cs.length := by
  induction cs generalizing a b with
  | nil => simp [splitOnce] at h
  | cons c cs ih =>
    simp only [splitOnce] at h
    split at h
    · simp only [Option.some.injEq, Prod.mk.injEq] at h
      simp [← h.1, ← h.2]
      omega
    · obtain ⟨⟨a', b'⟩, hs, hab⟩ := Option.map_eq_some_iff.1 h
      simp only [Prod.mk.injEq] at hab
      have := ih hs
      simp [← hab.1, ← hab.2]
      omega

theorem commentToken_length (lines : Lines) (start : Nat) (body : List Char) :
    (commentToken lines start body).rest.length ≤ body.length := by
  unfold commentToken
  split
  · rename_i h
    have := splitAtLiteral_length h
    simp only
    omega
  · simp

theorem startTagToken_length (lines : Lines) (start : Nat) (body : List Char) :
    (startTagToken lines start body).rest.length ≤ body.length := by
  have h1 := dropWhile_length isTagNameChar body
  have h2 := attributes_length lines (start + 1 + byteLength (body.takeWhile isTagNameChar))
    (body.dropWhile isTagNameChar)
  simp only [startTagToken]
  split
  · simp only
    omega
  · have h3 := fun kind name offset => rawText_length lines kind name offset
      (attributes lines (start + 1 + byteLength (body.takeWhile isTagNameChar))
        (body.dropWhile isTagNameChar)).rest
    exact Nat.le_trans (h3 _ _ _) (Nat.le_trans h2 h1)

theorem textToken_length (lines : Lines) (start : Nat) (c : Char) (cs : List Char) :
    (textToken lines start (c :: cs)).rest.length < (c :: cs).length :=
  afterText_length c cs

theorem simpleLexeme_length (lines : Lines) (start : Nat) (c : Char) (cs : List Char) :
    (simpleLexeme lines start (c :: cs)).rest.length < (c :: cs).length := by
  unfold simpleLexeme
  split
  · rename_i body h
    have := commentToken_length lines start body
    simp [h]
    omega
  · rename_i body h
    split
    · have := throughBracket_length body
      simp only [endTagToken, h, List.length_cons]
      omega
    · exact textToken_length lines start c cs
  · rename_i body _ _ h
    split
    · have := startTagToken_length lines start body
      simp [h]
      omega
    · exact textToken_length lines start c cs
  · exact textToken_length lines start c cs

theorem openCases_length {lines : Lines} {offset : Nat} {cs : List Char}
    {cases : List OpenCase} {stop : Nat} {rest : List Char}
    (h : openCases lines offset cs = some (cases, stop, rest)) :
    rest.length < cs.length ∧ ∀ c ∈ cases, c.content.length < cs.length := by
  induction hn : cs.length using Nat.strongRecOn generalizing offset cs cases stop rest with
  | _ n ih =>
    subst hn
    have h2 := dropWhile_length isAsciiBlank cs
    unfold openCases at h
    dsimp only at h
    split at h
    · rename_i r hr
      simp only [hr, List.length_cons] at h2
      simp only [Option.some.injEq, Prod.mk.injEq] at h
      simp [← h.1, ← h.2.2]
      omega
    · split at h
      · simp at h
      · rename_i value gap inner hc
        have h3 := caseHead_length hc
        split at h
        · simp at h
        · rename_i content rest' hb
          have h1 := untilBrace_length hb
          obtain ⟨⟨more, final⟩, hm, hr⟩ := Option.map_eq_some_iff.1 h
          have := ih rest'.length (by omega) hm rfl
          simp only [Prod.mk.injEq] at hr
          obtain ⟨hcases, rfl⟩ := hr
          have hrest := this.1
          simp only at hrest
          refine ⟨by omega, ?_⟩
          intro x hx
          rw [← hcases] at hx
          rcases List.mem_cons.1 hx with rfl | hx
          · simp only
            omega
          · have := this.2 x hx
            omega

theorem expansionLexeme_length {lines : Lines} {start : Nat} {cs : List Char}
    {e : OpenExpansion} {stop : Nat} {rest : List Char}
    (h : expansionLexeme lines start cs = some (e, stop, rest)) :
    rest.length < cs.length ∧ ∀ c ∈ e.cases, c.content.length < cs.length := by
  unfold expansionLexeme at h
  split at h
  · simp at h
  · rename_i body _
    unfold openExpansion at h
    split at h
    · simp at h
    · rename_i switch afterSwitch hs
      have h1 := splitOnce_length hs
      dsimp only at h
      split at h
      · simp at h
      · split at h
        · simp at h
        · rename_i kind afterKind hk
          have h2 := splitOnce_length hk
          split at h
          · simp at h
          · split at h
            · simp at h
            · rename_i cases stop' rest' hc
              have := openCases_length hc
              split at h
              · simp at h
              · simp only [Option.some.injEq, Prod.mk.injEq] at h
                obtain ⟨he, _, hr⟩ := h
                subst he hr
                simp only [List.length_cons]
                refine ⟨by omega, ?_⟩
                intro x hx
                have := this.2 x hx
                omega
  · simp at h

/-! ### All tokens -/

/-- All tokens of a text that begins at a byte offset. -/
def tokens (lines : Lines) (start : Nat) (cs : List Char) : List Token :=
  match cs with
  | [] => []
  | c :: rest =>
    match h : expansionLexeme lines start (c :: rest) with
    | some (e, stop, after) =>
      .expansion e.switch e.kind
          (e.cases.attach.map fun ⟨k, hk⟩ =>
            have := (expansionLexeme_length h).2 k hk
            .mk k.value (tokens lines k.contentStart k.content) k.span) e.span ::
        tokens lines stop after
    | none =>
      let scan := simpleLexeme lines start (c :: rest)
      .simple scan.problems scan.value :: tokens lines scan.offset scan.rest
termination_by cs.length
decreasing_by
  · exact this
  · exact (expansionLexeme_length h).1
  · exact simpleLexeme_length lines start c rest

end ComponentAtlas.Markup
