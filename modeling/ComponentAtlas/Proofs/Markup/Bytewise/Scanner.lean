import ComponentAtlas.Markup.Tree
import ComponentAtlas.Proofs.Source.Bytes

/-!
# A scanner over bytes

This scanner reads the bytes of a source one by one and cuts texts out of it at byte offsets. It has no
result where a cut is out of order, outside the source or inside a character, where a window extends
beyond the source, and where the steps that it is given do not suffice.

* `attribute?`, `startTag?`, `endTag?`, `comment?`, `text?`: the simple pieces of markup;
* `tokensFrom`, `expansionFrom`, `casesFrom`: tokens and expansions. The content of a case is read in a
  window of its own, before it is known whether the text around it is an expansion at all;
* `document?`: the tree of a source.
-/

namespace ComponentAtlas.Markup.Bytewise

open ComponentAtlas.Text ComponentAtlas.Source ComponentAtlas.Template

/-- What a scan has found: the result, the problems and the offset behind it. -/
structure Found (α : Type) where
  value : α
  problems : List Problem
  offset : ℕ

/-- The lines of the source of a window. -/
def lines (w : Window) : Lines := Lines.ofText w.source

/-! ### Searches -/

/-- The first offset of a character in the window. -/
def find? (w : Window) (c : Char) (at_ : ℕ) : Option ℕ :=
  if w.seek (· == c) at_ < w.stop then some (w.seek (· == c) at_) else none

/-- The first offset of a literal in the text up to the end of the window. -/
def findLiteral? (w : Window) (lit : List Char) (at_ : ℕ) : Option (Option ℕ) :=
  if w.stop ≤ at_ then some none
  else do
    let text ← w.slice? at_ w.stop
    return (splitAtLiteral lit text).map fun (before, _) => at_ + byteLength before

/-- Whether a name begins at an offset. -/
def nameStartsAt (w : Window) (at_ : ℕ) : Bool := w.test isNameStart at_

/-- The name of a tag with the offset behind it. -/
def name? (w : Window) (start : ℕ) : Option (List Char × ℕ) := do
  let stop := w.seek (fun c => !isTagNameChar c) start
  let name ← w.slice? start stop
  return (name, stop)

/-! ### Attributes and tags -/

/-- Whether an attribute name ends at an offset. -/
def attrNameEndsAt (w : Window) (at_ : ℕ) : Bool :=
  w.test (fun c => isAsciiBlank c || c == '=' || c == '>' || c == '<') at_ ||
    (w.test (· == '/') at_ && w.test (· == '>') (at_ + 1))

/-- The name of an attribute with the offset behind it. -/
def attrName? (w : Window) (start : ℕ) : Option (List Char × ℕ) := do
  let stop := w.seekWhere (attrNameEndsAt w) start
  let stop := if stop = start then start + 1 else stop
  let name ← w.slice? start stop
  return (name, stop)

/-- The attribute that begins at `start` and whose value stands in quotes from `at_` on. -/
def quoted? (w : Window) (start : ℕ) (name : String) (quote : Char) (at_ : ℕ) : Option (Found Attribute) :=
  match find? w quote (at_ + 1) with
  | some close => do
    let raw ← w.slice? (at_ + 1) close
    return { value := ⟨name, Entity.decode raw, (lines w).span start (close + 1),
               some ((lines w).span (at_ + 1) close)⟩
             problems := [], offset := close + 1 }
  | none => do
    let raw ← w.slice? (at_ + 1) w.stop
    return { value := ⟨name, Entity.decode raw, (lines w).span start w.stop,
               some ((lines w).span (at_ + 1) w.stop)⟩
             problems := [⟨(lines w).span start w.stop,
               "Unterminated attribute value for \"" ++ name ++ "\"", .error⟩]
             offset := w.stop }

/-- The attribute that begins at `start` and whose value begins at `at_`. -/
def attrValue? (w : Window) (start : ℕ) (name : String) (at_ : ℕ) : Option (Found Attribute) :=
  if w.test (· == '"') at_ then quoted? w start name '"' at_
  else if w.test (· == '\'') at_ then quoted? w start name '\'' at_
  else do
    let stop := w.seek (fun c => isAsciiBlank c || c == '>') at_
    let raw ← w.slice? at_ stop
    return { value := ⟨name, Entity.decode raw, (lines w).span start stop, some ((lines w).span at_ stop)⟩
             problems := [], offset := stop }

/-- The attribute at an offset. -/
def attribute? (w : Window) (start : ℕ) : Option (Found Attribute) := do
  let (name, nameEnd) ← attrName? w start
  let at_ := w.skip isAsciiBlank nameEnd
  if w.test (· == '=') at_ then attrValue? w start (String.ofList name) (w.skip isAsciiBlank (at_ + 1))
  else
    return { value := ⟨String.ofList name, "", (lines w).span start nameEnd, none⟩
             problems := [], offset := nameEnd }

/-- The attributes of a start tag, up to and with its end, in a bounded number of steps. -/
def attributesFrom (w : Window) : ℕ → ℕ → Option (Found (List Attribute × TagEnd))
  | 0, _ => none
  | fuel + 1, start =>
    let here := w.skip isAsciiBlank start
    if w.test (· == '>') here then some ⟨([], .open), [], here + 1⟩
    else if w.test (· == '/') here then
      if w.test (· == '>') (here + 1) then some ⟨([], .selfClosing), [], here + 2⟩
      else attributesFrom w fuel (here + 1)
    else if w.stop ≤ here || w.test (· == '<') here then some ⟨([], .missing), [], here⟩
    else do
      let a ← attribute? w here
      let more ← attributesFrom w fuel a.offset
      return ⟨(a.value :: more.value.1, more.value.2), a.problems ++ more.problems, more.offset⟩

/-- Whether a name stands at an offset, in any case of its ASCII letters. -/
def matchesAt (w : Window) : List Char → ℕ → Bool
  | [], _ => true
  | c :: cs, at_ => w.test (fun d => d.toLower == c.toLower) at_ && matchesAt w cs (at_ + 1)

/-- The raw content of an element up to the end of its end tag. -/
def rawText? (w : Window) (kind : Tag.Content) (name : List Char) (start : ℕ) : Option (Found Raw) := do
  let stop := w.seekWhere (fun i => w.startsWith ['<', '/'] i && matchesAt w name (i + 2)) start
  let content ← w.slice? start stop
  let value := if kind = .escapableRawText then Entity.decode content else String.ofList content
  if stop < w.stop then
    let tagEnd := ((find? w '>' stop).map (· + 1)).getD w.stop
    return ⟨⟨value, (lines w).span start stop, some ((lines w).span stop tagEnd)⟩, [], tagEnd⟩
  else return ⟨⟨value, (lines w).span start stop, none⟩, [], stop⟩

/-! ### Simple tokens -/

/-- The comment whose opening mark stands at `start`. -/
def comment? (w : Window) (start : ℕ) : Option (Found Simple) := do
  match ← findLiteral? w ['-', '-', '>'] (start + 4) with
  | some valueEnd =>
    let value ← w.slice? (min (start + 4) valueEnd) valueEnd
    return ⟨.comment (String.ofList (trim value)) ((lines w).span start (valueEnd + 3)), [], valueEnd + 3⟩
  | none =>
    let value ← w.slice? (min (start + 4) w.stop) w.stop
    return ⟨.comment (String.ofList (trim value)) ((lines w).span start w.stop),
      [⟨(lines w).span start w.stop, "Unexpected character \"EOF\" in comment", .error⟩], w.stop⟩

/-- The end tag whose mark stands at `start`. -/
def endTag? (w : Window) (start : ℕ) : Option (Found Simple) := do
  let (name, nameEnd) ← name? w (start + 2)
  match find? w '>' (w.skip isAsciiBlank nameEnd) with
  | some bracket =>
    return ⟨.endTag (String.ofList name) ((lines w).span start (bracket + 1)), [], bracket + 1⟩
  | none =>
    let span := (lines w).span start w.stop
    return ⟨.endTag (String.ofList name) span,
      [⟨span, "Unterminated end tag \"" ++ String.ofList name ++ "\"", .error⟩], w.stop⟩

/-- The start tag at `start`, together with the raw text of its element. -/
def startTag? (w : Window) (start : ℕ) : Option (Found Simple) := do
  let (name, nameEnd) ← name? w (start + 1)
  let scan ← attributesFrom w (w.stop - nameEnd + 1) nameEnd
  let span := (lines w).span start scan.offset
  let problems : List Problem :=
    if scan.value.2 = .missing then
      scan.problems ++ [⟨span, "Unterminated start tag \"" ++ String.ofList name ++ "\"", .error⟩]
    else scan.problems
  let tag : StartTag :=
    { name := String.ofList name, attrs := scan.value.1
      selfClosing := scan.value.2 = .selfClosing, span := span }
  let short := Tag.localName tag.name
  let kind := Tag.content short
  if tag.selfClosing || Tag.isVoid short || kind = .parsed then
    return ⟨.startTag tag, problems, scan.offset⟩
  else
    let raw ← rawText? w kind short.toList scan.offset
    return ⟨.startTag { tag with raw := some raw.value }, problems, raw.offset⟩

/-- Whether markup begins at an offset inside a text. -/
def atMarkupAt (w : Window) (at_ : ℕ) : Bool :=
  (w.test (· == '<') at_ &&
      (w.startsWith ['<', '!', '-', '-'] at_ || nameStartsAt w (at_ + 1) ||
        (w.test (· == '/') (at_ + 1) && nameStartsAt w (at_ + 2)))) ||
    w.test (· == '\x7b') at_

/-- The end of the text that begins at `start` and is read up to an offset, in a bounded number of
steps. -/
def textEndFrom (w : Window) (start : ℕ) : ℕ → ℕ → Option ℕ
  | 0, _ => none
  | fuel + 1, at_ =>
    if at_ < w.stop then
      if w.startsWith ['\x7b', '\x7b'] at_ then do
        let close ← findLiteral? w ['\x7d', '\x7d'] (at_ + 2)
        textEndFrom w start fuel ((close.map (· + 2)).getD w.stop)
      else if start < at_ && atMarkupAt w at_ then some at_
      else textEndFrom w start fuel (at_ + 1)
    else some at_

/-- The first offset from the given one on at which the source can be cut. -/
def roundUp (w : Window) : ℕ → ℕ → Option ℕ
  | 0, _ => none
  | fuel + 1, at_ => if (dropBytes? at_ w.source).isSome then some at_ else roundUp w fuel (at_ + 1)

/-- The text at an offset. -/
def text? (w : Window) (start : ℕ) : Option (Found Simple) := do
  let textEnd ← textEndFrom w start (w.stop - start + 1) start
  let stop ← roundUp w (w.stop - textEnd + 1) textEnd
  let raw ← w.slice? start stop
  return ⟨.text (Entity.decode raw) ((lines w).span start stop), [], stop⟩

/-- A simple piece of markup at an offset before the end of the window. -/
def simple? (w : Window) (start : ℕ) : Option (Found Simple) :=
  if w.startsWith ['<', '!', '-', '-'] start then comment? w start
  else if w.startsWith ['<', '/'] start && nameStartsAt w (start + 2) then endTag? w start
  else if w.test (· == '<') start && nameStartsAt w (start + 1) then startTag? w start
  else text? w start

/-! ### Expansions -/

/-- The offset of the brace that closes an open one. -/
def matchingFrom (w : Window) : ℕ → ℕ → ℕ → Option ℕ
  | 0, _, _ => none
  | n + 1, depth, at_ =>
    if w.test (· == '\x7b') at_ then matchingFrom w n (depth + 1) (at_ + 1)
    else if w.test (· == '\x7d') at_ then
      if depth - 1 = 0 then some at_ else matchingFrom w n (depth - 1) (at_ + 1)
    else matchingFrom w n depth (at_ + 1)

/-- The switch and the kind of an expansion whose opening brace stands at `start`, with the offset
behind them. The inner none is for a text that is no expansion. -/
def expansionHead? (w : Window) (start : ℕ) : Option (Option (String × String × ℕ)) :=
  match find? w ',' (start + 1) with
  | none => some none
  | some switchEnd => do
    let switch ← w.slice? (start + 1) switchEnd
    let name := trim switch
    if name.isEmpty || name.any (fun c => c == '\x7b' || c == '\x7d') then return none
    else
      match find? w ',' (switchEnd + 1) with
      | none => return none
      | some kindEnd =>
        let kind ← w.slice? (switchEnd + 1) kindEnd
        let kindName := trim kind
        if kindName.isEmpty || !kindName.all (fun c => c.isAlphanum || c == '_') then return none
        else return some (String.ofList name, String.ofList kindName, kindEnd + 1)

/-- The value of a case and the offset behind the brace that opens its content. The inner none is for
a text that is no case. -/
def caseHead? (w : Window) (here : ℕ) : Option (Option (List Char × ℕ)) :=
  let valueEnd := w.seek (fun c => !isCaseChar c) here
  if valueEnd = here then some none
  else do
    let value ← w.slice? here valueEnd
    let brace := w.skip isAsciiBlank valueEnd
    if w.test (· == '\x7b') brace then return some (value, brace + 1) else return none

mutual

/-- All tokens from an offset to the end of the window, in a bounded number of steps. A window that
extends beyond the source fails. -/
def tokensFrom (w : Window) : ℕ → ℕ → Option (List Token)
  | 0, _ => none
  | fuel + 1, start =>
    if (utf8 w.source).length < w.stop then none
    else if start < w.stop then do
      match ← expansionFrom w fuel start with
      | some (token, stop) =>
        let more ← tokensFrom w fuel stop
        return token :: more
      | none =>
        let s ← simple? w start
        let more ← tokensFrom w fuel s.offset
        return .simple s.problems s.value :: more
    else some []

/-- The expansion at an offset. The inner none is for a text that is no expansion. -/
def expansionFrom (w : Window) : ℕ → ℕ → Option (Option (Token × ℕ))
  | 0, _ => none
  | fuel + 1, start =>
    if w.test (· == '\x7b') start && !w.test (· == '\x7b') (start + 1) then do
      match ← expansionHead? w start with
      | none => return none
      | some (switch, kind, behind) =>
        match ← casesFrom w fuel behind with
        | none => return none
        | some (cases, stop) =>
          if cases.isEmpty then return none
          else return some (.expansion switch kind cases ((lines w).span start stop), stop)
    else return none

/-- The cases of an expansion up to its closing brace, with the offset behind it. The content of a
case is read before it is known whether more cases follow. -/
def casesFrom (w : Window) : ℕ → ℕ → Option (Option (List TokenCase × ℕ))
  | 0, _ => none
  | fuel + 1, start => do
    let here := w.skip isAsciiBlank start
    if w.test (· == '\x7d') here then return some ([], here + 1)
    else
      match ← caseHead? w here with
      | none => return none
      | some (value, contentStart) =>
        match matchingFrom w (w.stop - contentStart) 1 contentStart with
        | none => return none
        | some contentEnd =>
          let content ← tokensFrom { w with stop := contentEnd } fuel contentStart
          match ← casesFrom w fuel (contentEnd + 1) with
          | none => return none
          | some (more, stop) =>
            let span := (lines w).span here (contentEnd + 1)
            return some (.mk (String.ofList value) content span :: more, stop)

end

/-- The tree of a source. -/
def document? (source : String) : Option Document := do
  let w : Window := ⟨source.toList, source.utf8ByteSize⟩
  let tokens ← tokensFrom w (source.utf8ByteSize + 1) 0
  return (Builder.addTokens (lines w) {} tokens).finish ((lines w).locate w.stop)

end ComponentAtlas.Markup.Bytewise
