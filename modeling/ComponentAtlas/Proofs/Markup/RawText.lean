import ComponentAtlas.Proofs.Markup.ReadBack

/-!
# Raw text goes up to its end tag

The content of a script, a style sheet, a text area or a title is not cut into tokens. It ends where
`</` and the name of the element begin, whatever stands behind the name.

* `StopsAt`: a text is cut at the first place with a property; `rawContent_stops`: where raw text ends;
* `atOwnEndTag`: an end tag whose name is not the beginning of a longer one;
* `tokens_raw_closed`, `tokens_raw_unclosed`: an element with raw text is one token;
* `Builder.addTokens_spelled_endTag`, `Builder.finish_spelled`: it becomes the node that its start tag, one
  text and its end tag would become, or its start tag and the text at the end of the source;
* `Builder.readsRaw`: the content of such an element, and how what stands behind it is read.
-/

namespace ComponentAtlas.Markup

open ComponentAtlas.Text ComponentAtlas.Source

variable {source cs content tail body : List Char} {name : String} {lines : Lines} {start : ℕ}
  {tag : StartTag}

/-! ### Where raw text ends -/

/-- A text that is cut at the first place with a property, or at its end if there is none. -/
structure StopsAt (p : List Char → Bool) (cs content tail : List Char) : Prop where
  cut : content ++ tail = cs
  before : ∀ n < content.length, p (cs.drop n) = false
  here : tail = [] ∨ p tail

theorem rawContent_stops (name cs : List Char) :
    StopsAt (atEndTag name) cs (rawContent name cs).1 (rawContent name cs).2 := by
  refine ⟨rawContent_append name cs, ?_, ?_⟩
  · induction cs with
    | nil => exact fun n hn => absurd hn (Nat.not_lt_zero n)
    | cons c cs ih =>
      rw [rawContent]
      split
      · exact fun n hn => absurd hn (Nat.not_lt_zero n)
      · rename_i hhere
        rintro (_ | n) hn
        · exact Bool.eq_false_iff.2 hhere
        · exact ih n (Nat.lt_of_succ_lt_succ hn)
  · induction cs with
    | nil => exact .inl rfl
    | cons c cs ih =>
      rw [rawContent]
      split
      · exact .inr ‹_›
      · exact ih

/-- The end tag of an element of the given name: behind the name stands nothing that would belong to
a longer one. -/
def atOwnEndTag (name cs : List Char) : Bool :=
  atEndTag name cs && (cs.drop (name.length + 2)).head?.all fun c => isAsciiBlank c || c == '/' || c == '>'

/-- Raw text ends at the end tag of its element if that is the first to begin with its name. -/
theorem StopsAt.own_iff {name : List Char} (h : StopsAt (atEndTag name) cs content tail) :
    StopsAt (atOwnEndTag name) cs content tail ↔ tail = [] ∨ atOwnEndTag name tail := by
  refine ⟨fun hown => hown.here, fun hhere => ⟨h.cut, fun n hn => ?_, hhere⟩⟩
  rw [atOwnEndTag, h.before n hn, Bool.false_and]

/-! ### Names -/

/-- Elements with raw text. -/
def Tag.rawNames : List String := ["script", "style", "textarea", "title"]

theorem Tag.content_of_mem (h : asciiLower name ∈ rawNames) :
    Tag.content name =
      if asciiLower name ∈ ["textarea", "title"] then .escapableRawText else .rawText := by
  have hnames : ∀ n ∈ rawNames, (if n == "script" || n == "style" then Content.rawText
      else if n == "textarea" || n == "title" then .escapableRawText else .parsed) =
      if n ∈ ["textarea", "title"] then .escapableRawText else .rawText := by decide
  exact hnames _ h

theorem Tag.isVoid_of_mem (h : asciiLower name ∈ rawNames) : Tag.isVoid name = false := by
  have hnames : ∀ n ∈ rawNames, voidNames.contains n = false := by decide
  exact hnames _ h

theorem Tag.closesWithParent_of_mem (h : asciiLower name ∈ rawNames) :
    Tag.closesWithParent name = false := by
  have hnames : ∀ n ∈ rawNames, omissibleNames.contains n = false := by decide
  exact hnames _ h

theorem Tag.localName_merge {ns : Option String} (hname : name.toList.head? ≠ some ':')
    (hns : ∀ n ∈ ns, ':' ∉ n.toList) : Tag.localName (Tag.merge ns name) = name := by
  cases ns with
  | none => exact Tag.localName_of_head hname
  | some n =>
    by_cases hempty : n = ""
    · simp [Tag.merge, hempty, Tag.localName_of_head hname]
    · have hsplit : splitOnce ':' (n.toList ++ ':' :: name.toList) = some (n.toList, name.toList) :=
        splitOnce_eq_some_iff.2 ⟨rfl, hns n rfl⟩
      simp [Tag.merge, hempty, Tag.localName, Tag.parts?, hsplit]

theorem Tag.colon_notMem_of_namespace? {ns : String} (h : Tag.namespace? name = some ns) :
    ':' ∉ ns.toList := by
  simp only [Tag.namespace?, Tag.parts?, Option.map_eq_some_iff] at h
  obtain ⟨parts, hparts, rfl⟩ := h
  split at hparts
  · obtain ⟨cut, hsplit, rfl⟩ := Option.map_eq_some_iff.1 hparts
    simpa using (splitOnce_eq_some_iff.1 hsplit).2
  · cases hparts

theorem Tag.colon_notMem_of_implicit {ns : String} (h : Tag.implicitNamespace name = some ns) :
    ':' ∉ ns.toList := by
  simp only [Tag.implicitNamespace] at h
  split at h
  · cases h
    decide
  · split at h
    · cases h
      decide
    · cases h

/-- The namespace that an element takes on is not a part of its local name. -/
theorem Builder.localName_fullName (b : Builder) (name : String) :
    Tag.localName (b.fullName name) = Tag.localName name := by
  rw [Builder.fullName]
  split
  · rfl
  · rename_i hhead
    have hname : name.toList.head? ≠ some ':' := by simpa using hhead
    rw [Tag.localName_of_head hname]
    refine Tag.localName_merge hname fun ns hns => ?_
    rcases Option.or_eq_some_iff.1 hns with himplicit | ⟨-, hinherited⟩
    · exact Tag.colon_notMem_of_implicit himplicit
    · split at hinherited
      · split at hinherited
        · cases hinherited
        · exact Tag.colon_notMem_of_namespace? hinherited
      · cases hinherited

/-! ### The token of an element with raw text -/

/-- The local name of the tag whose name begins a text. -/
def shortName (body : List Char) : String := Tag.localName (String.ofList (body.takeWhile isTagNameChar))

/-- What follows the name of the start tag whose `<` stands at `start` and is followed by `body`. -/
def tagScan (lines : Lines) (start : ℕ) (body : List Char) : Scan (List Attribute × TagEnd) :=
  attributes lines (start + 1 + byteLength (body.takeWhile isTagNameChar)) (body.dropWhile isTagNameChar)

/-- A start tag that opens its element. -/
def openingTag (lines : Lines) (start : ℕ) (body : List Char) : StartTag :=
  { name := String.ofList (body.takeWhile isTagNameChar), attrs := (tagScan lines start body).value.1
    selfClosing := false, span := lines.span start (tagScan lines start body).offset }

/-- The start tag of an element with raw text, ended by `>`. -/
structure OpensRaw (lines : Lines) (start : ℕ) (body : List Char) : Prop where
  starts : nameStarts body
  name : asciiLower (shortName body) ∈ Tag.rawNames
  ends : (tagScan lines start body).value.2 = .open

/-- A start tag that opens an element with raw text, of which nothing is read yet. -/
structure StartTag.OpensRaw (tag : StartTag) : Prop where
  raw : tag.raw = none
  selfClosing : tag.selfClosing = false
  name : asciiLower (Tag.localName tag.name) ∈ Tag.rawNames

theorem OpensRaw.openingTag (h : OpensRaw lines start body) : (Markup.openingTag lines start body).OpensRaw :=
  ⟨rfl, rfl, h.name⟩

/-- A start tag together with the raw text of its element. -/
def StartTag.withRaw (tag : StartTag) (raw : Raw) : StartTag := { tag with raw := some raw }

/-- What raw text in an element of the given name stands for. -/
def rawValue (name : String) (content : List Char) : String :=
  if asciiLower name ∈ ["textarea", "title"] then Entity.decode content else String.ofList content

theorem rawValue_eq_empty_iff (name : String) (content : List Char) :
    rawValue name content = "" ↔ content = [] := by
  refine ⟨fun hempty => ?_, ?_⟩
  · by_contra hne
    rw [rawValue] at hempty
    split at hempty
    · exact decode_ne_empty hne hempty
    · exact hne (by simpa using hempty)
  · rintro rfl
    rw [rawValue]
    split <;> rfl

theorem startTagToken_raw (h : OpensRaw lines start body) :
    startTagToken lines start body =
      let scan := tagScan lines start body
      let raw := rawText lines (Tag.content (shortName body)) (shortName body).toList scan.offset scan.rest
      ⟨.startTag ((openingTag lines start body).withRaw raw.value), scan.problems, raw.offset,
        raw.rest⟩ := by
  have hcontent : Tag.content (shortName body) ≠ .parsed := by
    rw [Tag.content_of_mem h.name]
    split <;> exact nofun
  have hvoid := Tag.isVoid_of_mem h.name
  have hends := h.ends
  rw [startTagToken]
  simp only [tagScan, shortName, openingTag, StartTag.withRaw] at hends hvoid hcontent ⊢
  simp [hends, hvoid, hcontent]

/-- An element with raw text is one token. -/
theorem tokens_raw (h : OpensRaw lines start body) {raw : Scan Raw}
    (htext : rawText lines (Tag.content (shortName body)) (shortName body).toList
      (tagScan lines start body).offset (tagScan lines start body).rest = raw) :
    tokens lines start ('<' :: body) =
      .simple (tagScan lines start body).problems
          (.startTag ((openingTag lines start body).withRaw raw.value)) ::
        tokens lines raw.offset raw.rest := by
  rw [tokens_of_simple rfl, simpleLexeme_startTag h.starts, startTagToken_raw h]
  dsimp only
  rw [htext]

theorem rawText_closed {name : String} {endTag rest : List Char} (hname : asciiLower name ∈ Tag.rawNames)
    (hcontent : rawContent name.toList cs = (content, tail)) (htail : tail ≠ [])
    (hbracket : throughBracket tail = (endTag, rest)) :
    rawText lines (Tag.content name) name.toList start cs =
      ⟨⟨rawValue name content, lines.span start (start + byteLength content),
          some (lines.span (start + byteLength content) (start + byteLength content + byteLength endTag))⟩,
        [], start + byteLength content + byteLength endTag, rest⟩ := by
  obtain ⟨c, tail, rfl⟩ := List.exists_cons_of_ne_nil htail
  rw [rawText, hcontent, Tag.content_of_mem hname]
  simp only [hbracket, rawValue]
  split <;> rfl

theorem rawText_unclosed {name : String} (hname : asciiLower name ∈ Tag.rawNames)
    (hcontent : rawContent name.toList cs = (content, [])) :
    rawText lines (Tag.content name) name.toList start cs =
      ⟨⟨rawValue name content, lines.span start (start + byteLength content), none⟩, [],
        start + byteLength content, []⟩ := by
  rw [rawText, hcontent, Tag.content_of_mem hname]
  simp only [rawValue]
  split <;> rfl

theorem localName_openingTag (lines : Lines) (start : ℕ) (body : List Char) :
    Tag.localName (openingTag lines start body).name = shortName body := rfl

/-- The offset behind the raw text that follows a start tag. -/
def contentEnd (lines : Lines) (start : ℕ) (body content : List Char) : ℕ :=
  (tagScan lines start body).offset + byteLength content

/-- The span of the raw text that follows a start tag. -/
def contentSpan (lines : Lines) (start : ℕ) (body content : List Char) : Span :=
  lines.span (tagScan lines start body).offset (contentEnd lines start body content)

/-- The span of the end tag that follows a raw text. -/
def endTagSpan (lines : Lines) (start : ℕ) (body content endTag : List Char) : Span :=
  lines.span (contentEnd lines start body content) (contentEnd lines start body content + byteLength endTag)

theorem tokens_raw_closed {endTag rest : List Char} (h : OpensRaw lines start body)
    (hcontent : rawContent (shortName body).toList (tagScan lines start body).rest = (content, tail))
    (htail : tail ≠ []) (hbracket : throughBracket tail = (endTag, rest)) :
    tokens lines start ('<' :: body) =
      .simple (tagScan lines start body).problems (.startTag ((openingTag lines start body).withRaw
          ⟨rawValue (shortName body) content, contentSpan lines start body content,
            some (endTagSpan lines start body content endTag)⟩)) ::
        tokens lines (contentEnd lines start body content + byteLength endTag) rest := by
  have htext : rawText lines (Tag.content (shortName body)) (shortName body).toList
      (tagScan lines start body).offset (tagScan lines start body).rest =
      ⟨⟨rawValue (shortName body) content, contentSpan lines start body content,
        some (endTagSpan lines start body content endTag)⟩, [],
        contentEnd lines start body content + byteLength endTag, rest⟩ :=
    rawText_closed h.name hcontent htail hbracket
  rw [tokens_raw h htext]

theorem tokens_raw_unclosed (h : OpensRaw lines start body)
    (hcontent : rawContent (shortName body).toList (tagScan lines start body).rest = (content, [])) :
    tokens lines start ('<' :: body) =
      [.simple (tagScan lines start body).problems (.startTag ((openingTag lines start body).withRaw
        ⟨rawValue (shortName body) content, contentSpan lines start body content, none⟩))] := by
  rw [tokens_raw h (rawText_unclosed h.name hcontent), tokens_nil]
  rfl

/-! ### The element -/

namespace Builder

/-- The builder in which the element of a start tag begins: the problems of the tag are reported, and an
innermost element that cannot contain it has ended. -/
def room (b : Builder) (problems : List Problem) (tag : StartTag) : Builder :=
  { b with problems := b.problems ++ problems }.makeRoom (b.fullName tag.name) tag.span.start

/-- What a start tag says about its element. -/
def head (b : Builder) (tag : StartTag) : Head := ⟨b.fullName tag.name, tag.attrs, tag.span, false⟩

/-- The children of an element with raw text. -/
def rawChildren (name : String) (content : List Char) (span : Span) : List Node :=
  if content = [] then [] else [.text (rawValue name content) span]

theorem addToken_startTag (b : Builder) (problems : List Problem) (h : tag.OpensRaw) :
    b.addToken lines (.simple problems (.startTag tag)) =
      { b.room problems tag with frames := ⟨b.head tag, []⟩ :: (b.room problems tag).frames } := by
  have hname : { b with problems := b.problems ++ problems }.fullName tag.name = b.fullName tag.name := rfl
  rw [addToken, addSimple, addStartTag, hname, beginElement, b.localName_fullName,
    Tag.isVoid_of_mem h.name]
  simp [h.raw, h.selfClosing, room, head]

theorem addToken_rawTag (lines : Lines) (b : Builder) (problems : List Problem) (h : tag.OpensRaw)
    (content : List Char) (span endSpan : Span) :
    b.addToken lines (.simple problems (.startTag (tag.withRaw
        ⟨rawValue (Tag.localName tag.name) content, span, some endSpan⟩))) =
      (b.room problems tag).addNode (.element (b.head tag)
        (rawChildren (Tag.localName tag.name) content span) ⟨tag.span.start, endSpan.stop⟩
        (some endSpan)) := by
  have hname : { b with problems := b.problems ++ problems }.fullName tag.name = b.fullName tag.name := rfl
  rw [addToken, addSimple, addStartTag, StartTag.withRaw, hname, beginElement, b.localName_fullName,
    Tag.isVoid_of_mem h.name]
  simp [h.selfClosing, room, head, rawChildren, rawValue_eq_empty_iff]

theorem addToken_rawTag_unclosed (lines : Lines) (b : Builder) (problems : List Problem)
    (h : tag.OpensRaw) (content : List Char) (span : Span) :
    b.addToken lines (.simple problems (.startTag (tag.withRaw
        ⟨rawValue (Tag.localName tag.name) content, span, none⟩))) =
      ((b.room problems tag).report tag.span ("Unclosed element \"" ++ b.fullName tag.name ++ "\"")).addNode
        (.element (b.head tag) (rawChildren (Tag.localName tag.name) content span)
          ⟨tag.span.start, span.stop⟩ none) := by
  have hname : { b with problems := b.problems ++ problems }.fullName tag.name = b.fullName tag.name := rfl
  rw [addToken, addSimple, addStartTag, StartTag.withRaw, hname, beginElement, b.localName_fullName,
    Tag.isVoid_of_mem h.name]
  simp [h.selfClosing, room, head, rawChildren, rawValue_eq_empty_iff]

theorem addToken_text (b : Builder) (h : Head) (name : String) (content : List Char) (span : Span) :
    { b with frames := ⟨h, []⟩ :: b.frames }.addToken lines
        (.simple [] (.text (rawValue name content) span)) =
      { b with frames := ⟨h, rawChildren name content span⟩ :: b.frames } := by
  rw [addToken, addSimple, addText]
  simp only [List.append_nil, beq_iff_eq, rawValue_eq_empty_iff, rawChildren]
  split <;> rfl

theorem addTokens_append (b : Builder) (ts us : List Token) :
    b.addTokens lines (ts ++ us) = (b.addTokens lines ts).addTokens lines us := by
  induction ts generalizing b with
  | nil => rw [List.nil_append, addTokens]
  | cons t ts ih => rw [List.cons_append, addTokens, addTokens, ih]

theorem addNode_frames (b : Builder) (n : Node) :
    (b.addNode n).frames.length = b.frames.length ∧
      (b.addNode n).frames.filterMap unclosed = b.frames.filterMap unclosed := by
  obtain ⟨frames, roots, problems⟩ := b
  cases frames <;> exact ⟨rfl, rfl⟩

theorem closeInner_addProblems (b : Builder) (problems : List Problem) (k : ℕ) (stop : Position) :
    { b with problems := problems }.closeInner k stop = { b.closeInner k stop with problems := problems } := by
  simp only [closeInner, setSiblings, siblings]
  split <;> rfl

theorem addNode_addProblems (b : Builder) (problems : List Problem) (n : Node) :
    { b with problems := problems }.addNode n = { b.addNode n with problems := problems } := by
  simp only [addNode, setSiblings, siblings]
  split <;> rfl

/-- An element that is open where the text ends ends there. -/
theorem finish_open (b : Builder) (f : Frame) (stop : Position) :
    { b with frames := f :: b.frames }.finish stop =
      ({ b with problems := b.problems ++ (unclosed f).toList }.addNode (f.close none stop)).finish stop := by
  obtain ⟨hlength, hunclosed⟩ := b.addNode_frames (f.close none stop)
  have hclose : { b with frames := f :: b.frames }.closeInner (b.frames.length + 1) stop =
      (b.addNode (f.close none stop)).closeInner b.frames.length stop := closeInner_succ rfl _
  simp only [finish, addNode_addProblems, closeInner_addProblems, List.length_cons, hlength, hunclosed,
    hclose, List.filterMap_cons, List.append_assoc]
  cases unclosed f <;> rfl

theorem unclosed_head (b : Builder) (h : tag.OpensRaw) (children : List Node) :
    unclosed ⟨b.head tag, children⟩ =
      some ⟨tag.span, "Unclosed element \"" ++ b.fullName tag.name ++ "\"", .error⟩ := by
  rw [unclosed, head, b.localName_fullName, Tag.closesWithParent_of_mem h.name]
  rfl

/-- The tokens of a raw text as if its start tag had opened an element. -/
def spelled (problems : List Problem) (tag : StartTag) (content : List Char) (span : Span) : List Token :=
  [.simple problems (.startTag tag), .simple [] (.text (rawValue (Tag.localName tag.name) content) span)]

theorem addTokens_spelled (b : Builder) (problems : List Problem) (h : tag.OpensRaw) (content : List Char)
    (span : Span) :
    b.addTokens lines (spelled problems tag content span) =
      { b.room problems tag with
        frames := ⟨b.head tag, rawChildren (Tag.localName tag.name) content span⟩ ::
          (b.room problems tag).frames } := by
  rw [spelled, addTokens, addTokens, addTokens, addToken_startTag b problems h, addToken_text]

/-- An end tag behind a raw text ends its element. -/
theorem addTokens_spelled_endTag (lines : Lines) (b : Builder) (problems : List Problem) (h : tag.OpensRaw)
    (content : List Char) (span endSpan : Span) :
    b.addTokens lines (spelled problems tag content span ++ [.simple [] (.endTag tag.name endSpan)]) =
      (b.room problems tag).addNode (.element (b.head tag)
        (rawChildren (Tag.localName tag.name) content span) ⟨tag.span.start, endSpan.stop⟩
        (some endSpan)) := by
  have hends : endsElement tag.name (b.head tag).name := by simp [endsElement, head, b.localName_fullName]
  rw [addTokens_append, b.addTokens_spelled problems h, addTokens, addTokens, addToken, addSimple,
    List.append_nil, addEndTag_innermost (Tag.isVoid_of_mem h.name) hends, Frame.close, rawChildren]
  split <;> rfl

/-- Where no end tag follows, a raw text goes up to the end of the text like an element that is open. -/
theorem finish_spelled (lines : Lines) (b : Builder) (problems : List Problem) (h : tag.OpensRaw)
    (content : List Char) (span : Span) :
    (((b.room problems tag).report tag.span ("Unclosed element \"" ++ b.fullName tag.name ++ "\"")).addNode
        (.element (b.head tag) (rawChildren (Tag.localName tag.name) content span)
          ⟨tag.span.start, span.stop⟩ none)).finish span.stop =
      (b.addTokens lines (spelled problems tag content span)).finish span.stop := by
  rw [b.addTokens_spelled problems h, finish_open, b.unclosed_head h, Frame.close, rawChildren]
  split <;> rfl

end Builder

/-- The offset behind the attributes of a start tag and the text there. -/
theorem tagScan_offset (h : Stands source start ('<' :: body)) :
    (tagScan (Lines.ofText source) start body).offset +
        byteLength (tagScan (Lines.ofText source) start body).rest =
      start + byteLength ('<' :: body) := by
  have hsize : Char.utf8Size '<' = 1 := rfl
  have hbody := List.takeWhile_append_dropWhile (p := isTagNameChar) (l := body)
  have hlength : byteLength body =
      byteLength (body.takeWhile isTagNameChar) + byteLength (body.dropWhile isTagNameChar) := by
    rw [← byteLength_append, hbody]
  have hinner : Stands source (start + 1 + byteLength (body.takeWhile isTagNameChar))
      (body.dropWhile isTagNameChar) := by
    rw [← hbody] at h
    simpa [hsize, Nat.add_assoc] using (List.cons_append ▸ h : Stands source start
      ('<' :: body.takeWhile isTagNameChar ++ body.dropWhile isTagNameChar)).right
  obtain ⟨taken, hread, hoffset⟩ := (attributes_read hinner).sound.reads
  have hinnerLength := congrArg byteLength hread
  rw [byteLength_append] at hinnerLength
  rw [byteLength_cons, hsize, hlength, hinnerLength, tagScan, hoffset]
  omega

/-- A raw text without an end tag goes up to the end of the text around it. -/
theorem contentSpan_unclosed (h : Stands source start ('<' :: body)) (hlines : lines = Lines.ofText source)
    (hcontent : rawContent (shortName body).toList (tagScan lines start body).rest = (content, [])) :
    (contentSpan lines start body content).stop = lines.locate (start + byteLength ('<' :: body)) := by
  have hcut := rawContent_append (shortName body).toList (tagScan lines start body).rest
  rw [hcontent, List.append_nil] at hcut
  subst hlines
  rw [← tagScan_offset h, ← hcut]
  rfl

namespace Builder

theorem addTokens_raw_closed {endTag rest : List Char} (b : Builder) (h : OpensRaw lines start body)
    (hcontent : rawContent (shortName body).toList (tagScan lines start body).rest = (content, tail))
    (htail : tail ≠ []) (hbracket : throughBracket tail = (endTag, rest)) :
    b.addTokens lines (tokens lines start ('<' :: body)) =
      ((b.room (tagScan lines start body).problems (openingTag lines start body)).addNode
        (.element (b.head (openingTag lines start body))
          (rawChildren (shortName body) content (contentSpan lines start body content))
          ⟨lines.locate start, (endTagSpan lines start body content endTag).stop⟩
          (some (endTagSpan lines start body content endTag)))).addTokens lines
        (tokens lines (contentEnd lines start body content + byteLength endTag) rest) := by
  have htoken := fun span endSpan => b.addToken_rawTag lines (tagScan lines start body).problems
    h.openingTag content span endSpan
  simp only [localName_openingTag] at htoken
  rw [tokens_raw_closed h hcontent htail hbracket, addTokens, htoken]
  rfl

theorem addTokens_raw_unclosed (b : Builder) (h : OpensRaw lines start body)
    (hstands : Stands source start ('<' :: body)) (hlines : lines = Lines.ofText source)
    (hcontent : rawContent (shortName body).toList (tagScan lines start body).rest = (content, [])) :
    b.addTokens lines (tokens lines start ('<' :: body)) =
      ((b.room (tagScan lines start body).problems (openingTag lines start body)).report
          (openingTag lines start body).span
          ("Unclosed element \"" ++ b.fullName (openingTag lines start body).name ++ "\"")).addNode
        (.element (b.head (openingTag lines start body))
          (rawChildren (shortName body) content (contentSpan lines start body content))
          ⟨lines.locate start, lines.locate (start + byteLength ('<' :: body))⟩ none) := by
  have htoken := fun span => b.addToken_rawTag_unclosed lines (tagScan lines start body).problems
    h.openingTag content span
  simp only [localName_openingTag] at htoken
  rw [tokens_raw_unclosed h hcontent, addTokens, addTokens, htoken,
    contentSpan_unclosed hstands hlines hcontent]
  rfl

theorem finish_raw_unclosed (b : Builder) (h : OpensRaw lines start body)
    (hstands : Stands source start ('<' :: body)) (hlines : lines = Lines.ofText source)
    (hcontent : rawContent (shortName body).toList (tagScan lines start body).rest = (content, [])) :
    (b.addTokens lines (tokens lines start ('<' :: body))).finish
        (lines.locate (start + byteLength ('<' :: body))) =
      (b.addTokens lines (spelled (tagScan lines start body).problems (openingTag lines start body) content
        (contentSpan lines start body content))).finish (lines.locate (start + byteLength ('<' :: body))) := by
  have hfinish := b.finish_spelled lines (tagScan lines start body).problems h.openingTag content
    (contentSpan lines start body content)
  rw [b.addTokens_raw_unclosed h hstands hlines hcontent]
  rwa [contentSpan_unclosed hstands hlines hcontent, localName_openingTag] at hfinish

end Builder

/-- How an element with raw text is read whose start tag begins at `start` and is followed by `body`: its
content is `content`, behind which `tail` follows. -/
structure Builder.ReadsRaw (lines : Lines) (start : ℕ) (body : List Char) (b : Builder)
    (content tail : List Char) : Prop where
  /-- The content goes up to the first `</` with the name of the element, whatever stands behind the
  name. -/
  stops : StopsAt (atEndTag (shortName body).toList) (tagScan lines start body).rest content tail
  /-- It goes up to the end tag of the element if that is the first to begin with the name. -/
  stops_own_iff :
    StopsAt (atOwnEndTag (shortName body).toList) (tagScan lines start body).rest content tail ↔
      tail = [] ∨ atOwnEndTag (shortName body).toList tail
  /-- What stands behind the `>` of the end tag is read as if the start tag had opened an element, in
  which one text stands and which the end tag has closed. -/
  closed : ∀ endTag rest, tail ≠ [] → throughBracket tail = (endTag, rest) →
    b.addTokens lines (tokens lines start ('<' :: body)) =
      (b.addTokens lines (spelled (tagScan lines start body).problems (openingTag lines start body) content
          (contentSpan lines start body content) ++
        [.simple [] (.endTag (openingTag lines start body).name
          (endTagSpan lines start body content endTag))])).addTokens lines
        (tokens lines (contentEnd lines start body content + byteLength endTag) rest)
  /-- The element that it has closed. -/
  closed_element : ∀ endTag rest, tail ≠ [] → throughBracket tail = (endTag, rest) →
    b.addTokens lines (spelled (tagScan lines start body).problems (openingTag lines start body) content
          (contentSpan lines start body content) ++
        [.simple [] (.endTag (openingTag lines start body).name
          (endTagSpan lines start body content endTag))]) =
      (b.room (tagScan lines start body).problems (openingTag lines start body)).addNode
        (.element (b.head (openingTag lines start body))
          (rawChildren (shortName body) content (contentSpan lines start body content))
          ⟨lines.locate start, (endTagSpan lines start body content endTag).stop⟩
          (some (endTagSpan lines start body content endTag)))
  /-- Without an end tag the content goes up to the end of the text, as it does in an element that is
  open there. -/
  unclosed : tail = [] →
    (b.addTokens lines (tokens lines start ('<' :: body))).finish
        (lines.locate (start + byteLength ('<' :: body))) =
      (b.addTokens lines (spelled (tagScan lines start body).problems (openingTag lines start body) content
        (contentSpan lines start body content))).finish (lines.locate (start + byteLength ('<' :: body)))
  /-- The element is reported once. -/
  unclosed_element : tail = [] →
    b.addTokens lines (tokens lines start ('<' :: body)) =
      ((b.room (tagScan lines start body).problems (openingTag lines start body)).report
          (openingTag lines start body).span
          ("Unclosed element \"" ++ b.fullName (openingTag lines start body).name ++ "\"")).addNode
        (.element (b.head (openingTag lines start body))
          (rawChildren (shortName body) content (contentSpan lines start body content))
          ⟨lines.locate start, lines.locate (start + byteLength ('<' :: body))⟩ none)

/-- Wherever the start tag of an element with raw text ends with `>`, its content goes up to the first
`</` with its name, and the element is read like its start tag, one text and its end tag. -/
theorem Builder.readsRaw {source body : List Char} {start : ℕ} (hstands : Stands source start ('<' :: body))
    (h : OpensRaw (Lines.ofText source) start body) (b : Builder) :
    ∃ content tail, b.ReadsRaw (Lines.ofText source) start body content tail := by
  have hstops := rawContent_stops (shortName body).toList (tagScan (Lines.ofText source) start body).rest
  rcases hcontent : rawContent (shortName body).toList (tagScan (Lines.ofText source) start body).rest with
    ⟨content, tail⟩
  rw [hcontent] at hstops
  have hclosed := fun endTag => b.addTokens_spelled_endTag (Lines.ofText source)
    (tagScan (Lines.ofText source) start body).problems h.openingTag content
    (contentSpan (Lines.ofText source) start body content)
    (endTagSpan (Lines.ofText source) start body content endTag)
  simp only [localName_openingTag] at hclosed
  refine ⟨content, tail, hstops, hstops.own_iff, ?_, fun endTag _ _ _ => hclosed endTag, ?_, ?_⟩
  · intro endTag rest htail hbracket
    rw [hclosed]
    exact b.addTokens_raw_closed h hcontent htail hbracket
  · rintro rfl
    exact b.finish_raw_unclosed h hstands rfl hcontent
  · rintro rfl
    exact b.addTokens_raw_unclosed h hstands rfl hcontent

/-- A script in whose text an end tag with a longer name stands. -/
def longerEndTag : List Char := "script>a</scripts>b</script>".toList

theorem Builder.readsRaw_longerEndTag :
    OpensRaw (Lines.ofText ('<' :: longerEndTag)) 0 longerEndTag ∧
      ∃ content tail, ({} : Builder).ReadsRaw (Lines.ofText ('<' :: longerEndTag)) 0 longerEndTag content
        tail := by
  have h : OpensRaw (Lines.ofText ('<' :: longerEndTag)) 0 longerEndTag :=
    ⟨by decide, by decide, by rw [tagScan, attributes]; rfl⟩
  exact ⟨h, Builder.readsRaw (stands_self _) h {}⟩

/-- That script ends at the longer name, although its own end tag follows: the rest of its content becomes
a text beside it, and its own end tag is reported. -/
theorem Document.read_longerEndTag :
    StopsAt (atOwnEndTag "script".toList) (tagScan (Lines.ofText ('<' :: longerEndTag)) 0 longerEndTag).rest
        "a</scripts>b".toList "</script>".toList ∧
      (trees? (Document.read (String.ofList ('<' :: longerEndTag))).nodes).map (printAll .decimal) =
        some "<script>a</script>b".toList ∧
      (Document.read (String.ofList ('<' :: longerEndTag))).problems.map (·.message) =
        ["Unexpected closing tag \"script\". " ++
          "It may happen when the tag has already been closed by another tag."] := by
  exact ⟨⟨by decide +kernel, by decide +kernel, by decide +kernel⟩, by decide +kernel, by decide +kernel⟩

end ComponentAtlas.Markup
