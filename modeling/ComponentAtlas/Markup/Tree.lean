import ComponentAtlas.Markup.Token

/-!
# Markup trees from tokens

Tokens are nested into a tree along a stack of open elements. An element may end at its end tag, at
the end of an enclosing element, or at an element that cannot stand inside it.

* `Builder`: the open elements and the nodes that are complete;
* `Document.read`: the tree of a source.

Lists of nodes under construction are kept with the latest node first.
-/

namespace ComponentAtlas.Markup

open ComponentAtlas.Text ComponentAtlas.Source

/-- An open element with the children read so far, latest first. -/
structure Frame where
  head : Head
  children : List Node := []
  deriving Inhabited

/-- The element of a frame that ends at a position. -/
def Frame.close (f : Frame) (endSpan : Option Span) (stop : Position) : Node :=
  .element f.head f.children.reverse ⟨f.head.startSpan.start, stop⟩ endSpan

/-- A tree under construction. -/
structure Builder where
  /-- The open elements, innermost first. -/
  frames : List Frame := []
  /-- The complete nodes outside all open elements, latest first. -/
  roots : List Node := []
  problems : List Problem := []

namespace Builder

/-- One more problem. -/
def report (b : Builder) (span : Span) (message : String) : Builder :=
  { b with problems := b.problems ++ [⟨span, message, .error⟩] }

/-- The nodes beside which the next node is placed, latest first. -/
def siblings (b : Builder) : List Node :=
  match b.frames with
  | f :: _ => f.children
  | [] => b.roots

/-- The builder with other nodes beside which the next node is placed. -/
def setSiblings (b : Builder) (nodes : List Node) : Builder :=
  match b.frames with
  | f :: fs => { b with frames := { f with children := nodes } :: fs }
  | [] => { b with roots := nodes }

/-- One more node in the innermost open element. -/
def addNode (b : Builder) (n : Node) : Builder := b.setSiblings (n :: b.siblings)

/-- One more text in the innermost open element. It extends a text just before it, and an empty text
adds nothing. -/
def addText (b : Builder) (value : String) (span : Span) : Builder :=
  if value == "" then b
  else
    match b.siblings with
    | .text before at_ :: rest =>
      b.setSiblings (.text (before ++ value) ⟨at_.start, span.stop⟩ :: rest)
    | nodes => b.setSiblings (.text value span :: nodes)

/-- The nodes that remain when all given frames end at a position. -/
def closeFrames (stop : Position) : List Frame → List Node → List Node
  | [], carry => carry
  | f :: fs, carry =>
    closeFrames stop fs [{ f with children := carry ++ f.children }.close none stop]

/-- The builder with its `n` innermost elements ended at a position. -/
def closeInner (b : Builder) (n : Nat) (stop : Position) : Builder :=
  let carry := closeFrames stop (b.frames.take n) []
  let b := { b with frames := b.frames.drop n }
  b.setSiblings (carry ++ b.siblings)

/-- Whether an end tag of the given name ends an element of the given full name. -/
def endsElement (name element : String) : Bool :=
  element == name || Tag.localName element == Tag.localName name

/-- How many elements an end tag closes before the one that it ends. Only elements that may end with
their parent can be closed in this way. -/
def depthOf? (name : String) : List Frame → Option Nat
  | [] => none
  | f :: fs =>
    if endsElement name f.head.name then some 0
    else if Tag.closesWithParent (Tag.localName f.head.name) then (depthOf? name fs).map (· + 1)
    else none

/-- The effect of an end tag. -/
def addEndTag (b : Builder) (name : String) (span : Span) : Builder :=
  if Tag.isVoid (Tag.localName name) then
    b.report span ("Void elements do not have end tags \"" ++ name ++ "\"")
  else
    match depthOf? name b.frames with
    | some n =>
      let b := b.closeInner n span.start
      match b.frames with
      | f :: fs => { b with frames := fs }.addNode (f.close (some span) span.stop)
      | [] => b
    | none =>
      b.report span ("Unexpected closing tag \"" ++ name ++
        "\". It may happen when the tag has already been closed by another tag.")

/-- The full name of an element: its own namespace, else the one its name implies, else the one of
the element that contains it, except for content of a `foreignObject`. -/
def fullName (b : Builder) (name : String) : String :=
  if name.toList.head? == some ':' then name
  else
    let inherited :=
      match b.frames with
      | f :: _ =>
        if Tag.localName f.head.name == "foreignObject" then none
        else Tag.namespace? f.head.name
      | [] => none
    Tag.merge ((Tag.implicitNamespace name).or inherited) name

/-- The builder in which an element of a full name may begin: an innermost element that cannot
contain it ends there. -/
def makeRoom (b : Builder) (name : String) (stop : Position) : Builder :=
  match b.frames with
  | f :: _ => if Tag.isClosedBy f.head.name name then b.closeInner 1 stop else b
  | [] => b

/-- One more element, which is complete at once if it has no content or its content is raw text, and
is open else. -/
def beginElement (b : Builder) (name : String) (tag : StartTag) : Builder :=
  let head : Head := ⟨name, tag.attrs, tag.span, tag.selfClosing⟩
  if tag.selfClosing then
    let b :=
      if Tag.canSelfClose name then b
      else
        b.report tag.span ("Only void, custom and foreign elements can be self closed \"" ++
          tag.name ++ "\"")
    b.addNode (.element head [] tag.span (some tag.span))
  else if Tag.isVoid (Tag.localName name) then b.addNode (.element head [] tag.span none)
  else
    match tag.raw with
    | none => { b with frames := ⟨head, []⟩ :: b.frames }
    | some raw =>
      let children := if raw.value == "" then [] else [.text raw.value raw.span]
      match raw.endSpan with
      | some endSpan =>
        b.addNode (.element head children ⟨tag.span.start, endSpan.stop⟩ (some endSpan))
      | none =>
        (b.report tag.span ("Unclosed element \"" ++ name ++ "\"")).addNode
          (.element head children ⟨tag.span.start, raw.span.stop⟩ none)

/-- The effect of a start tag. -/
def addStartTag (b : Builder) (tag : StartTag) : Builder :=
  let name := b.fullName tag.name
  (b.makeRoom name tag.span.start).beginElement name tag

/-- The effect of a simple piece of markup. -/
def addSimple (b : Builder) : Simple → Builder
  | .comment value span => b.addNode (.comment value span)
  | .text value span => b.addText value span
  | .startTag tag => b.addStartTag tag
  | .endTag name span => b.addEndTag name span

/-- The problem of an element that the source does not end. -/
def unclosed (f : Frame) : Option Problem :=
  if Tag.closesWithParent (Tag.localName f.head.name) then none
  else some ⟨f.head.startSpan, "Unclosed element \"" ++ f.head.name ++ "\"", .error⟩

/-- The finished tree of a source that ends at a position. -/
def finish (b : Builder) (stop : Position) : Document :=
  { nodes := (b.closeInner b.frames.length stop).roots.reverse
    problems := b.problems ++ b.frames.filterMap unclosed }

mutual

/-- The effect of a token. -/
def addToken (lines : Lines) (b : Builder) : Token → Builder
  | .simple problems s => { b with problems := b.problems ++ problems }.addSimple s
  | .expansion switch kind cases span =>
    let (cases, problems) := readCases lines cases
    { b with problems := b.problems ++ problems }.addNode (.expansion (.mk switch kind cases span))

/-- The effect of several tokens. -/
def addTokens (lines : Lines) (b : Builder) : List Token → Builder
  | [] => b
  | t :: ts => addTokens lines (addToken lines b t) ts

/-- The cases of an expansion with the problems of their contents. -/
def readCases (lines : Lines) : List TokenCase → List Case × List Problem
  | [] => ([], [])
  | .mk value tokens span :: more =>
    let inner := (addTokens lines {} tokens).finish (lines.locate (span.stop.offset - 1))
    let (cases, problems) := readCases lines more
    (.mk value inner.nodes span :: cases, inner.problems ++ problems)

end

end Builder

/-- The tree of a source. -/
def Document.read (source : String) : Document :=
  let cs := source.toList
  let lines := Lines.ofText cs
  (Builder.addTokens lines {} (tokens lines 0 cs)).finish (lines.locate (byteLength cs))

end ComponentAtlas.Markup
