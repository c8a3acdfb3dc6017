import ComponentAtlas.Markup.Tree
import ComponentAtlas.Template.Microsyntax

/-!
# Templates from markup

* `Sorted.add`: where one attribute of an element goes;
* `read`: the template of a source, or the attribute name that cannot be cut.

Inside an element marked `ngNonBindable` every attribute is literal. Scripts and style sheets are no
nodes of the template; the texts of style sheets are collected.
-/

namespace ComponentAtlas.Template

open ComponentAtlas.Text ComponentAtlas.Source

/-- Reading a template fails only when a mark of five bytes at the start of an attribute name would
end inside a character. -/
inductive Failure
  | splitCharacter (name : String)
  deriving DecidableEq, Repr

/-- The attributes of an element, sorted. -/
structure Sorted where
  attrs : Attrs := {}
  locals : List Binder := []
  /-- What the first `*` attribute stands for. -/
  hoist : Option Hoist := none
  problems : List Problem := []

/-- A literal attribute. -/
def TextAttr.ofMarkup (a : Markup.Attribute) : TextAttr := ⟨a.name, a.value, a.span, a.valueSpan, false⟩

/-- What follows the first `n` bytes of a text, if a character ends there. -/
def dropBytes? : Nat → List Char → Option (List Char)
  | 0, cs => some cs
  | _ + 1, [] => none
  | n + 1, c :: cs => if c.utf8Size ≤ n + 1 then dropBytes? (n + 1 - c.utf8Size) cs else none
termination_by _ cs => cs.length

/-- The attribute name without a mark `data-` in front of it. -/
def plainName (name : String) : Except Failure String :=
  let cs := name.toList
  if byteLength cs ≤ 5 then .ok name
  else
    match dropBytes? 5 cs with
    | none => .error (.splitCharacter name)
    | some rest =>
      if (cs.take (cs.length - rest.length)).map Char.toLower == "data-".toList then
        .ok (String.ofList rest)
      else .ok name

/-- Whether a text has an interpolation. -/
def interpolated (value : String) : Bool :=
  match Markup.splitAtLiteral ['\x7b', '\x7b'] value.toList with
  | some (_, rest) => containsLiteral ['\x7d', '\x7d'] rest
  | none => false

/-- The ways in which the name of an attribute can ask for a binding. -/
inductive Form
  | input (name : String)
  | twoWay (name : String)
  | output (name : String)
  | variable (name : String)
  | reference (name : String)
  | plain
  deriving DecidableEq, Repr

/-- What follows a mark at the start of a name, if it has no line feed. -/
def behind? (mark name : String) : Option String :=
  (dropStart? mark name).filter fun rest => !rest.toList.contains '\n'

/-- What stands between two marks, if it is not empty. -/
def between? (opening closing name : String) : Option String :=
  match dropStart? opening name with
  | none => none
  | some rest =>
    match dropEnd? closing rest with
    | none => none
    | some inner => if inner == "" then none else some inner

/-- The form of an attribute name. -/
def Form.ofName (name : String) : Form :=
  match behind? "bind-" name with
  | some rest => .input rest
  | none =>
    match behind? "let-" name with
    | some rest => .variable rest
    | none =>
      match (behind? "ref-" name).or (behind? "#" name) with
      | some rest => .reference rest
      | none =>
        match behind? "on-" name with
        | some rest => .output rest
        | none =>
          match behind? "bindon-" name with
          | some rest => .twoWay rest
          | none =>
            if startsWith name "[(" then ((between? "[(" ")]" name).map .twoWay).getD .plain
            else if startsWith name "[" then ((between? "[" "]" name).map .input).getD .plain
            else if startsWith name "(" then ((between? "(" ")" name).map .output).getD .plain
            else .plain

namespace Sorted

/-- One more problem. -/
def report (s : Sorted) (span : Span) (message : String) : Sorted :=
  { s with problems := s.problems ++ [⟨span, message, .error⟩] }

/-- One more literal attribute. -/
def addText (s : Sorted) (a : TextAttr) : Sorted :=
  { s with attrs := { s.attrs with attributes := s.attrs.attributes ++ [a] } }

/-- One more input. -/
def addInput (s : Sorted) (i : Input) : Sorted :=
  { s with attrs := { s.attrs with inputs := s.attrs.inputs ++ [i] } }

/-- One more event. -/
def addOutput (s : Sorted) (o : Output) : Sorted :=
  { s with attrs := { s.attrs with outputs := s.attrs.outputs ++ [o] } }

/-- A variable of an `ng-template`. -/
def addVariable (s : Sorted) (name value : String) (span : Span) : Sorted :=
  let s :=
    if name.toList.contains '-' then s.report span "\"-\" is not allowed in variable names"
    else if name == "" then s.report span "Variable does not have a name"
    else s
  { s with locals := s.locals ++ [⟨name, if value == "" then "$implicit" else value, span⟩] }

/-- A reference to the element. -/
def addReference (s : Sorted) (name value : String) (span : Span) : Sorted :=
  let s :=
    if name.toList.contains '-' then s.report span "\"-\" is not allowed in reference names"
    else if name == "" then s.report span "Reference does not have a name"
    else if s.attrs.references.any (fun r => r.name == name) then
      s.report span ("Reference \"#" ++ name ++ "\" is defined more than once")
    else s
  { s with attrs := { s.attrs with references := s.attrs.references ++ [⟨name, value, span⟩] } }

/-- An attribute that is neither a `*` attribute nor a localisation marker. -/
def addBinding (s : Sorted) (isTemplate : Bool) (a : Markup.Attribute) (name : String) : Sorted :=
  match Form.ofName name with
  | .input target => s.addInput (.oneWay target a.value a.span)
  | .twoWay target =>
    (s.addInput ⟨target, .twoWay, a.value, a.span⟩).addOutput ⟨target ++ "Change", a.value, a.span⟩
  | .output target => s.addOutput ⟨target, a.value, a.span⟩
  | .variable target =>
    if isTemplate then s.addVariable target a.value a.span
    else s.report a.span "\"let-\" is only supported on ng-template elements."
  | .reference target => s.addReference target a.value a.span
  | .plain =>
    if interpolated a.value then s.addInput (.oneWay name a.value a.span)
    else s.addText (.ofMarkup a)

/-- One more attribute. When `inert` is set it is literal whatever its name. -/
def add (inert isTemplate : Bool) (s : Sorted) (a : Markup.Attribute) : Except Failure Sorted :=
  if inert then .ok (s.addText (.ofMarkup a))
  else
    match dropStart? "*" a.name with
    | some directive =>
      if s.hoist.isSome then
        .ok (s.report a.span
          "Can't have multiple template bindings on one element. Use only one attribute prefixed with *")
      else .ok { s with hoist := some (Hoist.read directive a.value a.span) }
    | none =>
      if a.name == "i18n" || startsWith a.name "i18n-" then
        .ok (s.addText { TextAttr.ofMarkup a with i18n := true })
      else do
        let name ← plainName a.name
        return s.addBinding isTemplate a name

/-- The sorted attributes of an element. -/
def ofList (inert isTemplate : Bool) (as : List Markup.Attribute) : Except Failure Sorted :=
  as.foldlM (add inert isTemplate) {}

end Sorted

/-- What a part of a template contributes. -/
structure Yield where
  nodes : List Node := []
  problems : List Problem := []
  styles : List String := []
  deriving Inhabited

/-- Two contributions one after the other. -/
def Yield.append (a b : Yield) : Yield :=
  ⟨a.nodes ++ b.nodes, a.problems ++ b.problems, a.styles ++ b.styles⟩

/-- The selector of a projection slot. -/
def slotSelector (attrs : List Markup.Attribute) : String :=
  match attrs.find? (fun a => a.name == "select") with
  | some a =>
    let s := trimmed a.value
    if s == "" then "*" else s
  | none => "*"

/-- A text node; blank texts contribute nothing. -/
def textNode (inert : Bool) (value : String) (span : Span) : List Node :=
  if (trim value.toList).isEmpty then []
  else if interpolated value && !inert then [.boundText value span]
  else [.text value span]

/-- The texts among some nodes, joined. -/
def textOf (nodes : List Markup.Node) : String :=
  String.join (nodes.map fun n => match n with | .text value _ => value | _ => "")

/-- The node of an element with sorted attributes and finished children. -/
def elementNode (head : Markup.Head) (extent : Extent) (s : Sorted) (children : List Node) : Node :=
  let inner : Node :=
    if Markup.Tag.isNgContent head.name then
      .content (slotSelector head.attrs) (head.attrs.map .ofMarkup) children extent.span
    else if Markup.Tag.isNgTemplate head.name then
      .template (some head.name) s.attrs [] s.locals children extent
    else .element head.name s.attrs children extent
  match s.hoist with
  | some h => .template none {} h.attrs h.locals [inner] extent
  | none => inner

/-- Whether an element marks its content as literal. -/
def marksInert (head : Markup.Head) : Bool := head.attrs.any fun a => a.name == "ngNonBindable"

mutual

/-- The contribution of a node. -/
def visit (inert : Bool) : Markup.Node → Except Failure Yield
  | .element head children span endSpan =>
    let name := Markup.Tag.localName head.name
    if name == "script" then .ok {}
    else if name == "style" then .ok { styles := [textOf children] }
    else do
      let s ← Sorted.ofList inert (Markup.Tag.isNgTemplate head.name) head.attrs
      let inner ← visitAll (inert || marksInert head) children
      return { nodes := [elementNode head ⟨span, head.startSpan, endSpan⟩ s inner.nodes]
               problems := s.problems ++ inner.problems
               styles := inner.styles }
  | .text value span => .ok { nodes := textNode inert value span }
  | .comment _ _ => .ok {}
  | .expansion (.mk switch kind cases span) =>
    .ok { nodes := [.icu (.mk switch kind cases span) span] }

/-- The contribution of several nodes. -/
def visitAll (inert : Bool) : List Markup.Node → Except Failure Yield
  | [] => .ok {}
  | n :: ns => do
    let y ← visit inert n
    let rest ← visitAll inert ns
    return y.append rest

end

/-- The template of a source; problems of its markup come first. -/
def read (source : String) : Except Failure Yield := do
  let doc := Markup.Document.read source
  let y ← visitAll false doc.nodes
  return { y with problems := doc.problems ++ y.problems }

end ComponentAtlas.Template
