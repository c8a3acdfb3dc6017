import ComponentAtlas.Json.Basic
import ComponentAtlas.Markup.Node
import ComponentAtlas.Selector.Basic
import ComponentAtlas.Style.Rule
import ComponentAtlas.Template.Reading

/-!
# Structured views of markup, templates, style sheets and selectors
-/

namespace ComponentAtlas

open Json (ofOption ofNat ofStrings)

/-- A pair of names as a list of two texts. -/
def Json.ofPair (p : String × String) : Json := .arr [.str p.1, .str p.2]

namespace Source

/-- Offset, line and column of both ends. -/
def Span.toJson (s : Span) : Json :=
  .arr (([s.start, s.stop].flatMap fun p => [p.offset, p.line, p.col]).map ofNat)

/-- A problem with its message as shown to a user. -/
def Problem.toJson (p : Problem) : Json :=
  .obj [("msg", .str p.message), ("span", p.span.toJson),
    ("level", .str (match p.severity with | .error => "error" | .warning => "warning")),
    ("display", .str p.render)]

end Source

namespace Markup

/-- A view of an attribute. -/
def Attribute.toJson (a : Attribute) : Json :=
  .obj [("name", .str a.name), ("value", .str a.value), ("span", a.span.toJson),
    ("valueSpan", ofOption (·.toJson) a.valueSpan)]

mutual

/-- A view of a node. -/
def Node.toJson : Node → Json
  | .text value span => .obj [("text", .str value), ("span", span.toJson)]
  | .comment value span => .obj [("comment", .str value), ("span", span.toJson)]
  | .expansion (.mk switch kind cases span) =>
    .obj [("expansion", .obj [("switch", .str switch), ("kind", .str kind),
      ("cases", .arr (casesToJson cases))]), ("span", span.toJson)]
  | .element head children span endSpan =>
    .obj [("element", .str head.name), ("attrs", .arr (head.attrs.map (·.toJson))),
      ("children", .arr (nodesToJson children)), ("span", span.toJson),
      ("startSpan", head.startSpan.toJson), ("endSpan", ofOption (·.toJson) endSpan),
      ("selfClosing", .bool head.selfClosing)]

/-- Views of several nodes. -/
def nodesToJson : List Node → List Json
  | [] => []
  | n :: ns => n.toJson :: nodesToJson ns

/-- Views of the cases of an expansion. -/
def casesToJson : List Case → List Json
  | [] => []
  | .mk value nodes span :: cs =>
    .obj [("value", .str value), ("nodes", .arr (nodesToJson nodes)), ("span", span.toJson)] ::
      casesToJson cs

end

/-- A view of an expansion. -/
def Expansion.toJson : Expansion → Json
  | .mk switch kind cases _ =>
    .obj [("switch", .str switch), ("kind", .str kind), ("cases", .arr (casesToJson cases))]

/-- A view of a source read as markup. -/
def Document.toJson (d : Document) : Json :=
  .obj [("nodes", .arr (nodesToJson d.nodes)), ("errors", .arr (d.problems.map (·.toJson)))]

end Markup

namespace Template

/-- A view of a literal attribute. -/
def TextAttr.toJson (a : TextAttr) : Json :=
  .obj [("name", .str a.name), ("value", .str a.value), ("span", a.span.toJson),
    ("valueSpan", ofOption (·.toJson) a.valueSpan), ("i18n", .bool a.i18n)]

/-- The name of a kind of binding. -/
def BindingKind.label : BindingKind → String
  | .property => "Property"
  | .attr => "Attribute"
  | .cls => "Class"
  | .style => "Style"
  | .twoWay => "TwoWay"

/-- A view of an input. -/
def Input.toJson (i : Input) : Json :=
  .obj [("name", .str i.name), ("type", .str i.kind.label), ("value", .str i.value),
    ("span", i.span.toJson)]

/-- A view of a binder. -/
def Binder.toJson (b : Binder) : Json := .arr [.str b.name, .str b.value, b.span.toJson]

/-- A view of an event. -/
def Output.toJson (o : Output) : Json := .arr [.str o.name, .str o.handler, o.span.toJson]

/-- A view of a hoisted attribute. -/
def HoistedAttr.toJson : HoistedAttr → Json
  | .text a => .obj [("text", a.toJson)]
  | .bound i => .obj [("bound", i.toJson)]

/-- The members that elements and templates share. -/
def Attrs.members (a : Attrs) (extent : Extent) : List (String × Json) :=
  [("attributes", .arr (a.attributes.map (·.toJson))), ("inputs", .arr (a.inputs.map (·.toJson))),
   ("outputs", .arr (a.outputs.map (·.toJson))),
   ("references", .arr (a.references.map (·.toJson))), ("span", extent.span.toJson),
   ("startSpan", extent.startSpan.toJson), ("endSpan", ofOption (·.toJson) extent.endSpan)]

mutual

/-- A view of a template node. -/
def Node.toJson : Node → Json
  | .text value span => .obj [("text", .str value), ("span", span.toJson)]
  | .boundText value span => .obj [("boundText", .str value), ("span", span.toJson)]
  | .icu e span => .obj [("icu", e.toJson), ("span", span.toJson)]
  | .content selector attributes children span =>
    .obj [("content", .str selector), ("attributes", .arr (attributes.map (·.toJson))),
      ("children", .arr (nodesToJson children)), ("span", span.toJson)]
  | .element name attrs children extent =>
    .obj (("element", .str name) :: ("children", .arr (nodesToJson children)) ::
      attrs.members extent)
  | .template tag attrs hoisted locals children extent =>
    .obj (("template", ofOption .str tag) :: ("children", .arr (nodesToJson children)) ::
      ("templateAttrs", .arr (hoisted.map (·.toJson))) ::
      ("variables", .arr (locals.map (·.toJson))) :: attrs.members extent)

/-- Views of several template nodes. -/
def nodesToJson : List Node → List Json
  | [] => []
  | n :: ns => n.toJson :: nodesToJson ns

end

/-- A view of a template. -/
def Yield.toJson (y : Yield) : Json :=
  .obj [("nodes", .arr (nodesToJson y.nodes)), ("errors", .arr (y.problems.map (·.toJson))),
    ("styles", ofStrings y.styles)]

/-- A view of what a `*` attribute stands for. -/
def Hoist.toJson (h : Hoist) : Json :=
  .obj [("attrs", .arr (h.attrs.map fun a => match a with
      | .text t => .obj [("name", .str t.name), ("text", .str t.value)]
      | .bound i => .obj [("name", .str i.name), ("bound", .str i.value),
          ("type", .str i.kind.label)])),
    ("variables", .arr (h.locals.map fun v => Json.ofPair (v.name, v.value)))]

end Template

namespace Style

/-- A view of a declaration. -/
def Declaration.toJson (d : Declaration) : Json :=
  .arr [.str d.property, .str d.value, .bool d.important]

mutual

/-- A view of a rule. -/
def Rule.toJson : Rule → Json
  | .style selectors ds span =>
    .obj [("selectors", ofStrings selectors), ("declarations", .arr (ds.map (·.toJson))),
      ("span", span.toJson)]
  | .at name prelude block span =>
    .obj [("at", .str name), ("prelude", .str prelude), ("span", span.toJson),
      ("block", match block with | some b => b.toJson | none => .null)]

/-- A view of the block of an at-rule. -/
def Block.toJson : Block → Json
  | .rules rs => .obj [("rules", .arr (rulesToJson rs))]
  | .declarations ds => .obj [("declarations", .arr (ds.map (·.toJson)))]

/-- Views of several rules. -/
def rulesToJson : List Rule → List Json
  | [] => []
  | r :: rs => r.toJson :: rulesToJson rs

end

/-- A view of a style sheet. -/
def Sheet.toJson (s : Sheet) : Json :=
  .obj [("rules", .arr (rulesToJson s.rules)), ("errors", .arr (s.problems.map (·.toJson)))]

end Style

namespace Selector

mutual

/-- A view of a selector. -/
def toJson : Selector → Json
  | ⟨element, classes, attrs, nots⟩ =>
    let s : Selector := ⟨element, classes, attrs, nots⟩
    .obj [("element", ofOption .str element), ("classes", ofStrings classes),
      ("attrs", .arr (attrs.map Json.ofPair)), ("not", .arr (allToJson nots)),
      ("display", .str s.render), ("isElement", .bool s.isElement),
      ("hasElement", .bool s.hasElement)]

/-- Views of several selectors. -/
def allToJson : List Selector → List Json
  | [] => []
  | s :: ss => s.toJson :: allToJson ss

end

end Selector

end ComponentAtlas
