import ComponentAtlas.Diagnostic.Failure
import ComponentAtlas.Json.Basic
import ComponentAtlas.Program.Names

/-!
# Structured views of scripts, programs and diagnostics
-/

namespace ComponentAtlas

open Json (ofOption ofNat ofInt ofStrings)

namespace Script

/-- Both ends of a range. -/
def Range.toJson (r : Range) : Json := .arr [ofNat r.start, ofNat r.stop]

mutual

/-- A view of an expression. -/
def Expr.toJson : Expr → Json
  | .node shape range => .obj (shape.members ++ [("s", range.toJson)])

/-- The kind and the parts of an expression. -/
def Shape.members : Shape → List (String × Json)
  | .string v => [("k", .str "string"), ("v", .str v)]
  | .number v => [("k", .str "number"), ("v", .str (Number.render v))]
  | .boolean v => [("k", .str "boolean"), ("v", .bool v)]
  | .null => [("k", .str "null")]
  | .template quasis exprs =>
    [("k", .str "template"), ("quasis", ofStrings quasis), ("exprs", .arr (exprsToJson exprs))]
  | .ident name => [("k", .str "ident"), ("v", .str name)]
  | .property object name => [("k", .str "prop"), ("object", object.toJson), ("property", .str name)]
  | .element object index => [("k", .str "elem"), ("object", object.toJson), ("index", index.toJson)]
  | .call callee args =>
    [("k", .str "call"), ("callee", callee.toJson), ("args", .arr (elementsToJson args))]
  | .new callee args =>
    [("k", .str "new"), ("callee", callee.toJson), ("args", .arr (elementsToJson args))]
  | .array items => [("k", .str "array"), ("items", .arr (elementsToJson items))]
  | .object members => [("k", .str "object"), ("members", .arr (membersToJson members))]
  | .function params body =>
    [("k", .str "function"), ("params", ofStrings params),
     ("body", match body with | some e => e.toJson | none => .null)]
  | .dynamicImport source => [("k", .str "import"), ("source", source.toJson)]
  | .unary operator argument =>
    [("k", .str "unary"), ("operator", .str operator), ("argument", argument.toJson)]
  | .binary operator left right =>
    [("k", .str "binary"), ("operator", .str operator), ("left", left.toJson), ("right", right.toJson)]
  | .conditional test yes no =>
    [("k", .str "conditional"), ("test", test.toJson), ("then", yes.toJson), ("else", no.toJson)]
  | .unsupported label => [("k", .str "unsupported"), ("v", .str label)]

/-- Views of several expressions. -/
def exprsToJson : List Expr → List Json
  | [] => []
  | e :: es => e.toJson :: exprsToJson es

/-- Views of the entries of an array or argument list. -/
def elementsToJson : List Element → List Json
  | [] => []
  | .item e :: es => e.toJson :: elementsToJson es
  | .spread e :: es => .obj [("spread", e.toJson)] :: elementsToJson es
  | .hole :: es => .obj [("hole", .bool true)] :: elementsToJson es

/-- Views of the members of an object. -/
def membersToJson : List Member → List Json
  | [] => []
  | .entry (.fixed key) value :: ms =>
    .obj [("key", .str key), ("value", value.toJson)] :: membersToJson ms
  | .entry (.computed key) value :: ms =>
    .obj [("computed", key.toJson), ("value", value.toJson)] :: membersToJson ms
  | .spread e :: ms => .obj [("spread", e.toJson)] :: membersToJson ms

end

mutual

/-- A view of a type. -/
def TypeNode.toJson : TypeNode → Json
  | .reference name args => .obj [("ref", .str name), ("args", .arr (typesToJson args))]
  | .query name => .obj [("query", .str name)]
  | .tuple items => .obj [("tuple", .arr (typesToJson items))]
  | .string value => .obj [("str", .str value)]
  | .union items => .obj [("union", .arr (typesToJson items))]
  | .keyword name => .obj [("kw", .str name)]
  | .unknown => .obj [("unknown", .bool true)]

/-- Views of several types. -/
def typesToJson : List TypeNode → List Json
  | [] => []
  | t :: ts => t.toJson :: typesToJson ts

end

/-- A view of a decorator. -/
def Decorator.toJson (d : Decorator) : Json :=
  .obj [("name", .str d.name), ("import", ofOption .str d.origin), ("s", d.range.toJson),
    ("args", ofOption (fun args => .arr (args.map (·.toJson))) d.args)]

/-- The name of a kind of member. -/
def MemberKind.name : MemberKind → String
  | .property => "Property"
  | .method => "Method"
  | .getter => "Getter"
  | .setter => "Setter"

/-- A view of a class member. -/
def ClassMember.toJson (m : ClassMember) : Json :=
  .obj [("name", .str m.name), ("kind", .str m.kind.name), ("static", .bool m.isStatic),
    ("value", ofOption (·.toJson) m.value), ("type", ofOption (·.toJson) m.type),
    ("decorators", .arr (m.decorators.map (·.toJson))), ("params", ofStrings m.params),
    ("returns", ofOption (·.toJson) m.returns), ("s", m.range.toJson)]

/-- A view of a constructor parameter. -/
def Parameter.toJson (p : Parameter) : Json :=
  .obj [("name", ofOption .str p.name), ("type", ofOption (·.toJson) p.type),
    ("decorators", .arr (p.decorators.map (·.toJson))), ("s", p.range.toJson)]

/-- A view of a class. -/
def ClassBody.toJson (c : ClassBody) : Json :=
  .obj [("decorators", .arr (c.decorators.map (·.toJson))),
    ("members", .arr (c.members.map (·.toJson))),
    ("ctor", ofOption (fun ps => .arr (ps.map (·.toJson))) c.constructor?),
    ("heritage", ofOption (·.toJson) c.heritage), ("ambient", .bool c.isAmbient),
    ("abstract", .bool c.isAbstract)]

/-- A view of the kind of a declaration. -/
def DeclarationKind.toJson : DeclarationKind → Json
  | .cls body => .obj [("class", body.toJson)]
  | .binding value type =>
    .obj [("variable", .obj [("init", ofOption (·.toJson) value),
      ("display", ofOption (fun e => .str e.render) value),
      ("kindName", ofOption (fun e => .str e.kindName) value),
      ("type", ofOption (·.toJson) type)])]
  | .function params returns =>
    .obj [("function", .obj [("params", ofStrings params), ("returns", ofOption (·.toJson) returns)])]
  | .enumeration members =>
    .obj [("enum", .arr (members.map fun m =>
      .obj [("name", .str m.name), ("init", ofOption (·.toJson) m.value)]))]

/-- A view of a declaration. -/
def Declaration.toJson (d : Declaration) : Json :=
  .obj [("id", ofNat d.id), ("name", .str d.name), ("file", .str d.file), ("s", d.range.toJson),
    ("exported", .bool d.exported), ("kind", d.kind.toJson)]

/-- Number, name and file of a declaration. -/
def Declaration.keyToJson (d : Declaration) : Json := .arr [ofNat d.id, .str d.name, .str d.file]

/-- A view of an import. -/
def Import.toJson (i : Import) : Json :=
  let imported : Json := match i.imported with
    | .named n => .obj [("named", .str n)]
    | .default => .str "default"
    | .whole => .str "namespace"
  .arr [.str i.localName, imported, .str i.module]

/-- A view of an export. -/
def Export.toJson : Export → Json
  | .own exported localName => .obj [("local", ofStrings [exported, localName])]
  | .reexport exported name module => .obj [("reexport", ofStrings [exported, name, module])]
  | .star module => .obj [("star", .str module)]

end Script

/-- The name of a category. -/
def Category.name : Category → String
  | .warning => "Warning"
  | .error => "Error"
  | .suggestion => "Suggestion"
  | .message => "Message"

mutual

/-- A view of the text of a diagnostic. -/
def Chain.toJson : Chain → Json
  | .text s => .str s
  | .chain s category code next =>
    .obj [("text", .str s), ("category", .str category.name), ("code", ofInt code),
      ("next", match next with | some cs => .arr (chainsToJson cs) | none => .null)]

/-- Views of several texts. -/
def chainsToJson : List Chain → List Json
  | [] => []
  | c :: cs => c.toJson :: chainsToJson cs

end

/-- A view of a remark. -/
def Related.toJson (r : Related) : Json :=
  .obj [("category", .str r.category.name), ("code", ofInt r.code), ("file", ofOption .str r.file),
    ("start", ofOption ofNat r.start), ("length", ofOption ofNat r.length), ("message", .str r.message)]

/-- A view of a diagnostic. Of a malformed source only the file counts. -/
def Diagnostic.toJson (d : Diagnostic) : Json :=
  if d.code == syntaxCode then .obj [("syntax", ofOption .str d.file)]
  else
    .obj [("category", .str d.category.name), ("code", ofInt d.code), ("file", ofOption .str d.file),
      ("start", ofNat d.start), ("length", ofNat d.length), ("message", d.message.toJson),
      ("related", ofOption (fun rs => .arr (rs.map (·.toJson))) d.related),
      ("display", .str d.render)]

/-- A view of what a name refers to. -/
def Target.toJson (p : Program) : Target → Json
  | .declaration id => .obj [("decl", ofOption (·.keyToJson) (p.declaration? id))]
  | .whole file => .obj [("namespace", .str file)]
  | .external module name => .obj [("external", ofStrings [module, name])]

namespace Program

/-- A view of everything that a program holds. -/
def dump (p : Program) : Json :=
  .arr (p.files.map fun f => .obj [("path", .str f.path), ("dts", .bool f.isDeclarationFile),
    ("imports", .arr (f.imports.map (·.toJson))), ("exports", .arr (f.exports.map (·.toJson))),
    ("declarations", .arr ((f.declarations.filterMap p.declaration?).map (·.toJson)))])

/-- A view of a failure to build a program. -/
def Failure.toJson : Failure → Json
  | .fileNotFound path =>
    .obj [("error", .str "FileNotFound"), ("message", .str (Failure.fileNotFound path).message)]
  | .noInputFiles => .obj [("error", .str "NoInputFiles"), ("message", .str Failure.noInputFiles.message)]
  | .invalidPattern pattern => .obj [("error", .str "InvalidPattern"), ("pattern", .str pattern)]

end Program

namespace Failure

/-- The kind of a failure, and what belongs to it beside its message. -/
def members : Failure → List (String × Json)
  | .analysis name ds =>
    [("error", .str "Analysis"), ("name", .str name), ("diagnostics", .arr (ds.map (·.toJson)))]
  | .skipped _ => [("error", .str "Skipped")]
  | .configuration _ => [("error", .str "Configuration")]
  | .reentrancy trail => [("error", .str "Reentrancy"), ("trail", ofStrings trail)]
  | .serviceCycle trail => [("error", .str "ServiceCycle"), ("trail", ofStrings trail)]
  | .malformedInput _ => [("error", .str "MalformedInput")]
  | .lazyRouteCycle trail => [("error", .str "LazyRouteCycle"), ("trail", ofStrings trail)]

/-- A view of a failure. -/
def toJson (f : Failure) : Json :=
  .obj (f.members ++ [("message", .str f.message), ("fatal", .bool f.isFatal)])

end Failure

end ComponentAtlas
