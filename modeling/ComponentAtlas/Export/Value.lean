import ComponentAtlas.Export.Program
import ComponentAtlas.Provider

/-!
# Structured views of values and providers
-/

namespace ComponentAtlas

open Json (ofOption ofNat ofInt ofStrings)

/-- Number, name and file of what is referred to. -/
def Reference.toJson (r : Reference) : Json := .arr [ofNat r.id, .str r.name, .str r.file]

mutual

/-- A view of a value. -/
def Value.toJson : Value → Json
  | .string s => .obj [("t", .str "string"), ("v", .str s)]
  | .boolean b => .obj [("t", .str "boolean"), ("v", .bool b)]
  | .number x => .obj [("t", .str "number"), ("v", .str (Number.display x))]
  | .null => .obj [("t", .str "null")]
  | .undefined => .obj [("t", .str "undefined")]
  | .array items => .obj [("t", .str "array"), ("v", .arr (valuesToJson items))]
  | .map entries => .obj [("t", .str "map"), ("v", .arr (entriesToJson entries))]
  | .reference r => .obj [("t", .str "ref"), ("v", r.toJson)]
  | .dynamic d => d.toJson

/-- Views of several values. -/
def valuesToJson : List Value → List Json
  | [] => []
  | v :: vs => v.toJson :: valuesToJson vs

/-- Views of the entries of an object. -/
def entriesToJson : List (String × Value) → List Json
  | [] => []
  | (k, v) :: es => .arr [.str k, v.toJson] :: entriesToJson es

/-- A view of a value that is not known. -/
def Dynamic.toJson : Dynamic → Json
  | .mk node file reason =>
    .obj [("t", .str "dynamic"), ("node", .str node.kindName), ("text", .str node.render),
      ("s", node.range.toJson), ("file", .str file), ("reason", .obj reason.members)]

/-- The kind and the parts of a reason. -/
def Reason.members : Reason → List (String × Json)
  | .unknownIdentifier name => [("kind", .str "UnknownIdentifier"), ("name", .str name)]
  | .external module name => [("kind", .str "External"), ("module", .str module), ("name", .str name)]
  | .wholeModule file => [("kind", .str "NamespaceImport"), ("file", .str file)]
  | .unsupportedSyntax label => [("kind", .str "UnsupportedSyntax"), ("syntax", .str label)]
  | .functionValue => [("kind", .str "FunctionValue")]
  | .unknownCall => [("kind", .str "UnknownCall")]
  | .declaredCall name file => [("kind", .str "DeclaredCall"), ("name", .str name), ("file", .str file)]
  | .dynamicImport => [("kind", .str "DynamicImport")]
  | .invalidOperand what => [("kind", .str "InvalidExpressionType"), ("what", .str what)]
  | .circular name => [("kind", .str "CircularReference"), ("name", .str name)]
  | .tooDeep => [("kind", .str "DepthExceeded")]
  | .input inner => [("kind", .str "DynamicInput"), ("inner", inner.toJson)]

end

/-- A view of a binding. -/
def Provider.toJson (p : Provider) : Json :=
  .obj [("name", .str p.provide.render), ("provide", p.provide.toJson), ("use", .str p.use.key),
    ("value", p.value.toJson), ("multi", .bool p.multi)]

/-- A view of an entry of a list of providers. -/
def ProviderEntry.toJson : ProviderEntry → Json
  | .cls provide target =>
    .obj [("class", target.toJson), ("provide", ofOption (·.toJson) provide), ("name", .str target.name)]
  | .provider p => .obj [("provider", p.toJson), ("name", .str p.provide.render)]

mutual

/-- The value that a structured value stands for. -/
def Value.ofJson : Json → Value
  | .null => .null
  | .bool b => .boolean b
  | .num d => .number d.toFloat
  | .str s => .string s
  | .arr items => .array (valuesOfJson items)
  | .obj members => .map (entriesOfJson members)

/-- The values that structured values stand for. -/
def valuesOfJson : List Json → List Value
  | [] => []
  | j :: js => Value.ofJson j :: valuesOfJson js

/-- The entries that the members of an object stand for. -/
def entriesOfJson : List (String × Json) → List (String × Value)
  | [] => []
  | (k, j) :: ms => (k, Value.ofJson j) :: entriesOfJson ms

end

end ComponentAtlas
