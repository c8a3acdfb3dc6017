import ComponentAtlas.Export.Markup
import ComponentAtlas.Export.Scope
import ComponentAtlas.Workspace.Routes
import ComponentAtlas.Workspace.Views

/-!
# Structured views of what a workspace answers
-/

namespace ComponentAtlas

open Json (ofOption ofNat ofInt ofStrings)

/-- Role, name and file of a class. -/
def Symbol.toJson (s : Symbol) : Json := .arr [.str s.role.name, .str s.name, .str s.path]

/-- A view of what answers a request. -/
def Supply.toJson : Supply → Json
  | .symbol s => .obj [("symbol", s.toJson), ("name", .str s.name), ("isSymbol", .bool true)]
  | .provider p =>
    .obj [("provider", p.toJson), ("name", .str p.provide.render), ("isSymbol", .bool false)]

/-! ### Analyses -/

/-- Name and file of what is referred to. -/
def Reference.place (r : Reference) : Json := .obj [("name", .str r.name), ("file", .str r.file)]

/-- Names and files of what is referred to. -/
def places (rs : List Reference) : Json := .arr (rs.map (·.place))

/-- Keys and values of a table. -/
def pairsToJson (t : Table String String) : Json := .arr (t.map Json.ofPair)

/-- A view of what a constructor parameter asks for. -/
def Dependency.toJson (d : Dependency) : Json :=
  .obj [("tokenName", ofOption .str d.tokenName), ("attribute", ofOption .str d.attributeName),
    ("flags", ofStrings d.flags.names), ("paramName", ofOption .str d.paramName)]

/-- A view of what a constructor asks for. -/
def depsToJson (ds : Option (List Dependency)) : Json := ofOption (fun ds => .arr (ds.map (·.toJson))) ds

/-- A view of what directives and components have in common. -/
def DirectiveData.toJson (d : DirectiveData) : Json :=
  .obj [("reference", d.reference.place), ("selector", ofOption .str d.selector),
    ("exportAs", ofOption ofStrings d.exportAs), ("inputs", pairsToJson d.inputs),
    ("outputs", pairsToJson d.outputs), ("host", pairsToJson d.host),
    ("isStandalone", .bool d.isStandalone), ("deps", depsToJson d.deps)]

/-- A view of the template of a component. -/
def ComponentTemplate.toJson (t : ComponentTemplate) : Json :=
  .obj [("content", .str t.content), ("templateUrl", ofOption .str t.url),
    ("resolvedUrl", ofOption .str t.resolvedUrl)]

/-- A view of the style sheets of a component. -/
def ComponentStyles.toJson (s : ComponentStyles) : Json :=
  .obj [("inline", ofStrings s.inline), ("external", .arr (s.external.map fun e =>
    .obj [("url", .str e.url), ("resolvedUrl", .str e.resolvedUrl), ("content", .str e.content)]))]

/-- A view of where a class is provided. -/
def ProvidedIn.toJson : ProvidedIn → Json
  | .scope name => .obj [("scope", .str name)]
  | .module r => .obj [("module", r.place)]

/-- The name of a way to make a value. -/
def UseKind.label : UseKind → String
  | .value => "value"
  | .factory => "factory"
  | .existing => "existing"
  | .cls => "class"

/-- A view of an analysis. -/
def Analysis.toJson : Analysis → Json
  | .ngModule m =>
    .obj [("reference", m.reference.place), ("declarations", places m.declarations),
      ("imports", places m.imports), ("exports", places m.exports), ("bootstrap", places m.bootstrap),
      ("schemas", ofStrings m.schemas), ("id", ofOption .str m.id), ("isCompiled", .bool m.isCompiled)]
  | .component c =>
    .obj [("meta", c.data.toJson), ("template", ofOption (·.toJson) c.template), ("styles", c.styles.toJson),
      ("changeDetection", ofOption (fun x => .str (ChangeDetection.name x)) c.changeDetection),
      ("encapsulation", .str c.encapsulation.name), ("imports", places c.imports),
      ("isCompiled", .bool c.isCompiled)]
  | .directive d => .obj [("meta", d.data.toJson), ("isCompiled", .bool d.isCompiled)]
  | .pipe p =>
    .obj [("reference", p.reference.place), ("pipeName", .str p.pipeName), ("pure", .bool p.isPure),
      ("isStandalone", .bool p.isStandalone), ("deps", depsToJson p.deps), ("isCompiled", .bool p.isCompiled)]
  | .injectable i =>
    .obj [("reference", i.reference.place), ("providedIn", ofOption (·.toJson) i.providedIn),
      ("useKind", ofOption (fun u => .str (UseKind.label u.1)) i.use), ("deps", depsToJson i.deps),
      ("isCompiled", .bool i.isCompiled)]

/-- A view of the token that a constructor parameter asks for. -/
def Dependency.tokenToJson (d : Dependency) : Json :=
  .obj [("token", ofOption (·.toJson) d.token), ("attribute", .bool d.attributeName.isSome),
    ("optional", .bool d.flags.optional)]

/-! ### Templates and routes -/

namespace Template

/-- The members that show a node without its children. -/
def BoundHead.members (h : BoundHead) : List (String × Json) :=
  [("name", .str h.name), ("namespace", ofOption .str h.space),
    ("component", ofOption (·.toJson) h.component), ("directives", .arr (h.directives.map (·.toJson))),
    ("attributes", .arr (h.attributes.map Json.ofPair)), ("inputs", ofStrings h.inputs),
    ("outputs", ofStrings h.outputs), ("references", .arr (h.references.map Json.ofPair)),
    ("variables", .arr (h.locals.map Json.ofPair)), ("span", h.span.toJson)]

mutual

/-- A view of a node of a bound template. -/
def BoundNode.toJson : BoundNode → Json
  | .mk head children => .obj (head.members ++ [("children", .arr (boundToJson children))])

/-- Views of the nodes of a bound template. -/
def boundToJson : List BoundNode → List Json
  | [] => []
  | n :: ns => n.toJson :: boundToJson ns

end

end Template

/-- Path, name, file and parent of a loaded module. -/
def LazyRoute.toJson (r : LazyRoute) : Json :=
  .arr [.str r.path, .str r.module.name, .str r.module.file, .str r.parent]

/-- A view of options, with the roots among the files of a host. -/
def Options.toJson (o : Options) (h : Host) : Json :=
  .obj [("rootDir", .str o.root), ("files", ofStrings o.files), ("include", ofStrings o.patterns),
    ("paths", .arr (o.paths.map fun e => .arr [.str e.1, ofStrings e.2])),
    ("strict", .bool o.strictInjectionParameters), ("maxProviderDepth", ofNat o.maxProviderDepth),
    ("maxEvaluationDepth", ofNat o.maxEvaluationDepth),
    ("logLevel", ofOption (fun l => .str (Level.label l)) o.logLevel),
    ("compiler", .obj [("rootDir", ofOption .str o.rootDir), ("baseUrl", ofOption .str o.baseUrl),
      ("paths", ofNat o.paths.length)]),
    ("roots", match o.roots h with
      | .ok roots => ofStrings roots
      | .error f => f.toJson)]

end ComponentAtlas
