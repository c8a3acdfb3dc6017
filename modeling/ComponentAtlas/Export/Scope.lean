import ComponentAtlas.Export.Value
import ComponentAtlas.Scope.Basic

/-!
# Structured views of scopes and of what is known about classes
-/

namespace ComponentAtlas

open Json (ofOption ofNat ofInt ofStrings)

/-- A view of a scope. -/
def Scope.toJson (s : Scope) : Json :=
  .obj [("directives", .arr (s.directives.map fun d =>
      .arr [ofNat d.reference.id, .str d.reference.name, ofOption .str d.selector, .bool d.isComponent])),
    ("pipes", .arr (s.pipes.map fun p =>
      .arr [ofNat p.reference.id, .str p.reference.name, .str p.name])),
    ("empty", .bool s.isEmpty)]

/-- A view of a directive or component. -/
def DirectiveInfo.toJson (d : DirectiveInfo) : Json :=
  .obj [("selector", ofOption .str d.selector), ("exportAs", ofOption ofStrings d.exportAs),
    ("inputs", ofStrings d.inputs), ("outputs", ofStrings d.outputs), ("component", .bool d.isComponent),
    ("standalone", .bool d.isStandalone), ("imports", .arr (d.imports.map (·.toJson)))]

/-- A view of a pipe. -/
def PipeInfo.toJson (p : PipeInfo) : Json :=
  .obj [("name", .str p.name), ("standalone", .bool p.isStandalone)]

/-- A view of a module. -/
def ModuleInfo.toJson (m : ModuleInfo) : Json :=
  .obj [("declarations", .arr (m.declarations.map (·.toJson))), ("imports", .arr (m.imports.map (·.toJson))),
    ("exports", .arr (m.exports.map (·.toJson)))]

end ComponentAtlas
