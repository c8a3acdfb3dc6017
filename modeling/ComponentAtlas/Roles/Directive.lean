import ComponentAtlas.Roles.Injection

/-!
# Directives

* `Bindings.ofList`: inputs and outputs as a decorator lists them;
* `Work.directiveData`: what directives and components have in common;
* `Context.directiveHandler`: the handler of directives.
-/

namespace ComponentAtlas

open ComponentAtlas.Script

/-- Public names by property, from entries such as `property` and `property: name`. -/
def Bindings.ofList (entries : List String) : Table String String :=
  entries.foldl (fun table entry =>
    match Text.splitOnce ':' entry.toList with
    | some (property, shown) =>
      Table.put (Text.trimmed (String.ofList property)) (Text.trimmed (String.ofList shown)) table
    | none => Table.put (Text.trimmed entry) (Text.trimmed entry) table) []

namespace Work

/-- The public name that a decorator of a member gives: a text, or the `alias` of an object. -/
def alias? (cx : Context) (file : String) (d : Decorator) : Work (Option String) := do
  match d.firstArg? with
  | none => return none
  | some arg =>
    match ← evaluate cx arg file with
    | .string name => return some name
    | other => return (other.get? "alias").bind Value.asString?

/-- The members with a decorator, and their public names. -/
def memberBindings (cx : Context) (file decorator : String) :
    List ClassMember → Table String String → Work (Table String String)
  | [], table => return table
  | m :: ms, table => do
    match findDecorator? decorator m.decorators with
    | none => memberBindings cx file decorator ms table
    | some d =>
      let name := (← alias? cx file d).getD m.name
      memberBindings cx file decorator ms (Table.put m.name name table)

/-- What directives and components have in common. -/
def directiveData (id : DeclarationId) (f : Fields) (deps : Option (List Dependency)) : Work DirectiveData := do
  let cx := f.cx
  let file := (cx.declaration id).file
  let members := ((cx.program.cls? id).map (·.members)).getD []
  let selector ← f.string? "selector"
  let exportAs := (← f.string? "exportAs").map fun s => (Text.splitOn ',' s).map Text.trimmed
  let inputs := Bindings.ofList (← f.strings "inputs" false)
  let inputs := Table.extend inputs (← memberBindings cx file "Input" members [])
  let outputs := Bindings.ofList (← f.strings "outputs" false)
  let outputs := Table.extend outputs (← memberBindings cx file "Output" members [])
  let host ← f.stringMap "host"
  let isStandalone := (← f.boolean? "standalone").getD false
  return { reference := cx.program.reference id, selector, exportAs, inputs, outputs, host, isStandalone, deps }

/-- What a compiled directive or component has. -/
def compiledDirective? (cx : Context) (id : DeclarationId) (deps : Option (List Dependency)) :
    Work (Option DirectiveData) := do
  let info := (cx.metadata (← get).world).directive? id
  return info.map fun info =>
    { reference := info.reference, selector := info.selector, exportAs := info.exportAs
      inputs := (info.inputs.map fun name => (name, name)).foldl (fun t e => Table.put e.1 e.2 t) []
      outputs := (info.outputs.map fun name => (name, name)).foldl (fun t e => Table.put e.1 e.2 t) []
      isStandalone := info.isStandalone, deps }

/-- The analysis of a directive. -/
def directive (cx : Context) (id : DeclarationId) (detected : Detected) : Work (Findings Analysis) := do
  let (deps, problems) ← dependencies cx id
  match detected.decorator with
  | none =>
    let data ← compiledDirective? cx id deps
    return { analysis := data.map fun data => .directive { data, isCompiled := true } }
  | some decorator =>
    let d := cx.declaration id
    match decorator.options? d.file true with
    | .error problem => return { diagnostics := [problem] }
    | .ok none =>
      -- without options the directive is abstract
      let data := { reference := cx.program.reference id, deps }
      return { analysis := some (.directive { data }), diagnostics := problems }
    | .ok (some object) =>
      let f : Fields := ⟨cx, object, d.file⟩
      let data ← directiveData id f deps
      let isAbstract := (d.cls?.map (·.isAbstract)).getD false
      if data.selector.isNone && !isAbstract then
        report (Fault.error .directiveMissingSelector d.file object.range
          s!"Directive {d.name} has no selector, please add it!")
      return {
        analysis := some (.directive { data, providers := f.source? "providers" })
        diagnostics := problems ++ (← get).diagnostics }

end Work

/-- The handler of directives. -/
def Context.directiveHandler (cx : Context) : Handler World Analysis Resolution where
  detect := cx.detect .directive
  analyze id detected := (Work.directive cx id detected).routine
  register _ a := Work.routine do
    match a with
    | .directive d => Work.register (·.addDirective (d.data.info false []))
    | _ => return

end ComponentAtlas
