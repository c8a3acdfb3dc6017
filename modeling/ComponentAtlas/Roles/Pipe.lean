import ComponentAtlas.Roles.Injection

/-!
# Pipes

* `Work.pipe`: the analysis of a pipe;
* `Context.pipeHandler`: the handler of pipes.
-/

namespace ComponentAtlas

open ComponentAtlas.Script

/-- The analysis of a pipe. -/
def Work.pipe (cx : Context) (id : DeclarationId) (detected : Detected) : Work (Findings Analysis) := do
  let (deps, problems) ← dependencies cx id
  match detected.decorator with
  | none =>
    let info := (cx.metadata (← get).world).pipe? id
    return { analysis := info.map fun info => .pipe {
      reference := info.reference, pipeName := info.name, isStandalone := info.isStandalone
      deps, isCompiled := true } }
  | some decorator =>
    let file := (cx.declaration id).file
    match decorator.options? file false with
    | .error problem => return { diagnostics := [problem] }
    | .ok none => return {}
    | .ok (some object) =>
      let f : Fields := ⟨cx, object, file⟩
      let name ← f.string? "name"
      if name.isNone && (f.raw? "name").isNone then
        report (Fault.error .pipeMissingName file object.range "@Pipe decorator is missing name field")
      let isPure := (← f.boolean? "pure").getD true
      let isStandalone := (← f.boolean? "standalone").getD false
      return {
        analysis := name.map fun pipeName => .pipe {
          reference := cx.program.reference id, pipeName, isPure, isStandalone, deps }
        diagnostics := problems ++ (← get).diagnostics }

/-- The handler of pipes. -/
def Context.pipeHandler (cx : Context) : Handler World Analysis Resolution where
  detect := cx.detect .pipe
  analyze id detected := (Work.pipe cx id detected).routine
  register _ a := Work.routine do
    match a with
    | .pipe p => Work.register (·.addPipe p.info)
    | _ => return

end ComponentAtlas
