import ComponentAtlas.Roles.Injection

/-!
# Injectable classes

* `Work.injectable`: the analysis of an injectable class;
* `Context.injectableHandler`: the handler of injectable classes.
-/

namespace ComponentAtlas

open ComponentAtlas.Script

namespace Work

/-- Where a class is provided; values that say nothing are passed over with a remark. -/
def providedIn? (f : Fields) (name : String) : Work (Option ProvidedIn) := do
  match ← f.value? "providedIn" with
  | none | some .null => return none
  | some (.string scope) => return some (.scope scope)
  | some (.reference r) => return some (.module r)
  | some other =>
    remark s!"{name}: ignoring providedIn {other.render}"
    return none

/-- The first way to make the value that a decorator gives. -/
def use? (f : Fields) : List UseKind → Work (Option (UseKind × Value))
  | [] => return none
  | kind :: kinds => do
    match ← f.value? kind.key with
    | some value => return some (kind, value)
    | none => use? f kinds

/-- The analysis of an injectable class. -/
def injectable (cx : Context) (id : DeclarationId) (detected : Detected) : Work (Findings Analysis) := do
  let (deps, problems) ← dependencies cx id
  let reference := cx.program.reference id
  let plain : InjectableAnalysis := { reference, deps, isCompiled := detected.decorator.isNone }
  match detected.decorator with
  | none => return { analysis := some (.injectable plain), diagnostics := problems }
  | some decorator =>
    let file := (cx.declaration id).file
    match decorator.options? file true with
    | .error problem => return { analysis := some (.injectable plain), diagnostics := problems ++ [problem] }
    | .ok none => return { analysis := some (.injectable plain), diagnostics := problems }
    | .ok (some object) =>
      let f : Fields := ⟨cx, object, file⟩
      let providedIn ← providedIn? f reference.name
      let use ← use? f UseKind.all
      return {
        analysis := some (.injectable { plain with providedIn, use })
        diagnostics := problems ++ (← get).diagnostics }

end Work

/-- The handler of injectable classes. -/
def Context.injectableHandler (cx : Context) : Handler World Analysis Resolution where
  detect := cx.detect .injectable
  analyze id detected := (Work.injectable cx id detected).routine
  register id _ := (Work.register (·.note (cx.declaration id).file id .injectable)).routine

end ComponentAtlas
