import ComponentAtlas.Proofs.Roles.Knowledge

/-!
# The order of questions about classes

The engine of the five roles gives the same answers in whatever order it is asked. Before the second
phase the registry knows exactly the classes that were analysed, and no scope was looked at. Once all
classes are known, two registries differ in their order only, and so do the scopes that are found.

* `World.Before`, `World.After`: the worlds that the handlers need and leave;
* `Context.analyze_yields`, `Context.register_yields`, `Context.resolve_yields`: what the handlers do;
* `Context.contract`: the contract of the five handlers;
* `Context.answers_whatever_asked`: two engines that were asked different things agree.
-/

namespace ComponentAtlas

open ComponentAtlas.Script

/-! ### Steps of a computation -/

namespace Work

variable {β : Type} {x : Work β} {w : World} {Q : β → World → Prop}

theorem notes_yields {b : β} (h : Q b w) (messages : List String) :
    (Routine.bind (Routine.notes messages) fun _ => .done b : Routine World Analysis Resolution β).Yields
      w Q := by
  induction messages with
  | nil => exact h
  | cons message messages ih => exact ih

/-- A computation asks nothing, and leaves the world of its desk. -/
theorem routine_yields (h : Q (x { world := w }).1 (x { world := w }).2.world) : x.routine.Yields w Q :=
  notes_yields h _

end Work

/-! ### Worlds -/

theorem Program.Numbered.reference_id {p : Program} (h : p.Numbered) (id : DeclarationId) :
    (p.reference id).id = id := by
  unfold Program.reference
  cases hd : p.declaration? id with
  | none => rfl
  | some d => exact h id d hd

namespace World

/-- A world before the second phase: it knows the classes that are done, and no scopes. -/
structure Before (cx : Context) (done : DeclarationId → Prop) (w : World) : Prop where
  loader : w.loader.Faithful cx.resources
  registry : w.registry.Knows cx done
  scopes : w.scopes = {}

/-- A world that knows all classes; the scopes found so far hold what they should. -/
structure After (cx : Context) (w : World) : Prop where
  loader : w.loader.Faithful cx.resources
  registry : w.registry.Knows cx fun _ => True
  scopes : Scoping.Full (cx.metadata w) w.scopes

variable {cx : Context} {id : DeclarationId} {done : DeclarationId → Prop} {w w' : World}

theorem before_new (cx : Context) (graph : FileGraph) :
    Before cx (fun _ => False) { loader := { graph } } where
  loader h := nomatch h
  registry := Registry.knows_new cx
  scopes := rfl

theorem Before.ready (h : w.Before cx done) (hid : ¬ done id) : w.Ready cx id where
  loader := h.loader
  directive := h.registry.directives.get?_of_not_done hid
  pipe := h.registry.pipes.get?_of_not_done hid
  module := h.registry.modules.get?_of_not_done hid

theorem After.sameFacts (h : w.After cx) (h' : w'.After cx) :
    (cx.metadata w).SameFacts (cx.metadata w') where
  directive := by
    funext k
    show (Table.get? k w.registry.directives).or _ = (Table.get? k w'.registry.directives).or _
    rw [h.registry.directives.get?_eq, h'.registry.directives.get?_eq]
  pipe := by
    funext k
    show (Table.get? k w.registry.pipes).or _ = (Table.get? k w'.registry.pipes).or _
    rw [h.registry.pipes.get?_eq, h'.registry.pipes.get?_eq]
  module := by
    funext k
    show (Table.get? k w.registry.modules).or _ = (Table.get? k w'.registry.modules).or _
    rw [h.registry.modules.get?_eq, h'.registry.modules.get?_eq]

end World

namespace Context

variable {cx : Context} {id : DeclarationId} {d : Declaration}
  {c : Engine.Claim World Analysis Resolution} {a : Analysis} {done : DeclarationId → Prop}
  {w w' : World}

/-! ### The first phase -/

/-- The first phase finds out the same in all worlds that do not know the class. -/
theorem analyze_yields (hc : cx.engine.claimed? id = some (d, c)) (hid : ¬ done id)
    (hw : w.Before cx done) :
    (c.handler.analyze id c.detected).Yields w fun f w' => f = cx.findings id ∧ w'.Before cx done := by
  have hnew : Desk.Alike cx id { world := w } { world := {} } :=
    ⟨rfl, hw.ready hid, (World.before_new cx {}).ready not_false⟩
  obtain ⟨hresult, -, halike, hregistry, hscopes⟩ :=
    analyze_local c.detected.role c.detected _ _ hnew
  rw [claim?_handler (Engine.claim?_of_claimed? hc), handler_analyze]
  refine Work.routine_yields ⟨?_, halike.left.loader, ?_, ?_⟩
  · rw [findings, hc]
    exact hresult
  · rw [hregistry]
    exact hw.registry
  · rw [hscopes]
    exact hw.scopes

/-- An analysis is one of the role that was recognised, and names its class. -/
theorem found?_concerns (hc : cx.engine.claimed? id = some (d, c)) (ha : cx.found? id = some a) :
    a.role = c.detected.role ∧ a.reference = cx.program.reference id := by
  have hready : World.Ready cx id {} := (World.before_new cx {}).ready not_false
  obtain ⟨-, hconcerns, -⟩ := analyze_local c.detected.role c.detected { world := {} } { world := {} }
    ⟨rfl, hready, hready⟩
  have hfindings := Engine.analysis_of_found? ha
  rw [findings, hc] at hfindings
  exact hconcerns a hfindings

theorem found?_reference (ha : cx.found? id = some a) : a.reference = cx.program.reference id := by
  obtain ⟨⟨d, c⟩, hc⟩ := Option.isSome_iff_exists.1 (Engine.claimed?_of_found? ha)
  exact (found?_concerns hc ha).2

theorem register_yields (hp : cx.program.Numbered) (hc : cx.engine.claimed? id = some (d, c))
    (ha : cx.found? id = some a) (hw : w.Before cx done) :
    (c.handler.register id a).Yields w fun _ w' => w'.Before cx fun k => done k ∨ k = id := by
  obtain ⟨hrole, hreference⟩ := found?_concerns hc ha
  rw [claim?_handler (Engine.claim?_of_claimed? hc), ← hrole, handler_register]
  refine Work.routine_yields ⟨hw.loader, hw.registry.learn ha ?_, hw.scopes⟩
  rw [hreference, hp.reference_id]

/-! ### The second phase -/

/-- Facts are filed under the class that they are about, whether it was analysed or compiled. -/
theorem metadata_filed (hp : cx.program.Numbered) (hw : w.After cx) : (cx.metadata w).Filed where
  directive_id := by
    intro id info h
    rcases Option.or_eq_some_iff.1 h with h | ⟨-, h⟩
    · obtain ⟨a, ha, hinfo⟩ := Option.bind_eq_some_iff.1 ((hw.registry.directives id info).1 h).2
      rw [← hp.reference_id id, ← found?_reference ha]
      cases a <;> cases hinfo <;> rfl
    · rw [Work.compiled_directive_reference h, hp.reference_id]
  pipe_id := by
    intro id info h
    rcases Option.or_eq_some_iff.1 h with h | ⟨-, h⟩
    · obtain ⟨a, ha, hinfo⟩ := Option.bind_eq_some_iff.1 ((hw.registry.pipes id info).1 h).2
      rw [← hp.reference_id id, ← found?_reference ha]
      cases a <;> cases hinfo
      rfl
    · rw [Work.compiled_pipe_reference h, hp.reference_id]

/-- What is wrong with a class, given all that is known. -/
def problems (cx : Context) (w : World) (id : DeclarationId) : Analysis → List Diagnostic
  | .ngModule m => Work.moduleProblems cx w id m
  | .component c => c.imports.filterMap (Work.unknownImport? (cx.metadata w) c)
  | .directive _ | .pipe _ | .injectable _ => []

/-- The scope of a module or component holds what the facts say; other classes have none. -/
inductive Scoped (cx : Context) (w : World) (id : DeclarationId) : Analysis → Option Resolution → Prop
  | ngModule {m : ModuleAnalysis} {scope : Option Scope}
    (h : Scoping.Fits (cx.metadata w) (Scoping.moduleMembers? (cx.metadata w) id) scope) :
    Scoped cx w id (.ngModule m) (some (.ngModule (scope.getD {})))
  | component {c : ComponentAnalysis} {scope : Option Scope}
    (h : Scoping.Fits (cx.metadata w) (Scoping.componentMembers? (cx.metadata w) w.registry id) scope) :
    Scoped cx w id (.component c) (some (.component scope))
  | directive {d : DirectiveAnalysis} : Scoped cx w id (.directive d) none
  | pipe {p : PipeAnalysis} : Scoped cx w id (.pipe p) none
  | injectable {i : InjectableAnalysis} : Scoped cx w id (.injectable i) none

/-- What the second phase may yield for a class: its problems, and a scope with the right members. -/
def Settles (cx : Context) (id : DeclarationId) (a : Analysis) (t : Settlement Resolution) : Prop :=
  ∃ w : World, w.After cx ∧ t.diagnostics = cx.problems w id a ∧ Scoped cx w id a t.resolution

/-- Looking at scopes leaves the rest of the world alone. -/
theorem after_lookUp {s : Scopes} (hw : w.After cx) (hs : Scoping.Full (cx.metadata w) s) :
    World.After cx { w with scopes := { s with remarks := [] } } :=
  ⟨hw.loader, hw.registry, ⟨hs.exported, hs.compilation, hs.standalone⟩⟩

theorem resolveModule_eq (cx : Context) (id : DeclarationId) (m : ModuleAnalysis) (w : World) :
    (Work.resolveModule cx id m { world := w }).1 =
      { resolution := some (.ngModule ((Scoping.ofModule (cx.metadata w) id w.scopes).1.getD {}))
        diagnostics := cx.problems w id (.ngModule m) } ∧
    (Work.resolveModule cx id m { world := w }).2.world =
      { w with scopes := { (Scoping.ofModule (cx.metadata w) id w.scopes).2 with remarks := [] } } :=
  ⟨rfl, rfl⟩

theorem resolveComponent_eq (cx : Context) (id : DeclarationId) (c : ComponentAnalysis) (w : World) :
    (Work.resolveComponent cx id c { world := w }).1 =
      { resolution := some (.component (Scoping.ofComponent (cx.metadata w) w.registry id w.scopes).1)
        diagnostics := cx.problems w id (.component c) } ∧
    (Work.resolveComponent cx id c { world := w }).2.world =
      { w with scopes :=
        { (Scoping.ofComponent (cx.metadata w) w.registry id w.scopes).2 with remarks := [] } } := by
  set answer := Scoping.ofComponent (cx.metadata w) w.registry id w.scopes
  have hrun : Work.resolveComponent cx id c { world := w } =
      (do
        if answer.1.isNone then
          Work.remark s!"{c.data.reference.name} is not declared by any NgModule"
        return { resolution := some (.component answer.1)
                 diagnostics := c.imports.filterMap (Work.unknownImport? (cx.metadata w) c) } :
        Work (Settlement Resolution))
      { world := { w with scopes := { answer.2 with remarks := [] } }, remarks := answer.2.remarks } := rfl
  -- the remark on a missing scope does not touch the world
  rw [hrun]
  cases answer.1 with
  | none => exact ⟨rfl, rfl⟩
  | some scope => exact ⟨rfl, rfl⟩

theorem resolve_yields (hp : cx.program.Numbered) (hc : cx.engine.claimed? id = some (d, c))
    (ha : cx.found? id = some a) (hw : w.After cx) :
    (c.handler.resolve id a).Yields w fun t w' => cx.Settles id a t ∧ w'.After cx := by
  have hfiled := metadata_filed hp hw
  rw [claim?_handler (Engine.claim?_of_claimed? hc), ← (found?_concerns hc ha).1]
  cases a with
  | ngModule m =>
    obtain ⟨hresult, hworld⟩ := resolveModule_eq cx id m w
    obtain ⟨hfull, hfits⟩ := Scoping.ofModule_full hfiled hw.scopes id
    refine Work.routine_yields (x := Work.resolveModule cx id m) ?_
    rw [hresult, hworld]
    exact ⟨⟨w, hw, rfl, .ngModule hfits⟩, after_lookUp hw hfull⟩
  | component c =>
    obtain ⟨hresult, hworld⟩ := resolveComponent_eq cx id c w
    obtain ⟨hfull, hfits⟩ := Scoping.ofComponent_full hfiled w.registry hw.scopes id
    refine Work.routine_yields (x := Work.resolveComponent cx id c) ?_
    rw [hresult, hworld]
    exact ⟨⟨w, hw, rfl, .component hfits⟩, after_lookUp hw hfull⟩
  | directive d => exact ⟨⟨w, hw, rfl, .directive⟩, hw⟩
  | pipe p => exact ⟨⟨w, hw, rfl, .pipe⟩, hw⟩
  | injectable i => exact ⟨⟨w, hw, rfl, .injectable⟩, hw⟩

/-! ### Worlds that know all classes agree -/

theorem problems_eq (hw : w.After cx) (hw' : w'.After cx) (id : DeclarationId) (a : Analysis) :
    cx.problems w id a = cx.problems w' id a := by
  have hfacts := hw.sameFacts hw'
  have hmodules := hw.registry.declaringModules_eq hw'.registry
  cases a with
  | ngModule m =>
    have hdeclared : Work.declarationProblem? (cx.metadata w) = Work.declarationProblem? (cx.metadata w') := by
      funext range a file d
      simp only [Work.declarationProblem?, hfacts.directive, hfacts.pipe]
    -- here alone the registry itself is looked at, and it lists the modules in the order of the program
    have hshared : Work.sharedProblem? cx w.registry = Work.sharedProblem? cx w'.registry := by
      funext range id d
      simp only [Work.sharedProblem?, hmodules]
    have himported : Work.importProblem? (cx.metadata w) = Work.importProblem? (cx.metadata w') := by
      funext range a file i
      rw [Work.importProblem?, Work.importProblem?, hfacts.isModule_eq, hfacts.isStandalone_eq]
    have hexported : Work.exportProblem? (cx.metadata w) = Work.exportProblem? (cx.metadata w') := by
      funext range a file e
      rw [Work.exportProblem?, Work.exportProblem?, hfacts.isModule_eq, hfacts.isDeclarable_eq]
    simp only [problems, Work.moduleProblems, hdeclared, hshared, himported, hexported]
  | component c =>
    have hunknown : Work.unknownImport? (cx.metadata w) = Work.unknownImport? (cx.metadata w') := by
      funext c i
      rw [Work.unknownImport?, Work.unknownImport?, hfacts.isModule_eq, hfacts.isStandalone_eq]
    rw [problems, problems, hunknown]
  | directive d => rfl
  | pipe p => rfl
  | injectable i => rfl

end Context

/-- Two resolutions of one kind whose scopes have the same members. -/
inductive Resolution.SameScope : Resolution → Resolution → Prop
  | ngModule {s t : Scope} (h : s.SameMembers t) : SameScope (.ngModule s) (.ngModule t)
  | component {s t : Option Scope} (h : Option.Rel Scope.SameMembers s t) :
    SameScope (.component s) (.component t)

theorem Scope.SameMembers.getD {s t : Option Scope} (h : Option.Rel Scope.SameMembers s t) :
    (s.getD {}).SameMembers (t.getD {}) := by
  cases h with
  | none => exact ⟨.refl _, .refl _⟩
  | some h => exact h

namespace Context

variable {cx : Context} {id : DeclarationId} {a : Analysis} {w w' : World} {t t' : Settlement Resolution}

theorem Scoped.sameScope {r r' : Option Resolution} (hw : w.After cx) (hw' : w'.After cx)
    (h : cx.Scoped w id a r) (h' : cx.Scoped w' id a r') : Option.Rel Resolution.SameScope r r' := by
  have hfacts := hw'.sameFacts hw
  have hmodules := hw'.registry.declaringModules_eq hw.registry
  have hfits : ∀ {S scope}, Scoping.Fits (cx.metadata w') S scope →
      Scoping.Fits (cx.metadata w) S scope := by
    intro S scope hS
    rwa [Scoping.Fits, hfacts.declarables_eq] at hS
  -- two scopes that fit one set have the same members
  cases h with
  | ngModule h =>
    cases h' with
    | ngModule h' =>
      rw [Scoping.moduleMembers?_congr hfacts] at h'
      exact .some (.ngModule (.getD (h.sameMembers (hfits h'))))
  | component h =>
    cases h' with
    | component h' =>
      rw [Scoping.componentMembers?_congr hfacts hmodules] at h'
      exact .some (.component (h.sameMembers (hfits h')))
  | directive => cases h' with | directive => exact .none
  | pipe => cases h' with | pipe => exact .none
  | injectable => cases h' with | injectable => exact .none

/-- The five handlers keep a contract. -/
def contract (cx : Context) (hp : cx.program.Numbered) : cx.engine.Contract where
  findings := cx.findings
  Settles := cx.Settles
  Before := World.Before cx
  After := World.After cx
  analyze := analyze_yields
  register := register_yields hp
  pass ha hw := ⟨hw.loader, hw.registry.pass ha, hw.scopes⟩
  close hall hw :=
    { loader := hw.loader
      registry := hw.registry.close fun k hk => by
        obtain ⟨a, ha⟩ := Option.isSome_iff_exists.1 hk
        exact hall k (Engine.claimed?_of_found? ha)
      scopes := by
        rw [hw.scopes]
        exact Scoping.full_new _ }
  resolve := resolve_yields hp
  diagnostics_eq := by
    rintro id a t t' ⟨w, hw, hds, -⟩ ⟨w', hw', hds', -⟩
    rw [hds, hds', problems_eq hw hw']

theorem alike_sameScope {hp : cx.program.Numbered} {r r' : Option Resolution}
    (h : (cx.contract hp).Alike id r r') : Option.Rel Resolution.SameScope r r' := by
  rcases h with ⟨rfl, rfl⟩ | ⟨a, t, t', -, ⟨w, hw, -, hs⟩, ⟨w', hw', -, hs'⟩, rfl, rfl⟩
  · exact .none
  · exact hs.sameScope hw hw' hs'

/-! ### Any questions before -/

/-- The engine of the five roles after some questions, one after the other, from the beginning. -/
def asked (cx : Context) (graph : FileGraph) (log : Log) (qs : List Query) :
    Engine.State World Analysis Resolution :=
  cx.engine.answers qs { world := { loader := { graph } }, log }

/-- **Answers do not depend on what was asked before.** Two engines of the five roles are made for one
program, one set of options and one set of resources, and any questions are asked. Then for every
declaration both give the same role, the same analysis, or the same failure in its place, and the same
diagnostics; once it is resolved the declaration has come to the same stage in both; and what can be
used in its templates is the same, though perhaps in different order. -/
theorem answers_whatever_asked (cx : Context) {host : Host} {roots : List String} {settings : Settings}
    (hp : Program.load host roots settings = .ok cx.program) (graph graph' : FileGraph) (log log' : Log)
    (qs qs' : List Query) (id : DeclarationId) :
    (cx.engine.answer (.role id) (cx.asked graph log qs)).1 =
      (cx.engine.answer (.role id) (cx.asked graph' log' qs')).1 ∧
    (cx.engine.answer (.analysis id) (cx.asked graph log qs)).1 =
      (cx.engine.answer (.analysis id) (cx.asked graph' log' qs')).1 ∧
    (cx.engine.answer (.diagnostics id) (cx.asked graph log qs)).1 =
      (cx.engine.answer (.diagnostics id) (cx.asked graph' log' qs')).1 ∧
    (cx.engine.answer (.resolve id) (cx.asked graph log qs)).2.stage? id =
      (cx.engine.answer (.resolve id) (cx.asked graph' log' qs')).2.stage? id ∧
    ∃ r r', (cx.engine.answer (.resolution id) (cx.asked graph log qs)).1 = .ok (.resolution r) ∧
      (cx.engine.answer (.resolution id) (cx.asked graph' log' qs')).1 = .ok (.resolution r') ∧
      Option.Rel Resolution.SameScope r r' := by
  have hp := Program.load_numbered hp
  obtain ⟨hrole, hanalysis, hdiagnostics, hstage, r, r', hr, hr', halike⟩ :=
    (cx.contract hp).answers_independent hp (World.before_new cx graph) (World.before_new cx graph')
      log log' qs qs' id rfl rfl
  exact ⟨hrole, hanalysis, hdiagnostics, hstage, r, r', hr, hr', alike_sameScope halike⟩

/-- A standalone component imports a directive that needs a module. -/
def importsBound : Host where
  files := [("/main.ts", "import \x7b Component, Directive \x7d from '@angular/core';\n" ++
    "@Directive(\x7b selector: '[x]' \x7d) export class X \x7b\x7d\n" ++
    "@Component(\x7b selector: 'y', template: '', standalone: true, imports: [X] \x7d)" ++
    "export class Y \x7b\x7d\n")]

/-- The component fails because of the directive, whichever of them is asked for first. -/
theorem answers_whatever_asked_importsBound :
    ∃ cx : Context, Program.load importsBound ["/main.ts"] {} = .ok cx.program ∧
      (cx.engine.answer (.resolve 1) (cx.asked {} default [])).2.stage? 1 = some .errored ∧
      (cx.engine.answer (.resolve 1) (cx.asked {} default [.resolution 0, .role 1])).2.stage? 1 =
        some .errored ∧
      (cx.engine.answer (.diagnostics 1) (cx.asked {} default [])).1 =
        (cx.engine.answer (.diagnostics 1) (cx.asked {} default [.resolution 0, .role 1])).1 := by
  have hfirst : ((Program.load importsBound ["/main.ts"] {}).toOption.bind fun program =>
      (Engine.answer (Context.engine { program }) (.resolve 1)
        (asked { program } {} default [])).2.stage? 1) = some .errored := by
    decide +kernel
  cases hload : Program.load importsBound ["/main.ts"] {} with
  | error err => rw [hload] at hfirst; cases hfirst
  | ok program =>
    rw [hload] at hfirst
    obtain ⟨-, -, hdiagnostics, hstage, -⟩ := answers_whatever_asked { program } hload {} {} default
      default [] [.resolution 0, .role 1] 1
    exact ⟨{ program }, rfl, hfirst, hstage.symm.trans hfirst, hdiagnostics⟩

end Context

end ComponentAtlas
