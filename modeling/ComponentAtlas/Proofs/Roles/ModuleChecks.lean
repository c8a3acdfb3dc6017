import ComponentAtlas.Proofs.Roles.QueryOrder

/-!
# The checks of modules

A module with a decorator is checked in the second phase, when all classes are known. The checks find
an error exactly if one of its lists is ill-formed, and so a class belongs to one module at most.

* `ModuleInfo.IllFormed`: what may be wrong with the lists of a module;
* `Work.exists_moduleProblem`: the checks of one module;
* `SourceModule`: the modules with a decorator, and how far they came;
* `Context.modules_checked`: the modules of a program, whatever was asked.
-/

namespace ComponentAtlas

open ComponentAtlas.Script

/-- What may be wrong with the lists of a module, given what is known about all classes and which
modules are registered. -/
inductive ModuleInfo.IllFormed (m : Metadata) (r : Registry) (id : DeclarationId) (info : ModuleInfo) : Prop
  /-- A declared class is neither a directive nor a pipe. -/
  | undeclarable {d : Reference} (hd : d ∈ info.declarations) (hdirective : m.directive? d.id = none)
    (hpipe : m.pipe? d.id = none)
  | standaloneDirective {d : Reference} {x : DirectiveInfo} (hd : d ∈ info.declarations)
    (hdirective : m.directive? d.id = some x) (h : x.isStandalone)
  | standalonePipe {d : Reference} {x : PipeInfo} (hd : d ∈ info.declarations)
    (hdirective : m.directive? d.id = none) (hpipe : m.pipe? d.id = some x) (h : x.isStandalone)
  /-- A module with a smaller number declares the class, too. -/
  | shared {d d' : Reference} {other : DeclarationId} {info' : ModuleInfo} (hd : d ∈ info.declarations)
    (hother : Table.get? other r.modules = some info') (hd' : d' ∈ info'.declarations) (heq : d'.id = d.id)
    (hlt : other < id)
  | badImport {i : Reference} (hi : i ∈ info.imports) (hmodule : m.isModule i.id = false)
    (hstandalone : m.isStandalone i.id = false)
  | badExport {x : Reference} (hx : x ∈ info.exports) (hmodule : m.isModule x.id = false)
    (hdeclarable : m.isDeclarable x.id = false)

/-! ### The checks of one module -/

namespace Work

variable {cx : Context} {m : Metadata} {w : World} {id : DeclarationId} {a : ModuleAnalysis}
  {range : Range} {file : String} {d : Reference}

theorem declarationProblem?_isSome : (declarationProblem? m range a file d).isSome ↔
    (m.directive? d.id = none ∧ m.pipe? d.id = none) ∨
    (∃ x, m.directive? d.id = some x ∧ x.isStandalone) ∨
    ∃ x, m.directive? d.id = none ∧ m.pipe? d.id = some x ∧ x.isStandalone := by
  unfold declarationProblem?
  cases hdirective : m.directive? d.id with
  | some x => cases hx : x.isStandalone <;> simp [hx]
  | none =>
    cases hpipe : m.pipe? d.id with
    | none => simp
    | some x => cases hx : x.isStandalone <;> simp [hx]

/-- A class that a module declares is in error if a module with a smaller number declares it, too. -/
theorem sharedProblem?_isSome {r : Registry} {info : ModuleInfo} (hnodup : (r.modules.map (·.1)).Nodup)
    (hown : Table.get? id r.modules = some info) (hd : d ∈ info.declarations) :
    (sharedProblem? cx r range id d).isSome ↔ ∃ other ∈ r.declaringModules d.id, other < id := by
  have hmem : id ∈ r.declaringModules d.id :=
    (Registry.mem_declaringModules hnodup).2 ⟨info, hown, d, hd, rfl⟩
  have hsorted := Registry.declaringModules_sorted hnodup d.id
  unfold sharedProblem?
  split
  · next owner second rest hlist =>
    rw [hlist] at hmem hsorted ⊢
    have hfirst := (List.pairwise_cons.1 hsorted).1
    by_cases hid : owner = id
    · -- the module stands first itself, and all others come later
      subst hid
      simp only [if_true, Option.isSome_none, Bool.false_eq_true, false_iff, not_exists, not_and, not_lt]
      intro other hother
      rcases List.mem_cons.1 hother with rfl | hother
      · exact le_rfl
      · exact (hfirst other hother).le
    · simp only [hid, if_false, Option.isSome_some, true_iff]
      rcases List.mem_cons.1 hmem with rfl | hlater
      · exact absurd rfl hid
      · exact ⟨owner, List.mem_cons_self, hfirst id hlater⟩
  · next hshort =>
    simp only [Option.isSome_none, Bool.false_eq_true, false_iff, not_exists, not_and, not_lt]
    intro other hother
    -- the list holds the module and nothing else
    cases hlist : r.declaringModules d.id with
    | nil => rw [hlist] at hmem; cases hmem
    | cons owner rest =>
      cases rest with
      | cons second rest => exact absurd hlist (hshort owner second rest)
      | nil =>
        rw [hlist, List.mem_singleton] at hmem hother
        rw [hmem, hother]

theorem importProblem?_isSome : (importProblem? m range a file d).isSome ↔
    m.isModule d.id = false ∧ m.isStandalone d.id = false := by
  unfold importProblem?
  cases m.isModule d.id <;> cases m.isStandalone d.id <;> simp

theorem exportProblem?_isSome : (exportProblem? m range a file d).isSome ↔
    m.isModule d.id = false ∧ m.isDeclarable d.id = false := by
  unfold exportProblem?
  cases m.isModule d.id <;> cases m.isDeclarable d.id <;> simp

/-- The checks find something exactly if the module is ill-formed. -/
theorem exists_moduleProblem (hnodup : (w.registry.modules.map (·.1)).Nodup)
    (hown : Table.get? id w.registry.modules = some a.info) (ha : a.isCompiled = false) :
    (∃ problem, problem ∈ moduleProblems cx w id a) ↔ a.info.IllFormed (cx.metadata w) w.registry id := by
  simp only [moduleProblems, ha, Bool.false_eq_true, if_false, List.mem_append, List.mem_flatMap,
    List.mem_filterMap, Option.mem_toList]
  constructor
  · rintro ⟨problem, (⟨d, hd, h | h⟩ | ⟨i, hi, h⟩) | ⟨x, hx, h⟩⟩
    · rcases declarationProblem?_isSome.1 (Option.isSome_of_mem h) with h | ⟨x, h, hs⟩ | ⟨x, h, h', hs⟩
      · exact .undeclarable hd h.1 h.2
      · exact .standaloneDirective hd h hs
      · exact .standalonePipe hd h h' hs
    · obtain ⟨other, hother, hlt⟩ := (sharedProblem?_isSome hnodup hown hd).1 (Option.isSome_of_mem h)
      obtain ⟨info', hget, d', hd', heq⟩ := (Registry.mem_declaringModules hnodup).1 hother
      exact .shared hd hget hd' heq hlt
    · obtain ⟨hmodule, hstandalone⟩ := importProblem?_isSome.1 (Option.isSome_of_mem h)
      exact .badImport hi hmodule hstandalone
    · obtain ⟨hmodule, hdeclarable⟩ := exportProblem?_isSome.1 (Option.isSome_of_mem h)
      exact .badExport hx hmodule hdeclarable
  · intro h
    cases h with
    | undeclarable hd h h' =>
      obtain ⟨problem, h⟩ := Option.isSome_iff_exists.1 (declarationProblem?_isSome.2 (.inl ⟨h, h'⟩))
      exact ⟨problem, .inl (.inl ⟨_, hd, .inl h⟩)⟩
    | standaloneDirective hd h hs =>
      obtain ⟨problem, h⟩ := Option.isSome_iff_exists.1
        (declarationProblem?_isSome.2 (.inr (.inl ⟨_, h, hs⟩)))
      exact ⟨problem, .inl (.inl ⟨_, hd, .inl h⟩)⟩
    | standalonePipe hd h h' hs =>
      obtain ⟨problem, h⟩ := Option.isSome_iff_exists.1
        (declarationProblem?_isSome.2 (.inr (.inr ⟨_, h, h', hs⟩)))
      exact ⟨problem, .inl (.inl ⟨_, hd, .inl h⟩)⟩
    | @shared d d' other info' hd hget hd' heq hlt =>
      have hother := (Registry.mem_declaringModules hnodup).2 ⟨info', hget, d', hd', heq⟩
      obtain ⟨problem, h⟩ := Option.isSome_iff_exists.1
        ((sharedProblem?_isSome hnodup hown hd).2 ⟨other, hother, hlt⟩)
      exact ⟨problem, .inl (.inl ⟨d, hd, .inr h⟩)⟩
    | badImport hi hmodule hstandalone =>
      obtain ⟨problem, h⟩ := Option.isSome_iff_exists.1 (importProblem?_isSome.2 ⟨hmodule, hstandalone⟩)
      exact ⟨problem, .inl (.inr ⟨_, hi, h⟩)⟩
    | badExport hx hmodule hdeclarable =>
      obtain ⟨problem, h⟩ := Option.isSome_iff_exists.1 (exportProblem?_isSome.2 ⟨hmodule, hdeclarable⟩)
      exact ⟨problem, .inr ⟨_, hx, h⟩⟩

/-- All that the checks find are errors. -/
theorem moduleProblems_isError {problem : Diagnostic} (h : problem ∈ moduleProblems cx w id a) :
    problem.isError := by
  unfold moduleProblems at h
  split at h
  · cases h
  · simp only [List.mem_append, List.mem_flatMap, List.mem_filterMap, Option.mem_toList] at h
    rcases h with (⟨d, hd, h | h⟩ | ⟨i, hi, h⟩) | ⟨x, hx, h⟩
    · unfold declarationProblem? at h
      split at h <;> cases h <;> rfl
    · unfold sharedProblem? at h
      split at h
      · split at h <;> cases h
        rfl
      · cases h
    · unfold importProblem? at h
      split at h <;> cases h
      rfl
    · unfold exportProblem? at h
      split at h <;> cases h
      rfl

/-- Only a module without a decorator counts as compiled. -/
theorem ngModule_isCompiled {x : Detected} (hx : x.decorator.isSome) {desk : Desk} {m : ModuleAnalysis}
    (h : (ngModule cx id x desk).1.analysis = some (.ngModule m)) : m.isCompiled = false := by
  obtain ⟨decorator, hdecorator⟩ := Option.isSome_iff_exists.1 hx
  rw [ngModule, hdecorator] at h
  dsimp only at h
  -- the decorator has no argument that can be read, or none at all, or an object
  generalize decorator.options? (cx.declaration id).file true = options at h
  rcases options with problem | _ | object
  · cases h
  · cases h
    rfl
  · cases h
    rfl

end Work

/-! ### The modules of a program -/

/-- A recorded class is a module with a decorator that was registered, and came to a stage. -/
structure SourceModule (s : Engine.State World Analysis Resolution) (id : DeclarationId) (info : ModuleInfo)
    (stage : Stage) : Prop where
  record : ∃ r, Table.get? id s.records = some r ∧ r.detected.decorator.isSome ∧ r.progress.stage = stage
  registered : Table.get? id s.world.registry.modules = some info

namespace Context

variable {cx : Context} {s : Engine.State World Analysis Resolution} {id : DeclarationId} {info : ModuleInfo}
  {stage : Stage}

theorem found?_not_compiled {d : Declaration} {c : Engine.Claim World Analysis Resolution}
    {m : ModuleAnalysis} (hc : cx.engine.claimed? id = some (d, c)) (hm : cx.found? id = some (.ngModule m))
    (hdecorated : c.detected.decorator.isSome) : m.isCompiled = false := by
  have hrole := (found?_concerns hc hm).1
  have hfindings := Engine.analysis_of_found? hm
  rw [findings, hc] at hfindings
  dsimp only at hfindings
  rw [← hrole] at hfindings
  exact Work.ngModule_isCompiled hdecorated hfindings

/-- A registry holds what the analysis of a module said. -/
theorem registered_of_tracks (hp : cx.program.Numbered) (h : (cx.contract hp).Tracks s)
    (hinfo : Table.get? id s.world.registry.modules = some info) :
    ∃ m, cx.found? id = some (.ngModule m) ∧ m.info = info := by
  have hknown : (cx.found? id).bind Analysis.module? = some info := by
    cases hall : s.allAnalyzed with
    | false => exact (((h.before hall).registry.modules id info).1 hinfo).2
    | true => exact (((h.after hall).registry.modules id info).1 hinfo).2
  obtain ⟨a, ha, hmodule⟩ := Option.bind_eq_some_iff.1 hknown
  cases a with
  | ngModule m => exact ⟨m, ha, Option.some.inj hmodule⟩
  | _ => cases hmodule

/-- A module with a decorator is ready for the second phase, or was checked when all was known. -/
theorem sourceModule_checked (hp : cx.program.Numbered) (h : (cx.contract hp).Tracks s)
    (hmodule : SourceModule s id info stage) :
    stage = .analyzed ∨ s.allAnalyzed ∧
      (stage = .errored ∧ info.IllFormed (cx.metadata s.world) s.world.registry id ∨
        stage = .resolved ∧ ¬ info.IllFormed (cx.metadata s.world) s.world.registry id) := by
  obtain ⟨⟨r, hr, hdecorated, rfl⟩, hinfo⟩ := hmodule
  obtain ⟨d, c, p, hc, rfl, hprogress⟩ := h.record hr
  obtain ⟨m, hm, rfl⟩ := registered_of_tracks hp h hinfo
  rcases hprogress with rfl | ⟨hall, hlast⟩
  · exact .inl (by rw [Engine.Contract.first_of_found hc hm])
  · refine .inr ⟨hall, ?_⟩
    cases hlast with
    | first hnone => cases hnone.symm.trans hm
    | @settled a t ha ht =>
      cases ha.symm.trans hm
      obtain ⟨w, hw, hproblems, -⟩ := ht
      have hafter : s.world.After cx := h.after hall
      rw [problems_eq hw hafter] at hproblems
      have hchecks : (∃ problem, problem ∈ Work.moduleProblems cx s.world id m) ↔ _ :=
        Work.exists_moduleProblem hafter.registry.nodup hinfo (found?_not_compiled hc hm hdecorated)
      have hfaulty : t.isFaulty ↔ m.info.IllFormed (cx.metadata s.world) s.world.registry id := by
        rw [← hchecks, Settlement.isFaulty, hproblems, List.any_eq_true]
        constructor
        · rintro ⟨x, hx, -⟩
          exact ⟨x, hx⟩
        · rintro ⟨x, hx⟩
          exact ⟨x, hx, Work.moduleProblems_isError hx⟩
      unfold Settlement.progress
      split
      · next hbad => exact .inl ⟨rfl, hfaulty.1 hbad⟩
      · next hgood => exact .inr ⟨rfl, fun hill => hgood (hfaulty.2 hill)⟩

/-- **Modules are checked, and own what they declare.** Whatever is asked, one question after the
other, from a new engine for a program:

* a registered module with a decorator that is no longer waiting for the second phase has errors
  exactly if its lists are ill-formed, given all classes, and is resolved exactly if they are not;
* two such modules that are resolved and declare the same class are the same module;
* after a question about the resolution of a module, it does not wait any longer. -/
theorem modules_checked (cx : Context) {host : Host} {roots : List String} {settings : Settings}
    (hp : Program.load host roots settings = .ok cx.program) (graph : FileGraph) (log : Log)
    (qs : List Query) :
    (∀ id info stage, SourceModule (cx.asked graph log qs) id info stage → stage ≠ .analyzed →
      (stage = .errored ↔ info.IllFormed (cx.metadata (cx.asked graph log qs).world)
        (cx.asked graph log qs).world.registry id) ∧
      (stage = .resolved ↔ ¬ info.IllFormed (cx.metadata (cx.asked graph log qs).world)
        (cx.asked graph log qs).world.registry id)) ∧
    (∀ id id' info info', SourceModule (cx.asked graph log qs) id info .resolved →
      SourceModule (cx.asked graph log qs) id' info' .resolved →
      ∀ d ∈ info.declarations, ∀ d' ∈ info'.declarations, d.id = d'.id → id = id') ∧
    ∀ id info stage,
      SourceModule (cx.engine.answer (.resolve id) (cx.asked graph log qs)).2 id info stage →
        stage ≠ .analyzed := by
  have hp := Program.load_numbered hp
  have htracks : (cx.contract hp).Tracks (cx.asked graph log qs) :=
    Engine.answers_tracks hp (Engine.Contract.tracks_new (World.before_new cx graph) log) qs
  refine ⟨?_, ?_, ?_⟩
  · intro id info stage hmodule hstage
    rcases sourceModule_checked hp htracks hmodule with rfl | ⟨-, ⟨rfl, hill⟩ | ⟨rfl, hwell⟩⟩
    · exact absurd rfl hstage
    · simp [hill]
    · simp [hwell]
  · -- of two modules that declare a class, the one with the larger number is ill-formed
    have hle : ∀ {id id' info info'}, SourceModule (cx.asked graph log qs) id info .resolved →
        SourceModule (cx.asked graph log qs) id' info' .resolved →
        ∀ d ∈ info.declarations, ∀ d' ∈ info'.declarations, d.id = d'.id → id ≤ id' := by
      intro id id' info info' hmodule hmodule' d hd d' hd' heq
      rcases sourceModule_checked hp htracks hmodule with hs | ⟨-, ⟨hs, -⟩ | ⟨-, hwell⟩⟩
      · cases hs
      · cases hs
      · exact not_lt.1 fun hlt => hwell (.shared hd hmodule'.registered hd' heq.symm hlt)
    intro id id' info info' hmodule hmodule' d hd d' hd' heq
    exact le_antisymm (hle hmodule hmodule' d hd d' hd' heq) (hle hmodule' hmodule d' hd' d hd heq.symm)
  · rintro id info stage ⟨⟨r, hr, -, rfl⟩, -⟩
    obtain ⟨-, htracks', hended⟩ := Engine.answer_tracks hp htracks (.resolve id)
    obtain ⟨d, c, p, hc, rfl, -⟩ := htracks'.record hr
    obtain ⟨q, hq, hlast⟩ := hended.record hc
    cases hr.symm.trans hq
    rcases hlast.stage hc with hs | hs | hs <;> simp [hs]

/-- A module imports a class without a role, and another one imports this module. -/
def importsPlain : Host where
  files := [("/main.ts", "import \x7b NgModule \x7d from '@angular/core';\nexport class X \x7b\x7d\n" ++
    "@NgModule(\x7b imports: [X] \x7d) export class A \x7b\x7d\n" ++
    "@NgModule(\x7b imports: [A] \x7d) export class B \x7b\x7d\n")]

/-- The first module is ill-formed, the second one is not. -/
theorem modules_checked_importsPlain :
    ∃ cx : Context, Program.load importsPlain ["/main.ts"] {} = .ok cx.program ∧
      ∃ info info', SourceModule (cx.asked {} default [.resolve 2, .resolve 1]) 1 info .errored ∧
        SourceModule (cx.asked {} default [.resolve 2, .resolve 1]) 2 info' .resolved ∧
        info.IllFormed (cx.metadata (cx.asked {} default [.resolve 2, .resolve 1]).world)
          (cx.asked {} default [.resolve 2, .resolve 1]).world.registry 1 ∧
        ¬ info'.IllFormed (cx.metadata (cx.asked {} default [.resolve 2, .resolve 1]).world)
          (cx.asked {} default [.resolve 2, .resolve 1]).world.registry 2 := by
  have hstages : ((Program.load importsPlain ["/main.ts"] {}).toOption.map fun program =>
      [1, 2].map fun id =>
        ((Table.get? id (asked { program } {} default [.resolve 2, .resolve 1]).records).map fun r =>
            (r.detected.decorator.isSome, r.progress.stage),
          (Table.get? id
            (asked { program } {} default [.resolve 2, .resolve 1]).world.registry.modules).isSome)) =
      some [(some (true, .errored), true), (some (true, .resolved), true)] := by
    decide +kernel
  cases hload : Program.load importsPlain ["/main.ts"] {} with
  | error err => rw [hload] at hstages; cases hstages
  | ok program =>
    rw [hload] at hstages
    obtain ⟨hchecked, -⟩ := modules_checked { program } hload {} default [.resolve 2, .resolve 1]
    simp only [Except.toOption, Option.map_some, Option.some.injEq, List.map_cons, List.map_nil,
      List.cons.injEq, Prod.mk.injEq, Option.map_eq_some_iff, and_true] at hstages
    obtain ⟨⟨⟨r, hr, hd, hs⟩, hinfo⟩, ⟨r', hr', hd', hs'⟩, hinfo'⟩ := hstages
    obtain ⟨info, hinfo⟩ := Option.isSome_iff_exists.1 hinfo
    obtain ⟨info', hinfo'⟩ := Option.isSome_iff_exists.1 hinfo'
    have hfirst : SourceModule _ 1 info .errored := ⟨⟨r, hr, hd, hs⟩, hinfo⟩
    have hsecond : SourceModule _ 2 info' .resolved := ⟨⟨r', hr', hd', hs'⟩, hinfo'⟩
    refine ⟨{ program }, rfl, info, info', hfirst, hsecond, ?_, ?_⟩
    · exact (hchecked 1 info .errored hfirst (by decide)).1.1 rfl
    · exact (hchecked 2 info' .resolved hsecond (by decide)).2.1 rfl

end Context

end ComponentAtlas
