import ComponentAtlas.Proofs.Workspace.Accessors

/-!
# Errors stay with their class

A class with errors fails the questions that need its analysis, with its own diagnostics. No other
question fails for its errors, whatever was asked before.

* `Workspace.reply_of_resolved`, `Workspace.reply_of_errored`: what becomes of questions for an analysis;
* `Request`: all that can be asked of a workspace; `Request.serves`: no request disturbs a workspace;
* `Workspace.Isolated`: errors stay with their class; `Workspace.isolated_after_requests`.
-/

namespace ComponentAtlas

open ComponentAtlas.Script

namespace Workspace

/-! ### Classes that are resolved or have errors -/

variable {cx : Context} {w : Workspace} {id : DeclarationId}

theorem reply_of_resolved (h : Serves cx w) (hs : w.state.stage? id = some .resolved) :
    ∃ a, cx.reply (.analysis id) = .ok (.analysis (some a)) ∧ cx.role? id = some a.role := by
  obtain ⟨d, c, p, hc, -, hstage, hr, hlast⟩ := (h.tracks h.numbered).last_of_stage? hs (by decide)
  obtain ⟨a, hfound, hanalysis⟩ := hlast.exists_analysis hc hstage
  refine ⟨a, ?_, ?_⟩
  · rw [← reply_of_said h (q := .analysis id) nofun fun _ => Engine.Contract.ended_of_record hc hr hlast]
    rw [Engine.State.said, hr]
    simp only [hstage, hanalysis]
  · rw [Context.role?, hc, (Context.found?_concerns hc hfound).1]
    rfl

theorem reply_of_errored (h : Serves cx w) (hs : w.state.stage? id = some .errored) :
    ∃ ds, ds ≠ [] ∧ (w.state.progress? id).bind (·.diagnostics?) = some ds ∧
      cx.reply (.analysis id) = .error (.analysis (cx.program.reference id).name ds) := by
  obtain ⟨d, c, p, hc, hp, hstage, hr, hlast⟩ := (h.tracks h.numbered).last_of_stage? hs (by decide)
  obtain ⟨ds, hne, hds⟩ := hlast.exists_diagnostics hstage
  refine ⟨ds, hne, by rw [hp]; exact hds, ?_⟩
  rw [← reply_of_said h (q := .analysis id) nofun fun _ => Engine.Contract.ended_of_record hc hr hlast]
  rw [Engine.State.said, hr]
  simp only [hstage, hds, Option.getD_some]
  rw [Program.reference, show cx.program.declaration? id = some d from Engine.declaration?_of_claimed? hc]
  rfl

end Workspace

/-! ### Requests -/

/-- All that can be asked of a workspace. -/
inductive Request
  | reset
  | all (role : Role)
  | symbol (id : DeclarationId)
  | named (name : String)
  | find (token : Value) (origin : String)
  | affected (changed : List String)
  | problems
  | problemsOf (s : Symbol)
  | about (a : Accessor) (s : Symbol) (h : s.role ∈ a.roles)
  /-- Has a service built. -/
  | service (s : Service)
  /-- Asks the engine. -/
  | query (q : Query)
  | evaluate (e : Expr) (file : String)
  | valueOf (d : Declaration)
  | provided (source : SourceExpr)
  /-- Looks at scopes, also before all modules are known. -/
  | lookUp (look : Metadata → Scoping (Option Scope))

/-- Looks at scopes, given what is known about classes so far. -/
def Workspace.lookUp (look : Metadata → Scoping (Option Scope)) : Asking (Option Scope) := do
  require .moduleScopes
  let m := (← get).metadata
  work fun _ => Work.lookUp (look m)

theorem Workspace.safe_lookUp {cx : Context} (look : Metadata → Scoping (Option Scope)) :
    Safe cx (lookUp look) :=
  (safe_require _).bind fun _ => safe_get.bind fun _ =>
    safe_work fun _ world => ⟨world.loader.graph, _, rfl⟩

namespace Request

open Workspace in
/-- The workspace after a request, whether it fails or not. -/
def run : Request → Workspace → Workspace
  | .reset, w => w.reset
  | .all role, w => (Workspace.all role w).2
  | .symbol id, w => (symbol? id w).2
  | .named name, w => (symbolNamed? name w).2
  | .find token origin, w => (Workspace.find token origin w).2
  | .affected changed, w => (Workspace.affected changed w).2
  | .problems, w => (Workspace.problems w).2
  | .problemsOf s, w => (problemsOf? s w).2
  | .about a s _, w => (a.ask s w).2
  | .service s, w => (require s w).2
  | .query q, w => (ask q w).2
  | .evaluate e file, w => ((do require .evaluator; Workspace.evaluate e file : Asking Value) w).2
  | .valueOf d, w => (evaluateDeclaration d w).2
  | .provided source, w => (providersOf source w).2
  | .lookUp look, w => (Workspace.lookUp look w).2

open Workspace in
/-- No request disturbs a workspace for a program. -/
theorem serves {cx : Context} {w : Workspace} (h : Serves cx w) (r : Request) : Serves cx (r.run w) := by
  cases r with
  | reset => exact h.reset
  | all role => exact (answers_all role w h).1
  | symbol id => exact (safe_symbol? id w h).1
  | named name => exact (safe_symbolNamed? name w h).1
  | find token origin => exact (safe_find token origin w h).1
  | affected changed => exact (safe_affected changed w h).1
  | problems => exact (safe_problems w h).1
  | problemsOf s => exact (safe_problemsOf? s w h).1
  | about a s hrole =>
    cases hreads : a.readsMetadata s.role with
    | false => exact (Accessor.safe_ask hreads w h).1
    | true => exact (Accessor.guarded_ask hrole hreads w h).1
  | service s => exact (safe_require s w h).1
  | query q => exact (ask_leads h q).1
  | evaluate e file => exact ((safe_require .evaluator).bind (fun _ => safe_evaluate e file) w h).1
  | valueOf d => exact (safe_evaluateDeclaration d w h).1
  | provided source => exact (safe_providersOf source w h).1
  | lookUp look => exact (safe_lookUp look w h).1

/-- The workspace after some requests, one after the other. -/
def runAll (rs : List Request) (w : Workspace) : Workspace := rs.foldl (fun w r => r.run w) w

theorem serves_runAll {cx : Context} {w : Workspace} (h : Workspace.Serves cx w) (rs : List Request) :
    Workspace.Serves cx (runAll rs w) := by
  induction rs generalizing w with
  | nil => exact h
  | cons r rs ih => exact ih (serves h r)

end Request

/-! ### Isolation -/

namespace Workspace

variable {cx : Context} {w : Workspace}

/-- The errors of a class stay with the class. -/
structure Isolated (cx : Context) (w : Workspace) : Prop where
  /-- Classes are listed by their annotations, with errors or without. -/
  all_eq : ∀ role, (all role w).1 = .ok ((cx.engine.classes role).map (cx.symbolOf · role))
  symbol_eq : ∀ id, (symbol? id w).1 = .ok (cx.symbol? id)
  /-- No request for a token fails. -/
  find_ok : ∀ token origin, ∃ found, (find token origin w).1 = .ok found
  /-- No question about a resolved class fails for the errors of another class. -/
  resolved : ∀ s (a : Accessor), cx.symbol? s.id = some s → s.role ∈ a.roles →
    w.state.stage? s.id = some .resolved →
      (a.ask s w).1 = .ok () ∨ ∃ err, a.MayFail err ∧ (a.ask s w).1 = .error err
  /-- Every question for the analysis of a class with errors fails with its own diagnostics. -/
  errored : ∀ s, cx.symbol? s.id = some s → w.state.stage? s.id = some .errored →
    ∃ ds, ds ≠ [] ∧ (w.state.progress? s.id).bind (·.diagnostics?) = some ds ∧
      ∀ a : Accessor, s.role ∈ a.roles → a.readsMetadata s.role →
        (a.ask s w).1 = .error (.analysis s.name ds)

theorem Serves.isolated (h : Serves cx w) : Isolated cx w where
  all_eq role := (answers_all role).eq_ok h
  symbol_eq id := (answers_symbol? id).eq_ok h
  find_ok token origin := (safe_find token origin).exists_ok h
  resolved s a hs hrole hstage := by
    obtain ⟨found, hreply, hfound⟩ := reply_of_resolved h hstage
    have hsame : found.role = s.role := by
      rw [Context.symbol?, hfound] at hs
      exact congrArg Symbol.role (Option.some.inj hs)
    cases hreads : a.readsMetadata s.role with
    | false =>
      obtain ⟨_, hok⟩ := (Accessor.safe_ask hreads).exists_ok h
      exact .inl hok
    | true =>
      refine ((Accessor.guarded_ask hrole hreads).of_known h hreply hsame).imp_left ?_
      rintro ⟨_, hok⟩
      exact hok
  errored s hs hstage := by
    obtain ⟨ds, hne, hds, hreply⟩ := reply_of_errored h hstage
    refine ⟨ds, hne, hds, fun a hrole hreads => (Accessor.guarded_ask hrole hreads).of_error h ?_⟩
    obtain ⟨role, -, hsymbol⟩ := Option.map_eq_some_iff.1 hs
    rw [hreply, ← hsymbol]
    rfl

theorem serves_of_new {options : Options} {host : Host} {resources : Resources} {log : Log}
    {roots : List String} {program : Program} (hnew : new options host resources log = .ok w)
    (hroots : options.roots host = .ok roots)
    (hload : Program.load host roots options.settings = .ok program) :
    Serves { program, resources, depth := options.maxEvaluationDepth
             strict := options.strictInjectionParameters } w := by
  unfold new Options.check at hnew
  split at hnew
  · cases hnew
  · cases hnew
    exact serves_new hroots hload

/-- **Errors stay with their class.** Some requests are made, in any order, to a workspace for a program
that can be loaded. Then the errors of a class are no failure of any question but those for its own
analysis, and these fail with its diagnostics. -/
theorem isolated_after_requests {options : Options} {host : Host} {resources : Resources} {log : Log}
    {roots : List String} {program : Program} (hnew : new options host resources log = .ok w)
    (hroots : options.roots host = .ok roots)
    (hload : Program.load host roots options.settings = .ok program) (rs : List Request) :
    Isolated { program, resources, depth := options.maxEvaluationDepth
               strict := options.strictInjectionParameters } (Request.runAll rs w) :=
  (Request.serves_runAll (serves_of_new hnew hroots hload) rs).isolated

/-- A class comes as far as with a new engine. -/
theorem stage?_resolve (h : Serves cx w) (id : DeclarationId) :
    (Request.runAll [.query (.resolve id)] w).state.stage? id =
      (cx.engine.answer (.resolve id) (cx.asked {} default [])).2.stage? id := by
  obtain ⟨-, -, -, -, hended, -⟩ := ask_leads h (.resolve id)
  have hnew : (cx.plainContract h.numbered).Tracks (cx.asked {} default []) :=
    Engine.Contract.tracks_new (World.informed_new cx {}) default
  obtain ⟨-, -, hended'⟩ := Engine.answer_tracks h.numbered hnew (.resolve id)
  exact ((hended h.numbered).agree hended').2.2.1

/-- Two pipes, one of which has no name. -/
def pipesHost : Host where
  files := [("/m.ts", "import\x7bPipe\x7dfrom'@angular/core';@Pipe(\x7b\x7d)export class B\x7b\x7d" ++
    "@Pipe(\x7bname:'g'\x7d)export class G\x7b\x7d")]

/-- The pipe without a name is listed like the other one. Questions about it fail with its error, and
those about the other one do not fail. -/
theorem isolated_after_requests_pipes :
    ∃ w, new { files := ["/m.ts"] } pipesHost {} default = .ok w ∧
      (all .pipe w).1 = .ok [⟨0, .pipe, "B", "/m.ts"⟩, ⟨1, .pipe, "G", "/m.ts"⟩] ∧
      (∃ ds, ds ≠ [] ∧ (Accessor.dependencies.ask ⟨0, .pipe, "B", "/m.ts"⟩
        (Request.runAll [.query (.resolve 0)] w)).1 = .error (.analysis "B" ds)) ∧
      (Accessor.metadata.ask ⟨1, .pipe, "G", "/m.ts"⟩ (Request.runAll [.query (.resolve 1)] w)).1 =
        .ok () := by
  -- What has to be computed is about the program and about a new engine, not about the workspace.
  have hfacts : (Program.load pipesHost ["/m.ts"] {}).toOption.map (fun program =>
      let cx : Context := { program }
      ([0, 1].map cx.symbol?, (cx.engine.classes .pipe).map (cx.symbolOf · .pipe), [0, 1].map fun id =>
        (cx.engine.answer (.resolve id) (cx.asked {} default [])).2.stage? id)) =
      some ([some ⟨0, .pipe, "B", "/m.ts"⟩, some ⟨1, .pipe, "G", "/m.ts"⟩],
        [⟨0, .pipe, "B", "/m.ts"⟩, ⟨1, .pipe, "G", "/m.ts"⟩], [some .errored, some .resolved]) := by
    decide +kernel
  cases hload : Program.load pipesHost ["/m.ts"] {} with
  | error err => rw [hload] at hfacts; cases hfacts
  | ok program =>
    rw [hload] at hfacts
    simp only [Except.toOption, Option.map_some, Option.some.injEq, Prod.mk.injEq, List.map_cons,
      List.map_nil, List.cons.injEq, and_true] at hfacts
    obtain ⟨⟨hfirst, hsecond⟩, hall, herrored, hresolved⟩ := hfacts
    have hroots : Options.roots { files := ["/m.ts"] } pipesHost = .ok ["/m.ts"] :=
      congrArg Except.ok (by decide +kernel)
    have hnew : ∃ w, new { files := ["/m.ts"] } pipesHost {} default = .ok w := ⟨_, rfl⟩
    obtain ⟨w, hnew⟩ := hnew
    have hserves := serves_of_new hnew hroots hload
    refine ⟨w, hnew, ?_, ?_, ?_⟩
    · exact ((isolated_after_requests hnew hroots hload []).all_eq .pipe).trans (congrArg Except.ok hall)
    · obtain ⟨ds, hne, -, hds⟩ := (isolated_after_requests hnew hroots hload [.query (.resolve 0)]).errored
        ⟨0, .pipe, "B", "/m.ts"⟩ hfirst ((stage?_resolve hserves 0).trans herrored)
      exact ⟨ds, hne, hds .dependencies (by decide) rfl⟩
    · have hanswer := (isolated_after_requests hnew hroots hload [.query (.resolve 1)]).resolved
        ⟨1, .pipe, "G", "/m.ts"⟩ .metadata hsecond (by decide) ((stage?_resolve hserves 1).trans hresolved)
      rcases hanswer with hok | ⟨err, hfail, -⟩
      · exact hok
      · exact hfail.elim

end Workspace

end ComponentAtlas