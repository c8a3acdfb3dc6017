import ComponentAtlas.Proofs.Analysis.Records
import ComponentAtlas.Proofs.Roles.Scopeless
import ComponentAtlas.Workspace.Symbols

/-!
# Workspaces that can load their program

A workspace builds its services when they are needed, and asks the engine. If the program can be
loaded, no service fails to be built, and what the engine answers depends on the program alone.

* `Workspace.Leads`: what a computation leads to from a workspace;
* `Workspace.Serves`: a workspace for a program, with whatever was asked before;
* `Workspace.require_leads`, `Workspace.ask_leads`: services are built, and questions are answered;
* `Workspace.Answers`: a computation keeps a condition on workspaces, and its outcome satisfies one;
* `Context.reply`: what a new engine answers; `Workspace.answers_ask`, `Workspace.answers_analysis?`.
-/

namespace ComponentAtlas

open ComponentAtlas.Script

/-- What a new engine answers. -/
def Context.reply (cx : Context) (q : Query) : Except Failure (Answer Analysis Resolution) :=
  (cx.engine.answer q (cx.asked {} default [])).1

/-- A new engine says what its records say after the question, which it has served. -/
theorem Context.reply_eq_said {cx : Context} (hp : cx.program.Numbered) (q : Query) :
    ∃ s, (cx.plainContract hp).Tracks s ∧ (cx.plainContract hp).Serves s q ∧ cx.reply q = s.said q := by
  have hnew : (cx.plainContract hp).Tracks (cx.asked {} default []) :=
    Engine.Contract.tracks_new (World.informed_new cx {}) default
  obtain ⟨hanswer, htracks, hserves⟩ := Engine.answer_tracks hp hnew q
  exact ⟨_, htracks, hserves, hanswer⟩

/-- Only errors of the class itself keep its analysis back. -/
theorem Context.reply_analysis {cx : Context} (hp : cx.program.Numbered) (id : DeclarationId) :
    (∃ a, cx.reply (.analysis id) = .ok (.analysis a)) ∨
      ∃ name ds, cx.reply (.analysis id) = .error (.analysis name ds) := by
  obtain ⟨s, -, -, hsaid⟩ := cx.reply_eq_said hp (.analysis id)
  rw [hsaid, Engine.State.said]
  split
  · exact .inl ⟨none, rfl⟩
  · split
    · exact .inr ⟨_, _, rfl⟩
    · exact .inl ⟨_, rfl⟩

namespace Workspace

/-! ### Computations -/

/-- A computation leads from a workspace to an outcome and a workspace that satisfy a condition. -/
def Leads {β : Type} (x : Asking β) (w : Workspace) (Q : Except Failure β → Workspace → Prop) : Prop :=
  Q (x w).1 (x w).2

namespace Leads

variable {β γ : Type} {x : Asking β} {f : β → Asking γ} {w : Workspace}
  {P Q : Except Failure β → Workspace → Prop} {R : Except Failure γ → Workspace → Prop}

theorem mono (h : Leads x w P) (hPQ : ∀ b t, P b t → Q b t) : Leads x w Q := hPQ _ _ h

theorem bind (hx : Leads x w P) (hok : ∀ b t, P (.ok b) t → Leads (f b) t R)
    (herr : ∀ err t, P (.error err) t → R (.error err) t) : Leads (x >>= f) w R := by
  have heq : (x >>= f) w = ExceptT.bindCont f (x w).1 (x w).2 := rfl
  unfold Leads at hx ⊢
  rw [heq]
  rcases hxw : x w with ⟨b | b, t⟩ <;> rw [hxw] at hx
  · exact herr b t hx
  · exact hok b t hx

/-- After a computation that gives a known result. -/
theorem bind_ok {b : β} (hx : Leads x w P) (hb : ∀ r t, P r t → r = .ok b)
    (hok : ∀ t, P (.ok b) t → Leads (f b) t R) : Leads (x >>= f) w R := by
  refine hx.bind ?_ ?_
  · intro b' t ht
    cases hb _ t ht
    exact hok t ht
  · intro err t ht
    cases hb _ t ht

/-- A condition on workspaces is kept, whether the first computation fails or not. -/
theorem keeps {I : Workspace → Prop} (hx : Leads x w fun _ t => I t)
    (hf : ∀ b t, I t → Leads (f b) t fun _ u => I u) : Leads (x >>= f) w fun _ u => I u :=
  hx.bind hf fun _ _ ht => ht

theorem pure {b : β} (h : Q (.ok b) w) : Leads (Pure.pure b) w Q := h

theorem get_bind {k : Workspace → Asking γ} (h : Leads (k w) w R) : Leads (get >>= k) w R := h

theorem modify_bind {f : Workspace → Workspace} {k : PUnit → Asking γ} (h : Leads (k ()) (f w) R) :
    Leads (modify f >>= k) w R := h

theorem of_modify {f : Workspace → Workspace} {Q : Except Failure PUnit → Workspace → Prop}
    (h : Q (.ok ()) (f w)) : Leads (modify f) w Q := h

end Leads

/-! ### Workspaces for a program -/

/-- A workspace that loads, or has loaded, the program of a context. What was found out so far is what
the engine finds out about that program. -/
structure Serves (cx : Context) (w : Workspace) : Prop where
  resources_eq : w.resources = cx.resources
  depth_eq : w.options.maxEvaluationDepth = cx.depth
  strict_eq : w.options.strictInjectionParameters = cx.strict
  loads : ∃ roots, w.options.roots w.host = .ok roots ∧
    Program.load w.host roots w.options.settings = .ok cx.program
  program_eq : .program ∈ w.built → w.program = cx.program
  program_built : ∀ s ∈ w.built, s ≠ .registry → .program ∈ w.built
  tracks : ∀ hp : cx.program.Numbered, (cx.plainContract hp).Tracks w.state
  keyed : w.state.Keyed

section Serves

variable {cx : Context} {w : Workspace}

theorem Serves.numbered (h : Serves cx w) : cx.program.Numbered := by
  obtain ⟨roots, -, hload⟩ := h.loads
  exact Program.load_numbered hload

theorem Serves.context_eq (h : Serves cx w) (hbuilt : .program ∈ w.built) : w.context = cx := by
  rw [context, h.program_eq hbuilt, h.resources_eq, h.depth_eq, h.strict_eq]

theorem Serves.withState (h : Serves cx w) {s : Engine.State World Analysis Resolution}
    (hs : (cx.plainContract h.numbered).Tracks s) (hkeyed : s.Keyed) : Serves cx { w with state := s } :=
  ⟨h.resources_eq, h.depth_eq, h.strict_eq, h.loads, h.program_eq, h.program_built, fun _ => hs, hkeyed⟩

theorem Serves.log (h : Serves cx w) (log : Log) : Serves cx { w with state := { w.state with log } } :=
  h.withState ((h.tracks h.numbered).of_eq rfl rfl rfl rfl (fun _ => id) id) h.keyed

theorem Serves.note (h : Serves cx w) (level : Level) (message : String) :
    Serves cx (w.note level message) := h.log _

/-- Dependencies between files may be noted at any time, and scopes may be looked at. -/
theorem Serves.world (h : Serves cx w) (graph : FileGraph) (scopes : Scopes) (log : Log) :
    Serves cx { w with state := { w.state with
      world := { w.state.world with loader := { w.state.world.loader with graph }, scopes }, log } } := by
  refine h.withState ((h.tracks h.numbered).of_eq rfl rfl rfl rfl (fun done hw => ?_) fun hw => ?_) h.keyed
  · exact ⟨hw.loader, hw.registry⟩
  · exact ⟨hw.loader, hw.registry⟩

theorem serves_new {options : Options} {host : Host} {resources : Resources} {log : Log}
    {roots : List String} {p : Program} (hroots : options.roots host = .ok roots)
    (hload : Program.load host roots options.settings = .ok p) :
    Serves { program := p, resources, depth := options.maxEvaluationDepth
             strict := options.strictInjectionParameters }
      { options, host, resources, state := { world := {}, log } } where
  resources_eq := rfl
  depth_eq := rfl
  strict_eq := rfl
  loads := ⟨roots, hroots, hload⟩
  program_eq h := nomatch h
  program_built _ h := nomatch h
  tracks hp := Engine.Contract.tracks_new (K := Context.plainContract _ hp) (World.informed_new _ {}) log
  keyed := List.nodup_nil

theorem Serves.reset (h : Serves cx w) : Serves cx w.reset where
  resources_eq := h.resources_eq
  depth_eq := h.depth_eq
  strict_eq := h.strict_eq
  loads := h.loads
  program_eq h := nomatch h
  program_built _ h := nomatch h
  tracks hp := Engine.Contract.tracks_new (K := Context.plainContract _ hp) (World.informed_new _ {}) _
  keyed := List.nodup_nil

/-! ### Services -/

/-- A service is there, and all those that were there before. -/
structure Readies (cx : Context) (s : Service) (w : Workspace) (r : Except Failure Unit)
    (t : Workspace) : Prop where
  ok : r = .ok ()
  serves : Serves cx t
  grows : w.built ⊆ t.built
  built : s ∈ t.built

theorem foldl_note (ds : List Diagnostic) (w : Workspace) :
    ∃ log, ds.foldl (fun w d => w.note .warn d.render) w = { w with state := { w.state with log } } := by
  induction ds generalizing w with
  | nil => exact ⟨w.state.log, rfl⟩
  | cons d ds ih => exact ih (w.note .warn d.render)

theorem loadProgram_leads (h : Serves cx w) : Leads loadProgram w fun r t =>
    r = .ok () ∧ ∃ log, t = { w with program := cx.program, state := { w.state with log } } := by
  obtain ⟨roots, hroots, hload⟩ := h.loads
  have hlift : Leads (liftM (w.options.roots w.host)) w fun r t => r = .ok roots ∧ t = w := ⟨hroots, rfl⟩
  unfold loadProgram
  refine .get_bind (hlift.bind_ok (fun _ _ h => h.1) ?_)
  rintro _ ⟨-, rfl⟩
  rw [hload]
  exact .of_modify ⟨rfl, foldl_note _ _⟩

/-- A service is built; only the program changes what the workspace says about files. -/
theorem build_leads (h : Serves cx w) (s : Service) :
    Leads (build s) w fun r t => r = .ok () ∧ Serves cx t ∧ t.built = w.built ∧
      (s = .program → t.program = cx.program) := by
  cases s with
  | program =>
    refine (loadProgram_leads h).mono ?_
    rintro r _ ⟨rfl, log, rfl⟩
    refine ⟨rfl, ⟨h.resources_eq, h.depth_eq, h.strict_eq, h.loads, fun _ => rfl, h.program_built, ?_, ?_⟩,
      rfl, fun _ => rfl⟩
    · exact (h.log log).tracks
    · exact h.keyed
  | dependencies => exact ⟨rfl, h.world _ _ _, rfl, nofun⟩
  | _ => exact ⟨rfl, h, rfl, nofun⟩

theorem forM_leads {β : Type} (service : β → Service) {xs : List β} {f : β → Asking Unit}
    (hf : ∀ x ∈ xs, ∀ w, Serves cx w → Leads (f x) w (Readies cx (service x) w)) (h : Serves cx w) :
    Leads (xs.forM f) w fun r t => r = .ok () ∧ Serves cx t ∧ w.built ⊆ t.built ∧
      ∀ x ∈ xs, service x ∈ t.built := by
  induction xs generalizing w with
  | nil => exact ⟨rfl, h, List.Subset.refl _, by simp⟩
  | cons x xs ih =>
    show Leads (f x >>= fun _ => xs.forM f) w _
    refine (hf x List.mem_cons_self w h).bind_ok (fun _ _ h => h.ok) ?_
    rintro t ⟨-, ht, hgrows, hx⟩
    refine (ih (fun y hy => hf y (List.mem_cons_of_mem _ hy)) ht).mono ?_
    rintro r u ⟨hr, hu, hgrows', hxs⟩
    exact ⟨hr, hu, List.Subset.trans hgrows hgrows', List.forall_mem_cons.2 ⟨hgrows' hx, hxs⟩⟩

/-- Every service but the registry needs, in the end, the program. -/
theorem exists_needs {s : Service} (hprogram : s ≠ .program) (hregistry : s ≠ .registry) :
    ∃ t ∈ s.needs, t ≠ .registry := by
  revert hprogram hregistry
  cases s <;> decide

/-- A service is there after those that it needs. -/
theorem Serves.withService (h : Serves cx w) {s : Service} (hneeds : ∀ need ∈ s.needs, need ∈ w.built)
    (hprogram : s = .program → w.program = cx.program) :
    Serves cx { w with built := w.built ++ [s] } := by
  refine ⟨h.resources_eq, h.depth_eq, h.strict_eq, h.loads, ?_, ?_, h.tracks, h.keyed⟩
  · intro hmem
    rcases List.mem_append.1 hmem with hmem | hmem
    · exact h.program_eq hmem
    · exact hprogram (List.mem_singleton.1 hmem).symm
  · intro service hmem hregistry
    rcases List.mem_append.1 hmem with hmem | hmem
    · exact List.mem_append_left _ (h.program_built service hmem hregistry)
    · rw [List.mem_singleton.1 hmem] at hregistry
      by_cases hs : s = .program
      · exact List.mem_append_right _ (by simp [hs])
      · obtain ⟨need, hneed, hne⟩ := exists_needs hs hregistry
        exact List.mem_append_left _ (h.program_built need (hneeds need hneed) hne)

/-- No service fails to be built. -/
theorem require_leads (h : Serves cx w) (s : Service) : Leads (require s) w (Readies cx s w) := by
  -- A service is built after those that it needs, which is also the order of the induction.
  induction s using require.induct generalizing w with
  | case1 s ih =>
    rw [require]
    refine .get_bind ?_
    split
    · next hbuilt => exact .pure ⟨rfl, h, List.Subset.refl _, hbuilt⟩
    · refine .modify_bind (.bind_ok (forM_leads Subtype.val
        (fun x _ w hw => ih x.1 x.2 hw) (h.note _ _)) (fun _ _ h => h.1) ?_)
      rintro t ⟨-, ht, hgrows, hneeds⟩
      refine (build_leads ht s).bind_ok (fun _ _ h => h.1) ?_
      rintro u ⟨-, hu, hbuilt, hprogram⟩
      refine .of_modify ⟨rfl, hu.withService (fun need hneed => ?_) hprogram, ?_, by simp⟩
      · exact hbuilt ▸ hneeds ⟨need, hneed⟩ (List.mem_attach _ _)
      · exact List.Subset.trans (hbuilt ▸ hgrows) (List.subset_append_left _ _)

/-! ### Questions -/

/-- The engine answers a question; the failure of a question leaves the workspace as it is then. -/
theorem ask_leads (h : Serves cx w) (q : Query) :
    Leads (ask q) w fun r t => Serves cx t ∧ w.built ⊆ t.built ∧ .program ∈ t.built ∧
      r = t.state.said q ∧ (∀ hp, (cx.plainContract hp).Serves t.state q) ∧
      (Engine.analyzesAll q → t.state.allAnalyzed) := by
  unfold ask
  refine (require_leads h .engine).bind_ok (fun _ _ h => h.ok) ?_
  rintro t ⟨-, ht, hgrows, hbuilt⟩
  have hprogram := ht.program_built .engine hbuilt (by decide)
  obtain ⟨hanswer, htracks, hserves⟩ := Engine.answer_tracks ht.numbered (ht.tracks ht.numbered) q
  refine .get_bind ?_
  rw [ht.context_eq hprogram]
  have hnext : Serves cx { t with state := (cx.engine.answer q t.state).2 } :=
    ht.withState htracks (Engine.answer_keyed _ q ht.keyed)
  -- The engine gives no answer that is not on record, so the outcome can be read off the new state.
  simp only [hanswer]
  have hall : Engine.analyzesAll q → (cx.engine.answer q t.state).2.allAnalyzed :=
    Engine.answer_analyzesAll ht.numbered (ht.tracks ht.numbered)
  cases hsaid : (cx.engine.answer q t.state).2.said q with
  | ok a => exact ⟨hnext, hgrows, hprogram, hsaid.symm, fun _ => hserves, hall⟩
  | error f => exact ⟨hnext, hgrows, hprogram, hsaid.symm, fun _ => hserves, hall⟩

theorem reply_of_said (h : Serves cx w) {q : Query} (hq : ∀ id, q ≠ .resolution id)
    (hs : ∀ hp, (cx.plainContract hp).Serves w.state q) : w.state.said q = cx.reply q := by
  obtain ⟨s, htracks, hserves, hsaid⟩ := cx.reply_eq_said h.numbered q
  rw [hsaid]
  exact (h.tracks h.numbered).said_agree htracks (hs h.numbered) hserves hq

end Serves

/-! ### Conditions that computations keep -/

/-- An outcome is a result or a failure that satisfies a condition. -/
def Fits {β : Type} (E : Failure → Prop) (Q : β → Prop) : Except Failure β → Prop
  | .ok b => Q b
  | .error f => E f

/-- A computation keeps a condition on workspaces, and its outcome satisfies one. -/
def Answers {β : Type} (I : Workspace → Prop) (E : Failure → Prop) (Q : β → Prop) (x : Asking β) : Prop :=
  ∀ w, I w → Leads x w fun r t => I t ∧ Fits E Q r

section Answers

variable {β γ : Type} {I : Workspace → Prop} {E E' : Failure → Prop} {Q Q' : β → Prop} {R : γ → Prop}
  {x : Asking β} {f : β → Asking γ}

theorem answers_pure {b : β} (h : Q b) : Answers I E Q (pure b) := fun _ hw => ⟨hw, h⟩

theorem answers_throw {err : Failure} (h : E err) : Answers I E Q (throw err) := fun _ hw => ⟨hw, h⟩

theorem Answers.bind (hx : Answers I E Q x) (hf : ∀ b, Q b → Answers I E R (f b)) :
    Answers I E R (x >>= f) :=
  fun w hw => Leads.bind (hx w hw) (fun b t ht => hf b ht.2 t ht.1) fun _ _ ht => ht

theorem Answers.mono (hx : Answers I E Q x) (hE : ∀ err, E err → E' err) (hQ : ∀ b, Q b → Q' b) :
    Answers I E' Q' x := by
  intro w hw
  refine (hx w hw).mono ?_
  rintro (err | b) t ⟨ht, hfits⟩
  · exact ⟨ht, hE err hfits⟩
  · exact ⟨ht, hQ b hfits⟩

theorem answers_get : Answers I E I get := fun _ hw => ⟨hw, hw⟩

theorem answers_modify {change : Workspace → Workspace} (h : ∀ w, I w → I (change w)) :
    Answers I E (fun _ => True) (modify change : Asking PUnit) := fun w hw => ⟨h w hw, trivial⟩

theorem Answers.tryCatch {handle : Failure → Asking β} (hx : Answers I E Q x)
    (hhandle : ∀ err, E err → Answers I E' Q (handle err)) :
    Answers I E' Q (MonadExcept.tryCatch x handle) := by
  intro w hw
  have heq : (MonadExcept.tryCatch x handle : Asking β) w =
      (match (x w).1 with
        | .ok b => pure b
        | .error err => handle err : Asking β) (x w).2 := by
    show ExceptT.tryCatch x handle w = _
    simp only [ExceptT.tryCatch, ExceptT.mk]
    show StateT.bind x _ w = _
    simp only [StateT.bind]
    rcases x w with ⟨_ | _, t⟩ <;> rfl
  have hfits := hx w hw
  unfold Leads at hfits ⊢
  rw [heq]
  rcases hxw : x w with ⟨err | b, t⟩ <;> rw [hxw] at hfits
  · exact hhandle err hfits.2 t hfits.1
  · exact hfits

end Answers

/-- A workspace that has loaded the program of a context. -/
structure Open (cx : Context) (w : Workspace) : Prop where
  serves : Serves cx w
  built : .program ∈ w.built

/-- A condition on the workspaces for a program that stays true when more services are built and more
is found out. -/
structure Steady (cx : Context) (I : Workspace → Prop) : Prop where
  serves : ∀ {w}, I w → Serves cx w
  later : ∀ {w t}, I w → Serves cx t → w.built ⊆ t.built → I t

section Steady

variable {cx : Context} {I : Workspace → Prop} {E : Failure → Prop} (hI : Steady cx I)

theorem steady_serves (cx : Context) : Steady cx (Serves cx) := ⟨id, fun _ ht _ => ht⟩

theorem steady_open (cx : Context) : Steady cx (Open cx) :=
  ⟨Open.serves, fun h ht hgrows => ⟨ht, hgrows h.built⟩⟩

include hI

theorem answers_require (s : Service) : Answers I E (fun _ => True) (require s) := by
  intro w hw
  refine (require_leads (hI.serves hw) s).mono ?_
  rintro r t ⟨rfl, ht, hgrows, -⟩
  exact ⟨hI.later hw ht hgrows, trivial⟩

theorem answers_log (change : Workspace → Log) :
    Answers I E (fun _ => True)
      (modify fun w => { w with state := { w.state with log := change w } } : Asking PUnit) :=
  answers_modify fun _ hw => hI.later hw ((hI.serves hw).log _) (List.Subset.refl _)

theorem answers_note (level : Level) (message : String) :
    Answers I E (fun _ => True) (modify (note level message) : Asking PUnit) :=
  answers_log hI fun w => w.state.log.write level message

/-- A question is answered as by a new engine. -/
theorem answers_ask {q : Query} (hq : ∀ id, q ≠ .resolution id) :
    Answers I (fun err => cx.reply q = .error err) (fun a => cx.reply q = .ok a) (ask q) := by
  intro w hw
  refine (ask_leads (hI.serves hw) q).mono ?_
  rintro r t ⟨ht, hgrows, -, rfl, hserves, -⟩
  refine ⟨hI.later hw ht hgrows, ?_⟩
  rw [reply_of_said ht hq hserves]
  cases cx.reply q <;> exact rfl

theorem answers_analysis? (id : DeclarationId) :
    Answers I (fun err => cx.reply (.analysis id) = .error err)
      (fun a => cx.reply (.analysis id) = .ok (.analysis a)) (analysis? id) := by
  intro w hw
  refine (answers_ask hI (q := .analysis id) nofun).bind (fun a ha => ?_) w hw
  obtain ⟨found, hfound⟩ | ⟨name, ds, herror⟩ := cx.reply_analysis (hI.serves hw).numbered id
  · rw [hfound] at ha
    cases ha
    exact answers_pure hfound
  · rw [herror] at ha
    cases ha

end Steady

end Workspace

end ComponentAtlas
