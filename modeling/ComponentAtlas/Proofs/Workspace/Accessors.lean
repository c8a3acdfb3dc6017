import ComponentAtlas.Proofs.Workspace.LazyRoutes
import ComponentAtlas.Proofs.Workspace.Safety
import ComponentAtlas.Workspace.Views

/-!
# Questions about a class

Most questions about an annotated class read its analysis first. They are answered only if there is
one, and then fail only for reasons that have nothing to do with the errors of classes: a template that
cannot be bound, and routes that go in a circle.

* `Workspace.Known`, `Workspace.Denied`: whether a class has an analysis, and how questions fail if not;
* `Workspace.Guarded`: a computation that needs the analysis of a class;
* `Workspace.boundTemplate_leads`: what a template is bound to, given its scope;
* `Accessor`: the questions about a class; `Accessor.guarded_ask`, `Accessor.safe_ask`: how they can fail.
-/

namespace ComponentAtlas

open ComponentAtlas.Script

namespace Workspace

variable {cx : Context} {w : Workspace} {β γ : Type}

/-! ### Questions that need an analysis -/

/-- The analysis of a class of its own role. -/
def metadataOf (s : Symbol) : Asking Analysis := do
  let a ← analysisOf s
  if a.role = s.role then return a else throw (.skipped s.name)

/-- The class has an analysis. -/
def Known (cx : Context) (s : Symbol) : Prop := ∃ a, cx.reply (.analysis s.id) = .ok (.analysis (some a))

/-- The failure of a question that needs the analysis of a class, because there is none. -/
def Denied (cx : Context) (s : Symbol) (err : Failure) : Prop :=
  cx.reply (.analysis s.id) = .error err ∨ err = .skipped s.name ∧
    ∃ a?, cx.reply (.analysis s.id) = .ok (.analysis a?) ∧ ∀ a, a? = some a → a.role ≠ s.role

/-- A computation gives an answer only if the class has an analysis. It may then still fail in ways that
are known. -/
def Guarded (cx : Context) (s : Symbol) (E : Failure → Prop) (x : Asking β) : Prop :=
  Answers (Serves cx) (fun err => Denied cx s err ∨ Known cx s ∧ E err) (fun _ => Known cx s) x

section Guarded

variable {s : Symbol} {E : Failure → Prop} {x : Asking β} {f : β → Asking γ}

theorem Guarded.bind (hx : Guarded cx s E x) (hf : ∀ b, Answers (Serves cx) E (fun _ => True) (f b)) :
    Guarded cx s E (x >>= f) :=
  Answers.bind hx fun b hknown => (hf b).mono (fun _ herr => .inr ⟨hknown, herr⟩) fun _ _ => hknown

theorem Safe.answers (hx : Safe cx x) : Answers (Serves cx) E (fun _ => True) x :=
  hx.mono (fun _ herr => herr.elim) fun _ h => h

theorem answers_analysisOf (s : Symbol) : Answers (Serves cx) (Denied cx s)
    (fun a => cx.reply (.analysis s.id) = .ok (.analysis (some a))) (analysisOf s) := by
  have hdenied : ∀ err, cx.reply (.analysis s.id) = .error err → Denied cx s err := fun _ herr => .inl herr
  refine ((answers_analysis? (steady_serves cx) s.id).mono hdenied fun _ ha => ha).bind fun a ha => ?_
  cases a with
  | none => exact answers_throw (.inr ⟨rfl, none, ha, by rintro _ ⟨⟩⟩)
  | some a => exact answers_pure ha

theorem denied_of_role {a : Analysis} (ha : cx.reply (.analysis s.id) = .ok (.analysis (some a)))
    (hrole : a.role ≠ s.role) : Denied cx s (.skipped s.name) := by
  refine .inr ⟨rfl, some a, ha, ?_⟩
  rintro _ ⟨⟩
  exact hrole

/-- A computation that starts with the analysis of a class. -/
theorem guarded_of_analysisOf (h : Answers (Serves cx) (Denied cx s) (fun _ => Known cx s) x) :
    Guarded cx s E x :=
  h.mono (fun _ herr => .inl herr) fun _ hknown => hknown

theorem guarded_analysisOf : Guarded cx s E (analysisOf s) :=
  guarded_of_analysisOf ((answers_analysisOf s).mono (fun _ herr => herr) fun a ha => ⟨a, ha⟩)

theorem guarded_metadataOf : Guarded cx s E (metadataOf s) := by
  refine guarded_of_analysisOf ((answers_analysisOf s).bind fun a ha => ?_)
  split
  · exact answers_pure ⟨a, ha⟩
  · next hrole => exact answers_throw (denied_of_role ha hrole)

theorem guarded_componentOf (hs : s.role = .component) : Guarded cx s E (componentOf s) := by
  refine guarded_of_analysisOf ((answers_analysisOf s).bind fun a ha => ?_)
  cases a with
  | component c => exact answers_pure ⟨_, ha⟩
  | _ => exact answers_throw (denied_of_role ha (by rw [hs]; nofun))

theorem guarded_moduleOf (hs : s.role = .ngModule) : Guarded cx s E (moduleOf s) := by
  refine guarded_of_analysisOf ((answers_analysisOf s).bind fun a ha => ?_)
  cases a with
  | ngModule m => exact answers_pure ⟨_, ha⟩
  | _ => exact answers_throw (denied_of_role ha (by rw [hs]; nofun))

theorem guarded_componentScope (hs : s.role = .component) : Guarded cx s E (componentScope s) := by
  refine (guarded_componentOf hs).bind fun _ => (safe_resolution? s.id).bind (fun r => ?_) |>.answers
  split <;> exact safe_pure _

theorem guarded_moduleScope (hs : s.role = .ngModule) : Guarded cx s E (moduleScope s) := by
  refine (guarded_moduleOf hs).bind fun _ => (safe_resolution? s.id).bind (fun r => ?_) |>.answers
  split <;> exact safe_pure _

theorem guarded_template? (hs : s.role = .component) : Guarded cx s E (template? s) :=
  (guarded_componentOf hs).bind fun _ => (safe_pure _).answers

theorem guarded_viewProviders (hs : s.role = .component) : Guarded cx s E (viewProviders s) :=
  (guarded_componentOf hs).bind fun _ => (safe_offeredBy s _).answers

theorem guarded_selectorScope (hs : s.role = .component) : Guarded cx s E (selectorScope s) :=
  (guarded_componentScope hs).bind fun _ => (safe_pure _).answers

theorem guarded_pipeScope (hs : s.role = .component) : Guarded cx s E (pipeScope s) :=
  (guarded_componentScope hs).bind fun _ => (safe_pure _).answers

theorem guarded_styleSheets (hs : s.role = .component) : Guarded cx s E (styleSheets s) :=
  (guarded_componentOf hs).bind fun _ => (safe_pure _).answers

theorem guarded_templateProblems (hs : s.role = .component) : Guarded cx s E (templateProblems s) := by
  refine (guarded_template? hs).bind fun template => Safe.answers ?_
  rcases template with _ | ⟨_ | _⟩ <;> exact safe_pure _

theorem guarded_ownerOf (hs : s.role = .component) : Guarded cx s E (ownerOf s) := by
  refine (guarded_componentOf hs).bind fun _ => Safe.answers ?_
  refine (safe_require _).bind fun _ => safe_get.bind fun w => ?_
  split
  · exact safe_symbol? _
  · exact safe_pure _

/-- The classes that a module lists. -/
theorem guarded_members (hs : s.role = .ngModule) (members : ModuleAnalysis → List Reference) :
    Guarded cx s E (do let _ ← symbols (members (← moduleOf s))) :=
  (guarded_moduleOf hs).bind fun _ => ((safe_symbols _).bind fun _ => safe_pure _).answers

/-- A template that cannot be bound is a failure of its own. -/
theorem guarded_boundTemplate (hs : s.role = .component) :
    Guarded cx s (fun err => ∃ text, err = .malformedInput text) (boundTemplate s) := by
  refine Answers.bind (guarded_componentScope hs) fun scope hknown => ?_
  cases scope with
  | none => exact answers_pure hknown
  | some scope =>
    refine Answers.bind (guarded_template? hs) fun template _ => ?_
    rcases template with _ | ⟨_ | y⟩
    · exact answers_pure hknown
    · exact answers_pure hknown
    · refine (safe_log _).answers.bind fun _ _ => safe_get.answers.bind fun w _ => ?_
      dsimp only
      split
      · exact answers_pure hknown
      · exact answers_throw (.inr ⟨hknown, _, rfl⟩)

theorem guarded_providersOfSymbol (hpipe : s.role ≠ .pipe) (hinjectable : s.role ≠ .injectable) :
    Guarded cx s E (providersOfSymbol s) := by
  unfold providersOfSymbol
  cases hrole : s.role with
  | pipe => exact absurd hrole hpipe
  | injectable => exact absurd hrole hinjectable
  | _ =>
    refine guarded_analysisOf.bind fun a => Safe.answers ?_
    cases a with
    | ngModule m =>
      refine (safe_offeredBy s _).bind fun own => (safe_require _).bind fun _ => ?_
      exact (safe_offeredByValues s _).bind fun _ => safe_pure _
    | component c => exact safe_offeredBy s _
    | directive d => exact safe_offeredBy s _
    | pipe p => exact safe_pure _
    | injectable i => exact safe_pure _

theorem guarded_dependencies (hs : s.role ≠ .ngModule) : Guarded cx s E (dependencies s) := by
  have hread : Guarded cx s E (do supplies s ((← analysisOf s).deps.getD [])) :=
    guarded_analysisOf.bind fun a => (safe_supplies s _).answers
  unfold dependencies
  cases hrole : s.role with
  | ngModule => exact absurd hrole hs
  | _ => exact hread

/-- Routes that go in a circle are a failure of their own. -/
theorem guarded_lazyRoutes (hs : s.role = .ngModule) :
    Guarded cx s (fun err => ∃ names, err = .lazyRouteCycle names) (lazyRoutes s) := by
  refine (guarded_moduleOf hs).bind fun _ => ?_
  intro w hw
  refine theProgram_bind_leads hw ?_
  refine (answers_require (steady_open cx) _).bind fun _ _ => ?_
  refine (answers_require (steady_open cx) _).bind fun _ _ => ?_
  -- The search is the one over the map, which fails only for a circle.
  refine ((discover_finds hw.loaded _ s.id _).mono (fun err herr => ?_) fun _ hfound => hfound).bind ?_
  · exact RouteMap.explore_error herr
  · exact fun _ _ => answers_pure trivial

/-- A class with an analysis of its own role is not denied. -/
theorem Guarded.of_known {a : Analysis} (h : Guarded cx s E x) (hw : Serves cx w)
    (ha : cx.reply (.analysis s.id) = .ok (.analysis (some a))) (hrole : a.role = s.role) :
    (∃ b, (x w).1 = .ok b) ∨ ∃ err, E err ∧ (x w).1 = .error err := by
  have hfits := (h w hw).2
  cases hx : (x w).1 with
  | ok b => exact .inl ⟨b, rfl⟩
  | error err =>
    rw [hx] at hfits
    rcases hfits with (herr | ⟨-, a?, ha?, hother⟩) | ⟨-, herr⟩
    · rw [ha] at herr
      cases herr
    · rw [ha] at ha?
      cases ha?
      exact absurd hrole (hother a rfl)
    · exact .inr ⟨err, herr, rfl⟩

/-- A class with errors is denied for its own errors. -/
theorem Guarded.of_error {err : Failure} (h : Guarded cx s E x) (hw : Serves cx w)
    (herr : cx.reply (.analysis s.id) = .error err) : (x w).1 = .error err := by
  have hfits := (h w hw).2
  have hunknown : ¬ Known cx s := by
    rintro ⟨a, ha⟩
    rw [herr] at ha
    cases ha
  cases hx : (x w).1 with
  | ok b =>
    rw [hx] at hfits
    exact absurd hfits hunknown
  | error err' =>
    rw [hx] at hfits
    rcases hfits with (herr' | ⟨-, a?, ha?, -⟩) | ⟨hknown, -⟩
    · rw [herr] at herr'
      cases herr'
      rfl
    · rw [herr] at ha?
      cases ha?
    · exact absurd hknown hunknown

end Guarded

/-! ### Bound templates -/

theorem analysisOf_surveys (h : Serves cx w) (s : Symbol) :
    Leads (analysisOf s) w fun _ t => Surveyed cx t := by
  have hask : Leads (analysis? s.id) w fun _ t => Surveyed cx t := by
    refine (ask_surveys h (q := .analysis s.id) rfl).keeps fun a t ht => ?_
    cases a <;> exact ht
  refine hask.keeps fun a t ht => ?_
  cases a <;> exact ht

theorem componentOf_surveys (h : Serves cx w) (s : Symbol) :
    Leads (componentOf s) w fun _ t => Surveyed cx t := by
  refine (analysisOf_surveys h s).keeps fun a t ht => ?_
  cases a <;> exact ht

theorem template?_surveys (h : Serves cx w) (s : Symbol) :
    Leads (template? s) w fun _ t => Surveyed cx t :=
  (componentOf_surveys h s).keeps fun _ _ ht => ht

theorem componentScope_surveys (h : Serves cx w) (s : Symbol) :
    Leads (componentScope s) w fun _ t => Surveyed cx t := by
  refine (componentOf_surveys h s).keeps fun _ t ht => ?_
  have hask : Leads (resolution? s.id) t fun _ u => Surveyed cx u := by
    refine (ask_surveys ht.serves (q := .resolution s.id) rfl).keeps fun a u hu => ?_
    cases a <;> exact hu
  refine hask.keeps fun r u hu => ?_
  rcases r with _ | ⟨_ | _⟩ <;> exact hu

/-- The nodes of a template are bound to the symbols that questions for the classes of the scope would
give: by then the whole program is analysed, and all these classes are on record. -/
theorem boundTemplate_leads (h : Serves cx w) (s : Symbol) :
    Leads (boundTemplate s) w fun r t => Surveyed cx t ∧ ∀ scope y,
      (componentScope s w).1 = .ok (some scope) →
      (template? s (componentScope s w).2).1 = .ok (some (.ok y)) →
      r = match (Template.Binding.ofScope scope).nodes cx.symbol? y.nodes with
        | .ok nodes => .ok (.ok (some nodes))
        | .error text => .error (.malformedInput text) := by
  have hscope : Leads (componentScope s) w fun r t =>
      r = (componentScope s w).1 ∧ t = (componentScope s w).2 ∧ Surveyed cx t :=
    ⟨rfl, rfl, componentScope_surveys h s⟩
  refine hscope.bind ?_ ?_
  · rintro found t ⟨hfound, rfl, ht⟩
    rw [← hfound]
    cases found with
    | none => exact .pure ⟨ht, nofun⟩
    | some scope =>
      have htemplate : Leads (template? s) (componentScope s w).2 fun r u =>
          r = (template? s (componentScope s w).2).1 ∧ Surveyed cx u :=
        ⟨rfl, template?_surveys ht.serves s⟩
      refine htemplate.bind ?_ ?_
      · rintro template u ⟨hread, hu⟩
        rw [← hread]
        rcases template with _ | ⟨_ | y⟩
        · exact .pure ⟨hu, nofun⟩
        · exact .pure ⟨hu, nofun⟩
        · refine .modify_bind (.get_bind ?_)
          have hnext := hu.log (u.state.log.notes (Template.Binding.ofScope scope).remarks)
          -- the records of all classes of the scope are there, and so nothing has to be asked
          have hsame := funext hnext.recorded?_eq
          dsimp only at hsame ⊢
          rw [hsame]
          split
          · next hnodes =>
            refine .pure ⟨hnext, ?_⟩
            rintro _ _ ⟨⟩ ⟨⟩
            rw [hnodes]
          · next hnodes =>
            refine ⟨hnext, ?_⟩
            rintro _ _ ⟨⟩ ⟨⟩
            rw [hnodes]
            rfl
      · rintro err u ⟨hread, hu⟩
        rw [← hread]
        exact ⟨hu, nofun⟩
  · rintro err t ⟨hfound, rfl, ht⟩
    rw [← hfound]
    exact ⟨ht, nofun⟩

end Workspace

/-! ### All questions about a class -/

/-- The questions about an annotated class. -/
inductive Accessor
  | metadata
  | dependencies
  | providers
  | viewProviders
  | componentScope
  | moduleScope
  | selectorScope
  | pipeScope
  | template
  | templateProblems
  | styleSheets
  | owner
  | declarations
  | imports
  | exports
  | bootstrap
  | lazyRoutes
  deriving DecidableEq, Repr, Inhabited

namespace Accessor

/-- The roles of the classes that have a question. -/
def roles : Accessor → List Role
  | .metadata | .dependencies | .providers => [.ngModule, .component, .directive, .pipe, .injectable]
  | .moduleScope | .declarations | .imports | .exports | .bootstrap | .lazyRoutes => [.ngModule]
  | .viewProviders | .componentScope | .selectorScope | .pipeScope | .template | .templateProblems
  | .styleSheets | .owner => [.component]

/-- Whether a question reads the analysis: modules have no requests of a constructor, and pipes and
injectable classes have no providers, whatever their analysis says. -/
def readsMetadata : Accessor → Role → Bool
  | .dependencies, .ngModule | .providers, .pipe | .providers, .injectable => false
  | _, _ => true

/-- The failures of a question that have nothing to do with the errors of classes. -/
def MayFail : Accessor → Failure → Prop
  | .template, err => ∃ text, err = .malformedInput text
  | .lazyRoutes, err => ∃ names, err = .lazyRouteCycle names
  | _, _ => False

open Workspace in
/-- Asks a question about a class. -/
def ask (s : Symbol) : Accessor → Asking Unit
  | .metadata => do let _ ← metadataOf s
  | .dependencies => do let _ ← Workspace.dependencies s
  | .providers => do let _ ← providersOfSymbol s
  | .viewProviders => do let _ ← Workspace.viewProviders s
  | .componentScope => do let _ ← Workspace.componentScope s
  | .moduleScope => do let _ ← Workspace.moduleScope s
  | .selectorScope => do let _ ← Workspace.selectorScope s
  | .pipeScope => do let _ ← Workspace.pipeScope s
  | .template => do let _ ← boundTemplate s
  | .templateProblems => do let _ ← Workspace.templateProblems s
  | .styleSheets => do let _ ← Workspace.styleSheets s
  | .owner => do let _ ← ownerOf s
  | .declarations => do let _ ← symbols (← moduleOf s).declarations
  | .imports => do let _ ← symbols (← moduleOf s).imports
  | .exports => do let _ ← symbols (← moduleOf s).exports
  | .bootstrap => do let _ ← symbols (← moduleOf s).bootstrap
  | .lazyRoutes => do let _ ← Workspace.lazyRoutes s

variable {cx : Context} {s : Symbol} {a : Accessor}

open Workspace

/-- A question that does not read the analysis never fails. -/
theorem safe_ask (h : a.readsMetadata s.role = false) : Safe cx (a.ask s) := by
  have hpure : ∀ {β : Type} {x : Asking (List β)}, x = pure [] → Safe cx (do let _ ← x) := by
    rintro β _ rfl
    exact (safe_pure _).bind fun _ => safe_pure _
  unfold readsMetadata at h
  split at h
  · next hrole => exact hpure (by rw [Workspace.dependencies, hrole])
  · next hrole => exact hpure (by rw [providersOfSymbol, hrole])
  · next hrole => exact hpure (by rw [providersOfSymbol, hrole])
  · cases h

/-- A question that reads the analysis is answered only for a class that has one. -/
theorem guarded_ask (hrole : s.role ∈ a.roles) (h : a.readsMetadata s.role) :
    Guarded cx s a.MayFail (a.ask s) := by
  have hdone : ∀ {β : Type} (b : β), Answers (Serves cx) a.MayFail (fun _ => True) (pure ()) :=
    fun _ => answers_pure trivial
  cases a with
  | metadata => exact guarded_metadataOf.bind hdone
  | dependencies =>
    refine (guarded_dependencies fun hs => ?_).bind hdone
    rw [hs] at h
    cases h
  | providers =>
    refine (guarded_providersOfSymbol (fun hs => ?_) fun hs => ?_).bind hdone
    · rw [hs] at h
      cases h
    · rw [hs] at h
      cases h
  | viewProviders => exact (guarded_viewProviders (List.mem_singleton.1 hrole)).bind hdone
  | componentScope => exact (guarded_componentScope (List.mem_singleton.1 hrole)).bind hdone
  | selectorScope => exact (guarded_selectorScope (List.mem_singleton.1 hrole)).bind hdone
  | pipeScope => exact (guarded_pipeScope (List.mem_singleton.1 hrole)).bind hdone
  | template => exact (guarded_boundTemplate (List.mem_singleton.1 hrole)).bind hdone
  | templateProblems => exact (guarded_templateProblems (List.mem_singleton.1 hrole)).bind hdone
  | styleSheets => exact (guarded_styleSheets (List.mem_singleton.1 hrole)).bind hdone
  | owner => exact (guarded_ownerOf (List.mem_singleton.1 hrole)).bind hdone
  | moduleScope => exact (guarded_moduleScope (List.mem_singleton.1 hrole)).bind hdone
  | declarations => exact guarded_members (List.mem_singleton.1 hrole) _
  | imports => exact guarded_members (List.mem_singleton.1 hrole) _
  | exports => exact guarded_members (List.mem_singleton.1 hrole) _
  | bootstrap => exact guarded_members (List.mem_singleton.1 hrole) _
  | lazyRoutes => exact (guarded_lazyRoutes (List.mem_singleton.1 hrole)).bind hdone

end Accessor

end ComponentAtlas
