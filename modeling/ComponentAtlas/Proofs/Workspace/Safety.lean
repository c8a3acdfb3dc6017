import ComponentAtlas.Proofs.Workspace.Serving

/-!
# Questions that never fail

Listing classes, looking for what answers a request for a token, and collecting providers read the
analyses of many classes. In a workspace for a program none of this fails, whichever classes have
errors.

* `Workspace.Safe`: a computation that never fails;
* `Context.symbol?`: the annotated class with a number; `Workspace.answers_symbol?`;
* `Workspace.Surveyed`: the whole program is analysed, so that classes can be read off the records;
* `Workspace.answers_all`: all classes with a role are listed;
* `Workspace.safe_find`: every request for a token has an answer.
-/

namespace ComponentAtlas

open ComponentAtlas.Script

/-! ### Roles -/

namespace Context

variable {cx : Context} {id : DeclarationId}

/-- The role of a class. -/
def role? (cx : Context) (id : DeclarationId) : Option Role :=
  (cx.engine.claimed? id).map fun claimed => claimed.2.detected.role

/-- A class of the program with a role. -/
def symbolOf (cx : Context) (id : DeclarationId) (role : Role) : Symbol :=
  ⟨id, role, (cx.program.reference id).name, (cx.program.reference id).file⟩

/-- The annotated class with a number. -/
def symbol? (cx : Context) (id : DeclarationId) : Option Symbol := (cx.role? id).map (cx.symbolOf id)

theorem reply_role (hp : cx.program.Numbered) (id : DeclarationId) :
    cx.reply (.role id) = .ok (.role (cx.role? id)) := by
  obtain ⟨s, htracks, hserves, hsaid⟩ := cx.reply_eq_said hp (.role id)
  rw [hsaid, Engine.State.said, htracks.role? hserves, role?]

end Context

namespace Workspace

variable {cx : Context} {w : Workspace} {β γ : Type}

/-! ### Computations that never fail -/

/-- A computation never fails in a workspace for a program, whatever was asked before. -/
def Safe (cx : Context) (x : Asking β) : Prop := Answers (Serves cx) (fun _ => False) (fun _ => True) x

section Safe

variable {x : Asking β} {f : β → Asking γ} {Q : β → Prop}

theorem Answers.safe (h : Answers (Serves cx) (fun _ => False) Q x) : Safe cx x :=
  h.mono (fun _ => id) fun _ _ => trivial

theorem Safe.bind (hx : Safe cx x) (hf : ∀ b, Safe cx (f b)) : Safe cx (x >>= f) :=
  Answers.bind hx fun b _ => hf b

theorem safe_pure (b : β) : Safe cx (pure b) := answers_pure trivial

theorem safe_get : Safe cx get := answers_get.safe

theorem safe_require (s : Service) : Safe cx (require s) := answers_require (steady_serves cx) s

theorem safe_note (level : Level) (message : String) :
    Safe cx (modify (note level message) : Asking PUnit) := answers_note (steady_serves cx) level message

theorem safe_log (change : Workspace → Log) :
    Safe cx (modify fun w => { w with state := { w.state with log := change w } } : Asking PUnit) :=
  answers_log (steady_serves cx) change

/-- A computation that cannot fail gives an answer. -/
theorem Answers.exists_ok (h : Answers (Serves cx) (fun _ => False) Q x) (hw : Serves cx w) : ∃ b, (x w).1 = .ok b ∧ Q b := by
  have hfits := (h w hw).2
  cases hx : (x w).1 with
  | error err => rw [hx] at hfits; exact hfits.elim
  | ok b =>
    rw [hx] at hfits
    exact ⟨b, rfl, hfits⟩

theorem Answers.eq_ok {b : β} (h : Answers (Serves cx) (fun _ => False) (· = b) x) (hw : Serves cx w) : (x w).1 = .ok b := by
  obtain ⟨_, hok, rfl⟩ := h.exists_ok hw
  exact hok

theorem Safe.exists_ok (h : Safe cx x) (hw : Serves cx w) :
    ∃ b, (x w).1 = .ok b :=
  (Answers.exists_ok h hw).imp fun _ hb => hb.1

theorem safe_mapM {g : γ → Asking β} (hg : ∀ c, Safe cx (g c)) (cs : List γ) : Safe cx (cs.mapM g) := by
  induction cs with
  | nil => exact safe_pure _
  | cons c cs ih =>
    rw [List.mapM_cons]
    exact (hg c).bind fun b => ih.bind fun bs => safe_pure _

theorem safe_forM {g : γ → Asking PUnit} (hg : ∀ c, Safe cx (g c)) (cs : List γ) : Safe cx (cs.forM g) := by
  induction cs with
  | nil => exact safe_pure _
  | cons c cs ih => exact (hg c).bind fun _ => ih

end Safe

/-! ### Questions to the engine -/

theorem answers_theProgram : Answers (Serves cx) (fun _ => False) (· = cx.program) theProgram := by
  intro w hw
  refine (require_leads hw .program).bind_ok (fun _ _ h => h.ok) ?_
  rintro t ⟨-, ht, -, hbuilt⟩
  exact ⟨ht, ht.program_eq hbuilt⟩

/-- Only questions for an analysis can fail. -/
theorem safe_ask {q : Query} (hq : ∀ id, q ≠ .analysis id) : Safe cx (ask q) := by
  intro w hw
  refine (ask_leads hw q).mono ?_
  rintro r t ⟨ht, -, -, rfl, -, -⟩
  cases q with
  | analysis id => exact absurd rfl (hq id)
  | _ => exact ⟨ht, trivial⟩

theorem safe_analyzeAll : Safe cx analyzeAll := (safe_ask (q := .analyzeAll) nofun).bind fun _ => safe_pure _

theorem safe_resolution? (id : DeclarationId) : Safe cx (resolution? id) := by
  refine (safe_ask (q := .resolution id) nofun).bind fun a => ?_
  cases a <;> exact safe_pure _

theorem safe_diagnosticsOf (id : DeclarationId) : Safe cx (diagnosticsOf id) := by
  refine (safe_ask (q := .diagnostics id) nofun).bind fun a => ?_
  cases a <;> exact safe_pure _

theorem answers_role? (id : DeclarationId) :
    Answers (Serves cx) (fun _ => False) (· = cx.role? id) (role? id) := by
  intro w hw
  have hreply := cx.reply_role hw.numbered id
  refine Answers.bind ((answers_ask (steady_serves cx) (q := .role id) nofun).mono ?_ fun _ ha => ha) ?_ w hw
  · intro err herr
    rw [hreply] at herr
    cases herr
  · intro a ha
    rw [hreply] at ha
    cases ha
    exact answers_pure rfl

theorem answers_symbol? (id : DeclarationId) :
    Answers (Serves cx) (fun _ => False) (· = cx.symbol? id) (symbol? id) := by
  refine (answers_role? id).bind ?_
  rintro role rfl
  cases hrole : cx.role? id with
  | none => exact answers_pure (by rw [Context.symbol?, hrole]; rfl)
  | some role =>
    intro w hw
    refine (require_leads hw .program).bind_ok (fun _ _ h => h.ok) ?_
    rintro t ⟨-, ht, -, hbuilt⟩
    refine .get_bind ⟨ht, ?_⟩
    show some (t.symbolOf id role) = cx.symbol? id
    rw [Context.symbol?, hrole, symbolOf, ht.program_eq hbuilt]
    rfl

theorem safe_symbol? (id : DeclarationId) : Safe cx (symbol? id) := (answers_symbol? id).safe

/-- A workspace in which the whole program of a context is analysed. -/
structure Surveyed (cx : Context) (w : Workspace) : Prop where
  serves : Serves cx w
  built : .program ∈ w.built
  all : w.state.allAnalyzed

/-- What is on record about a class is then what a question for it gives. -/
theorem Surveyed.recorded?_eq (h : Surveyed cx w) (id : DeclarationId) : w.recorded? id = cx.symbol? id := by
  have htracks := h.serves.tracks h.serves.numbered
  have hrole : w.state.role? id = cx.role? id := htracks.role? (htracks.all h.all id)
  rw [recorded?, hrole, Context.symbol?]
  refine congrArg (Option.map · (cx.role? id)) (funext fun role => ?_)
  rw [symbolOf, h.serves.program_eq h.built]
  rfl

theorem Surveyed.symbol?_eq (h : Surveyed cx w) (id : DeclarationId) :
    (symbol? id w).1 = .ok (w.recorded? id) := by
  rw [h.recorded?_eq]
  exact (answers_symbol? id).eq_ok h.serves

theorem Surveyed.log (h : Surveyed cx w) (log : Log) :
    Surveyed cx { w with state := { w.state with log } } := ⟨h.serves.log log, h.built, h.all⟩

theorem ask_surveys (hw : Serves cx w) {q : Query} (hq : Engine.analyzesAll q) :
    Leads (ask q) w fun _ t => Surveyed cx t := by
  refine (ask_leads hw q).mono ?_
  rintro r t ⟨ht, -, hbuilt, -, -, hall⟩
  exact ⟨ht, hbuilt, hall hq⟩

theorem safe_firstSymbol? (ids : List DeclarationId) : Safe cx (firstSymbol? ids) := by
  induction ids with
  | nil => exact safe_pure _
  | cons id ids ih =>
    refine (safe_symbol? id).bind fun s => ?_
    cases s with
    | none => exact ih
    | some s => exact safe_pure _

theorem safe_symbolNamed? (name : String) : Safe cx (symbolNamed? name) :=
  answers_theProgram.safe.bind fun _ => safe_firstSymbol? _

theorem safe_symbols (rs : List Reference) : Safe cx (symbols rs) := by
  induction rs with
  | nil => exact safe_pure _
  | cons r rs ih => exact (safe_symbol? r.id).bind fun _ => ih.bind fun _ => safe_pure _

/-- A service that is there is not built again. -/
theorem require_of_mem {s : Service} (h : s ∈ w.built) : require s w = (.ok (), w) := by
  rw [require]
  show (if s ∈ w.built then pure () else _ : Asking Unit) w = _
  rw [if_pos h]
  rfl

/-- All classes with a role are listed in the order of the program, those with errors included. -/
theorem answers_all (role : Role) : Answers (Serves cx) (fun _ => False)
    (· = (cx.engine.classes role).map (cx.symbolOf · role)) (all role) := by
  intro w hw
  unfold all analyzeAll
  rw [bind_assoc]
  refine (ask_leads hw .analyzeAll).bind_ok (fun _ _ h => h.2.2.2.1) ?_
  rintro t ⟨ht, -, hbuilt, -, -, hall⟩
  have hrecorded := (ht.tracks ht.numbered).recorded_eq ht.keyed (hall rfl) role
  -- The program is there since the question was asked, so nothing changes before the records are read.
  have hrequire : Leads (require .program) t fun r u => r = .ok () ∧ u = t := by
    rw [Leads, require_of_mem hbuilt]
    exact ⟨rfl, rfl⟩
  rw [pure_bind]
  refine hrequire.bind_ok (fun _ _ h => h.1) ?_
  rintro u ⟨-, rfl⟩
  refine .get_bind ⟨ht, ?_⟩
  show (u.state.recorded (some role)).map (u.symbolOf · role) = _
  rw [hrecorded]
  refine List.map_congr_left fun id _ => ?_
  rw [symbolOf, ht.program_eq hbuilt]
  rfl

/-! ### Requests for tokens -/

theorem safe_soundAnalysis? (id : DeclarationId) : Safe cx (soundAnalysis? id) := by
  intro w hw
  have hanalysis := (answers_analysis? (steady_serves cx) id).mono (fun _ herr => herr) fun _ _ => trivial
  -- Errors of the class are what is caught, and nothing else can go wrong.
  refine hanalysis.tryCatch (fun err herr => ?_) w hw
  obtain ⟨a, ha⟩ | ⟨name, ds, hreply⟩ := cx.reply_analysis hw.numbered id
  · rw [herr] at ha
    cases ha
  · rw [herr] at hreply
    cases hreply
    exact safe_pure _

/-- The work of a handler never fails; it may note dependencies and look at scopes. -/
theorem safe_work {f : Context → Work β} (hf : ∀ cx' world, ∃ graph scopes, ((f cx').run { world }).2.world =
    { world with loader := { world.loader with graph }, scopes }) : Safe cx (work f) := by
  intro w hw
  obtain ⟨graph, scopes, hworld⟩ := hf w.context w.state.world
  refine .get_bind ?_
  refine ⟨?_, trivial⟩
  show Serves cx { w with state := { w.state with
    world := ((f w.context).run { world := w.state.world }).2.world, log := _ } }
  rw [hworld]
  exact hw.world graph scopes _

theorem safe_evaluate (e : Expr) (file : String) : Safe cx (evaluate e file) :=
  safe_work fun _ world => ⟨_, world.scopes, rfl⟩

theorem safe_evaluateDeclaration (d : Declaration) : Safe cx (evaluateDeclaration d) :=
  (safe_require _).bind fun _ => safe_work fun _ world => ⟨_, world.scopes, rfl⟩

theorem safe_providers (v : Value) : Safe cx (providers v) :=
  (safe_require _).bind fun _ => safe_get.bind fun _ => (safe_log _).bind fun _ => safe_pure _

theorem safe_providersOf (s : SourceExpr) : Safe cx (providersOf s) :=
  (safe_require _).bind fun _ => (safe_evaluate _ _).bind fun v => safe_providers v

theorem safe_entriesOf (a : Analysis) : Safe cx (entriesOf a) :=
  (safe_mapM safe_providersOf _).bind fun _ => (safe_mapM safe_providers _).bind fun _ => safe_pure _

theorem safe_firstProvider? (token : Value) (ids : List DeclarationId) :
    Safe cx (firstProvider? token ids) := by
  induction ids with
  | nil => exact safe_pure _
  | cons id ids ih =>
    refine (safe_soundAnalysis? id).bind fun a => ?_
    cases a with
    | none => exact ih
    | some a =>
      refine (safe_entriesOf a).bind fun entries => ?_
      split
      · exact safe_pure _
      · exact ih

theorem safe_firstProviderOf? (token : Value) (roles : List Role) :
    Safe cx (firstProviderOf? token roles) := by
  induction roles with
  | nil => exact safe_pure _
  | cons role roles ih =>
    refine safe_get.bind fun w => (safe_firstProvider? token _).bind fun entry => ?_
    cases entry with
    | none => exact ih
    | some entry => exact safe_pure _

theorem safe_findProvider? (token : Value) : Safe cx (findProvider? token) := by
  refine (safe_require _).bind fun _ => (safe_require _).bind fun _ => safe_analyzeAll.bind fun _ => ?_
  refine (safe_firstProviderOf? token _).bind fun entry => ?_
  rcases entry with _ | ⟨_ | _⟩
  · exact safe_pure _
  · exact (safe_symbol? _).bind fun _ => safe_pure _
  · exact safe_pure _

theorem safe_findInjectable? (module name origin : String) :
    Safe cx (findInjectable? module name origin) := by
  unfold findInjectable?
  split
  · exact safe_pure _
  · refine answers_theProgram.safe.bind fun p => safe_analyzeAll.bind fun _ => ?_
    refine (safe_require _).bind fun _ => safe_get.bind fun w => ?_
    dsimp only
    split
    · exact (safe_symbol? _).bind fun _ => safe_pure _
    · exact (safe_note _ _).bind fun _ => safe_pure _

/-- Every request for a token has an answer, whichever classes have errors. -/
theorem safe_find (token : Value) (origin : String) : Safe cx (find token origin) := by
  have hown : Safe cx (ownSymbol? token) := by
    cases token with
    | reference r => exact safe_symbol? r.id
    | _ => exact safe_pure _
  refine hown.bind fun s => ?_
  cases s with
  | some s => exact safe_pure _
  | none =>
    refine (safe_findProvider? token).bind fun found => ?_
    cases found with
    | some found => exact safe_pure _
    | none =>
      dsimp only
      split
      · split
        · exact safe_findInjectable? _ _ _
        · exact safe_pure _
      · exact safe_pure _

theorem safe_supplies (s : Symbol) (ds : List Dependency) : Safe cx (supplies s ds) := by
  induction ds with
  | nil => exact safe_pure _
  | cons d ds ih =>
    unfold supplies
    split
    · exact (safe_find _ _).bind fun _ => ih.bind fun _ => safe_pure _
    · exact ih

/-! ### Providers -/

theorem safe_offered (s : Symbol) (entries : List ProviderEntry) : Safe cx (offered s entries) := by
  induction entries with
  | nil => exact safe_pure _
  | cons entry entries ih =>
    cases entry with
    | provider p => exact ih.bind fun _ => safe_pure _
    | cls _ target =>
      refine (safe_symbol? target.id).bind fun found => ?_
      cases found with
      | some found => exact ih.bind fun _ => safe_pure _
      | none => exact (safe_note _ _).bind fun _ => ih

theorem safe_offeredBy (s : Symbol) (source : Option SourceExpr) : Safe cx (offeredBy s source) := by
  cases source with
  | none => exact safe_pure _
  | some source => exact (safe_providersOf source).bind fun entries => safe_offered s entries

theorem safe_offeredByValues (s : Symbol) (vs : List Value) : Safe cx (offeredByValues s vs) := by
  induction vs with
  | nil => exact safe_pure _
  | cons v vs ih =>
    refine (safe_providers v).bind fun entries => (safe_offered s entries).bind fun first => ?_
    exact ih.bind fun _ => safe_pure _

/-! ### The whole workspace -/

theorem safe_affected (changed : List String) : Safe cx (affected changed) :=
  safe_analyzeAll.bind fun _ => (safe_require _).bind fun _ => safe_get.bind fun _ => safe_pure _

theorem safe_problems : Safe cx problems := by
  refine answers_theProgram.safe.bind fun p => safe_analyzeAll.bind fun _ => safe_get.bind fun w => ?_
  refine (safe_forM (fun id => ?_) _).bind fun _ => safe_get.bind fun _ => safe_pure _
  exact (safe_ask (q := .resolve id) nofun).bind fun _ => safe_pure _

theorem safe_problemsOf? (s : Symbol) : Safe cx (problemsOf? s) := by
  refine (safe_ask (q := .resolve s.id) nofun).bind fun _ => safe_get.bind fun w => ?_
  split
  · exact (safe_diagnosticsOf s.id).bind fun _ => safe_pure _
  · exact safe_pure _

end Workspace

end ComponentAtlas
