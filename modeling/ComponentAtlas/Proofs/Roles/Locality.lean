import ComponentAtlas.Roles.Handlers
import Mathlib.Tactic.Common

/-!
# The first phase looks at one class only

A handler that analyses a class reads the program and the resources, which do not change, and what the
registry knows about the class itself, which is nothing. The loader remembers what was read, but every
address stands for the same text again. So the outcome does not depend on other classes.

* `Desk.Alike`: two desks that differ only in what was done for other classes;
* `Work.Local`: a computation does the same on them; `Local.pure`, `Local.bind`, `Local.get` and
  `Local.guard` put computations together;
* `Work.Concerns`: an analysis belongs to the role of the handler and names its class;
* `Work.component_local`, `Work.directive_local`, `Work.pipe_local`, `Work.injectable_local`,
  `Work.ngModule_local`: the first phase of the five roles.
-/

namespace ComponentAtlas

open ComponentAtlas.Script

/-- The class that an analysis is about. -/
def Analysis.reference : Analysis → Reference
  | .ngModule m => m.reference
  | .injectable i => i.reference
  | .directive d => d.data.reference
  | .component c => c.data.reference
  | .pipe p => p.reference

/-- The value of an expression of a file. -/
def Context.valueOf (cx : Context) (e : Expr) (file : String) : Value :=
  (Evaluation.evaluate cx.program cx.depth e file []).value

/-! ### What may differ between two desks -/

/-- Every address that was read stands for what the resources hold. -/
def Loader.Faithful (r : Resources) (l : Loader) : Prop :=
  ∀ {url outcome}, Table.get? url l.loaded = some outcome → outcome = r.read url

theorem Loader.load_eq (r : Resources) (url file : String) (l : Loader) :
    Loader.load r url file l =
      match Table.get? url l.loaded with
      | some outcome => (outcome, { l with graph := l.graph.add file url })
      | none => (r.read url, { l with
          graph := l.graph.add file url
          requests := l.requests ++ [url]
          remarks := l.remarks ++ [remark url (r.read url)]
          loaded := Table.put url (r.read url) l.loaded }) := by
  show (match Table.get? url l.loaded with
    | some outcome => pure outcome
    | none => do
      let outcome ← request r url
      modify fun l => { l with
        remarks := l.remarks ++ [remark url outcome]
        loaded := Table.put url outcome l.loaded }
      return outcome : StateM Loader (Except ResourceError String))
    { l with graph := l.graph.add file url } = _
  cases Table.get? url l.loaded <;> rfl

/-- A world in which a class can be analysed: what was read is right, and nothing is known about the
class itself. -/
structure World.Ready (cx : Context) (id : DeclarationId) (w : World) : Prop where
  loader : w.loader.Faithful cx.resources
  directive : Table.get? id w.registry.directives = none
  pipe : Table.get? id w.registry.pipes = none
  module : Table.get? id w.registry.modules = none

/-- Two desks that differ only in what was done for other classes. -/
structure Desk.Alike (cx : Context) (id : DeclarationId) (d d' : Desk) : Prop where
  diagnostics : d.diagnostics = d'.diagnostics
  left : d.world.Ready cx id
  right : d'.world.Ready cx id

namespace Work

variable {cx : Context} {id : DeclarationId} {β γ : Type} {x : Work β} {f : β → Work γ}
  {P : β → Prop} {Q : γ → Prop}

theorem bind_apply (x : Work β) (f : β → Work γ) (d : Desk) : (x >>= f) d = f (x d).1 (x d).2 := rfl

/-- A computation for a class does the same on desks that are alike, and its result satisfies a
condition; registry and scopes stay as they are. -/
def Local (cx : Context) (id : DeclarationId) (x : Work β) (Q : β → Prop := fun _ => True) : Prop :=
  ∀ d d', Desk.Alike cx id d d' →
    (x d).1 = (x d').1 ∧ Q (x d).1 ∧ Desk.Alike cx id (x d).2 (x d').2 ∧
      (x d).2.world.registry = d.world.registry ∧ (x d).2.world.scopes = d.world.scopes

theorem Local.pure {b : β} (h : P b) : Local cx id (Pure.pure b) P :=
  fun _ _ hd => ⟨rfl, h, hd, rfl, rfl⟩

theorem Local.bind (hx : Local cx id x P) (hf : ∀ b, P b → Local cx id (f b) Q) :
    Local cx id (x >>= f) Q := by
  intro d d' hd
  obtain ⟨hresult, hP, hd, hregistry, hscopes⟩ := hx d d' hd
  obtain ⟨hresult', hQ, hd', hregistry', hscopes'⟩ := hf (x d).1 hP (x d).2 (x d').2 hd
  rw [bind_apply, bind_apply, ← hresult]
  exact ⟨hresult', hQ, hd', hregistry'.trans hregistry, hscopes'.trans hscopes⟩

/-- What is read from a desk does not depend on other classes. -/
theorem Local.get {g : Desk → γ} (hg : ∀ d d', Desk.Alike cx id d d' → g d = g d')
    (hQ : ∀ d, d.world.Ready cx id → Q (g d)) :
    Local cx id (MonadState.get >>= fun d => Pure.pure (g d)) Q :=
  fun d d' hd => ⟨hg d d' hd, hQ d hd.left, hd, rfl, rfl⟩

/-- A step that is taken only under a condition. -/
theorem Local.guard {c : Prop} [Decidable c] {x : Work Unit} {y : Work γ} (hx : Local cx id x)
    (hy : Local cx id y Q) : Local cx id (if c then x >>= fun _ => y else y) Q := by
  split
  · exact hx.bind fun _ _ => hy
  · exact hy

theorem remark_local (message : String) : Local cx id (remark message) :=
  fun _ _ hd => ⟨rfl, trivial, ⟨hd.diagnostics, hd.left, hd.right⟩, rfl, rfl⟩

theorem report_local (diagnostic : Diagnostic) : Local cx id (report diagnostic) :=
  fun _ _ hd =>
    ⟨rfl, trivial, ⟨congrArg (· ++ [diagnostic]) hd.diagnostics, hd.left, hd.right⟩, rfl, rfl⟩

/-- The value of an expression depends on the program alone. -/
theorem evaluate_local (e : Expr) (file : String) : Local cx id (evaluate cx e file) := by
  intro d d' hd
  have hready : ∀ {w : World} {graph : FileGraph}, w.Ready cx id →
      World.Ready cx id { w with loader := { w.loader with graph } } :=
    fun hw => ⟨hw.loader, hw.directive, hw.pipe, hw.module⟩
  exact ⟨rfl, trivial, ⟨hd.diagnostics, hready hd.left, hready hd.right⟩, rfl, rfl⟩

/-- Reading is the same whether an address was read before or not. -/
theorem fetch_faithful {r : Resources} {l : Loader} (h : l.Faithful r) (url file : String) :
    (Loader.fetch r url file l).1 = (Loader.resolve url file, r.read (Loader.resolve url file)) ∧
      (Loader.fetch r url file l).2.Faithful r := by
  have hfetch : Loader.fetch r url file l =
      ((Loader.resolve url file, (Loader.load r (Loader.resolve url file) file l).1),
        (Loader.load r (Loader.resolve url file) file l).2) := rfl
  rw [hfetch, Loader.load_eq]
  cases hseen : Table.get? (Loader.resolve url file) l.loaded with
  | some outcome =>
    rw [h hseen]
    exact ⟨rfl, h⟩
  | none =>
    -- the new entry is right, and the old ones were
    refine ⟨rfl, fun {url' outcome} hget => ?_⟩
    by_cases hurl : url' = Loader.resolve url file
    · subst hurl
      cases (Table.get?_put_self _ _ _).symm.trans hget
      rfl
    · exact h ((Table.get?_put_of_ne hurl _ _).symm.trans hget)

/-- What an address stands for depends on the resources alone, whether it was read before or not. -/
theorem fetch_local (url file : String) : Local cx id (fetch cx url file) := by
  intro d d' hd
  obtain ⟨hresult, hloader⟩ := fetch_faithful hd.left.loader url file
  obtain ⟨hresult', hloader'⟩ := fetch_faithful hd.right.loader url file
  refine ⟨hresult.trans hresult'.symm, trivial, ⟨hd.diagnostics, ?_, ?_⟩, rfl, rfl⟩
  · exact ⟨hloader, hd.left.directive, hd.left.pipe, hd.left.module⟩
  · exact ⟨hloader', hd.right.directive, hd.right.pipe, hd.right.module⟩

end Work

/-! ### Arguments of decorators -/

namespace Fields

open Work

variable {id : DeclarationId} (f : Fields)

theorem value?_local (name : String) : Local f.cx id (f.value? name) := by
  unfold value?
  split
  · exact .pure trivial
  · exact .bind (evaluate_local _ _) fun _ _ => .pure trivial

theorem wrongType_local (field entry expected : String) (actual : Value) :
    Local f.cx id (f.wrongType field entry expected actual) := report_local _

theorem string?_local (name : String) : Local f.cx id (f.string? name) := by
  refine .bind (f.value?_local name) fun v _ => ?_
  split
  · exact .pure trivial
  · exact .pure trivial
  · exact .pure trivial
  · exact .bind (f.wrongType_local _ _ _ _) fun _ _ => .pure trivial

theorem boolean?_local (name : String) : Local f.cx id (f.boolean? name) := by
  refine .bind (f.value?_local name) fun v _ => ?_
  split
  · exact .pure trivial
  · exact .pure trivial
  · exact .pure trivial
  · exact .bind (f.wrongType_local _ _ _ _) fun _ _ => .pure trivial

theorem strings_local (name : String) (single : Bool) : Local f.cx id (f.strings name single) := by
  refine .bind (f.value?_local name) fun v _ => ?_
  split
  · exact .pure trivial
  · exact .pure trivial
  · split
    · exact .pure trivial
    · exact .bind (f.wrongType_local _ _ _ _) fun _ _ => .pure trivial
  · split
    · exact .pure trivial
    · exact .bind (f.wrongType_local _ _ _ _) fun _ _ => .pure trivial

theorem putStrings_local (name : String) (entries : List (String × Value)) (table : Table String String) :
    Local f.cx id (f.putStrings name entries table) := by
  fun_induction putStrings f name entries table with
  | case1 table => exact .pure trivial
  | case2 table key s rest ih => exact ih
  | case3 table key other rest _ ih => exact .bind (f.wrongType_local _ _ _ _) fun _ _ => ih

theorem stringMap_local (name : String) : Local f.cx id (f.stringMap name) := by
  refine .bind (f.value?_local name) fun v _ => ?_
  split
  · exact .pure trivial
  · exact .pure trivial
  · exact f.putStrings_local _ _ _
  · exact .bind (f.wrongType_local _ _ _ _) fun _ _ => .pure trivial

end Fields

namespace Work

variable {cx : Context} {id : DeclarationId}

/-! ### Dependencies of constructors -/

theorem applyDecorator_local (file : String) (dep : Dependency) (d : Decorator) :
    Local cx id (applyDecorator cx file dep d) := by
  unfold applyDecorator
  split
  · exact .pure trivial
  · split
    · exact .pure trivial
    · exact .pure trivial
    · exact .pure trivial
    · exact .pure trivial
    · exact .bind (evaluate_local _ _) fun _ _ => .pure trivial
    · exact .bind (evaluate_local _ _) fun _ _ => .pure trivial
    · exact .pure trivial

theorem foldlM_local {β γ : Type} {step : β → γ → Work β} (hstep : ∀ b c, Local cx id (step b c))
    (cs : List γ) (b : β) : Local cx id (cs.foldlM step b) := by
  induction cs generalizing b with
  | nil => exact .pure trivial
  | cons c cs ih => exact .bind (hstep b c) fun b' _ => ih b'

theorem parameter_local (file : String) (q : Parameter) : Local cx id (parameter cx file q) := by
  refine .bind (foldlM_local (applyDecorator_local file) _ _) fun dep _ => ?_
  split
  · exact .pure trivial
  · split
    · exact .pure trivial
    · exact .pure trivial

theorem parametersFrom_local (file : String) (index : ℕ) (qs : List Parameter) :
    Local cx id (parametersFrom cx file index qs) := by
  induction qs generalizing index with
  | nil => exact .pure trivial
  | cons q qs ih =>
    exact .bind (parameter_local file q) fun _ _ => .bind (ih (index + 1)) fun _ _ => .pure trivial

theorem dependencies_local : Local cx id (dependencies cx id) := by
  unfold dependencies
  split
  · exact .pure trivial
  · refine .bind (parametersFrom_local _ _ _) fun _ _ => ?_
    dsimp only
    split
    · exact .pure trivial
    · split
      · exact .pure trivial
      · exact .bind (remark_local _) fun _ _ => .pure trivial

/-! ### Facts about compiled classes -/

theorem compiled_directive_reference {info : DirectiveInfo}
    (h : (Metadata.compiled cx.program).directive? id = some info) :
    info.reference = cx.program.reference id := by
  simp only [Metadata.compiled, Metadata.compiledDirective?] at h
  split at h
  · split at h
    · cases h; rfl
    · obtain ⟨args, -, rfl⟩ := Option.map_eq_some_iff.1 h
      rfl
  · cases h

theorem compiled_pipe_reference {info : PipeInfo}
    (h : (Metadata.compiled cx.program).pipe? id = some info) :
    info.reference = cx.program.reference id := by
  simp only [Metadata.compiled, Metadata.compiledPipe?] at h
  split at h
  · simp only [Option.bind_eq_bind, Option.bind_eq_some_iff] at h
    obtain ⟨args, -, name, -, h⟩ := h
    cases h
    rfl
  · cases h

theorem compiled_module_reference {info : ModuleInfo}
    (h : (Metadata.compiled cx.program).module? id = some info) :
    info.reference = cx.program.reference id := by
  simp only [Metadata.compiled, Metadata.compiledModule?] at h
  split at h
  · simp only [Option.bind_eq_bind, Option.bind_eq_some_iff] at h
    obtain ⟨args, -, h⟩ := h
    cases h
    rfl
  · cases h

/-- Findings about a class: an analysis is one of the role, and names the class. -/
def Concerns (cx : Context) (id : DeclarationId) (role : Role) (f : Findings Analysis) : Prop :=
  ∀ a ∈ f.analysis, a.role = role ∧ a.reference = cx.program.reference id

section Concerns

variable {role : Role} {f : Findings Analysis} {a : Analysis}

theorem concerns_none (h : f.analysis = none) : Concerns cx id role f := by
  intro a ha
  rw [h] at ha
  cases ha

theorem concerns_some (h : f.analysis = some a) (hrole : a.role = role)
    (hreference : a.reference = cx.program.reference id) : Concerns cx id role f := by
  intro b hb
  rw [h] at hb
  cases hb
  exact ⟨hrole, hreference⟩

theorem concerns_map {τ : Type} {o : Option τ} {g : τ → Analysis} {ds : List Diagnostic}
    (h : ∀ x ∈ o, (g x).role = role ∧ (g x).reference = cx.program.reference id) :
    Concerns cx id role { analysis := o.map g, diagnostics := ds } := by
  intro a ha
  obtain ⟨x, hx, rfl⟩ := Option.map_eq_some_iff.1 ha
  exact h x hx

end Concerns

/-! ### Directives -/

theorem alias?_local (file : String) (d : Decorator) : Local cx id (alias? cx file d) := by
  unfold alias?
  split
  · exact .pure trivial
  · refine .bind (evaluate_local _ _) fun v _ => ?_
    split
    · exact .pure trivial
    · exact .pure trivial

theorem memberBindings_local (file decorator : String) (ms : List ClassMember)
    (table : Table String String) : Local cx id (memberBindings cx file decorator ms table) := by
  induction ms generalizing table with
  | nil => exact .pure trivial
  | cons m ms ih =>
    unfold memberBindings
    split
    · exact ih table
    · exact .bind (alias?_local file _) fun name _ => ih _

theorem directiveData_local (f : Fields) (deps : Option (List Dependency)) :
    Local f.cx id (directiveData id f deps) fun data => data.reference = f.cx.program.reference id := by
  refine .bind (f.string?_local _) fun selector _ => ?_
  refine .bind (f.string?_local _) fun exportAs _ => ?_
  refine .bind (f.strings_local _ _) fun inputs _ => ?_
  refine .bind (memberBindings_local _ _ _ _) fun inputs' _ => ?_
  refine .bind (f.strings_local _ _) fun outputs _ => ?_
  refine .bind (memberBindings_local _ _ _ _) fun outputs' _ => ?_
  refine .bind (f.stringMap_local _) fun host _ => ?_
  exact .bind (f.boolean?_local _) fun isStandalone _ => .pure rfl

/-- What is known about the class itself comes from its markers. -/
theorem metadata_directive? {d : Desk} (h : d.world.Ready cx id) :
    (cx.metadata d.world).directive? id = (Metadata.compiled cx.program).directive? id := by
  show (Table.get? id d.world.registry.directives).or _ = _
  rw [h.directive, Option.none_or]

theorem metadata_pipe? {d : Desk} (h : d.world.Ready cx id) :
    (cx.metadata d.world).pipe? id = (Metadata.compiled cx.program).pipe? id := by
  show (Table.get? id d.world.registry.pipes).or _ = _
  rw [h.pipe, Option.none_or]

theorem metadata_module? {d : Desk} (h : d.world.Ready cx id) :
    (cx.metadata d.world).module? id = (Metadata.compiled cx.program).module? id := by
  show (Table.get? id d.world.registry.modules).or _ = _
  rw [h.module, Option.none_or]

theorem compiledDirective?_local (deps : Option (List Dependency)) :
    Local cx id (compiledDirective? cx id deps)
      fun data => ∀ x ∈ data, x.reference = cx.program.reference id := by
  refine .get (fun d d' hd => ?_) fun d hd x hx => ?_
  · rw [metadata_directive? hd.left, metadata_directive? hd.right]
  · rw [metadata_directive? hd] at hx
    obtain ⟨info, hinfo, rfl⟩ := Option.map_eq_some_iff.1 hx
    exact compiled_directive_reference hinfo

theorem directive_local (detected : Detected) :
    Local cx id (directive cx id detected) (Concerns cx id .directive) := by
  refine .bind dependencies_local fun deps _ => ?_
  dsimp only
  split
  · refine .bind (compiledDirective?_local _) fun data hdata => .pure ?_
    exact concerns_map fun x hx => ⟨rfl, hdata x hx⟩
  · split
    · exact .pure (concerns_none rfl)
    · exact .pure (concerns_some rfl rfl rfl)
    · next object _ =>
      refine .bind (directiveData_local ⟨cx, object, _⟩ _) fun data hdata => ?_
      refine .guard (report_local _) (.get (fun d d' hd => by rw [hd.diagnostics]) fun d _ => ?_)
      exact concerns_some rfl rfl hdata

/-! ### Components -/

theorem resource?_local (f : Fields) (what url : String) (range : Range) :
    Local f.cx id (resource? f what url range) := by
  refine .bind (fetch_local _ _) fun fetched _ => ?_
  dsimp only
  split
  · exact .pure trivial
  · exact .bind (report_local _) fun _ _ => .pure trivial

theorem template?_local (f : Fields) (owner : String) : Local f.cx id (template? f owner) := by
  unfold template?
  split
  · exact .bind (f.string?_local _) fun _ _ => .pure trivial
  · split
    · refine .bind (f.string?_local _) fun url _ => ?_
      split
      · exact .pure trivial
      · exact .bind (resource?_local f _ _ _) fun _ _ => .pure trivial
    · exact .bind (report_local _) fun _ _ => .pure trivial

theorem externalStyles_local (f : Fields) (range : Range) (urls : List String) :
    Local f.cx id (externalStyles f range urls) := by
  induction urls with
  | nil => exact .pure trivial
  | cons url urls ih =>
    exact .bind (resource?_local f _ _ _) fun _ _ => .bind ih fun _ _ => .pure trivial

theorem styles_local (f : Fields) : Local f.cx id (styles f) := by
  refine .bind (f.strings_local _ _) fun inline _ => ?_
  refine .bind (f.strings_local _ _) fun urls _ => ?_
  refine .bind (f.string?_local _) fun url _ => ?_
  exact .bind (externalStyles_local f _ _) fun _ _ => .pure trivial

theorem member?_local {τ : Type} (f : Fields) (field enumeration : String)
    (ofName? : String → Option τ) (ofNumber? : Int → Option τ) :
    Local f.cx id (member? f field enumeration ofName? ofNumber?) := by
  refine .bind (f.value?_local _) fun value _ => ?_
  split
  · exact .pure trivial
  · exact .guard (report_local _) (.pure trivial)

theorem componentImports_local (f : Fields) (owner : String) (listed : List Listed) :
    Local f.cx id (componentImports f owner listed) := by
  induction listed with
  | nil => exact .pure trivial
  | cons entry rest ih =>
    cases entry with
    | reference r => exact .bind ih fun _ _ => .pure trivial
    | external module name => exact .bind (remark_local _) fun _ _ => ih
    | other v => exact .bind (report_local _) fun _ _ => ih

theorem component_local (detected : Detected) :
    Local cx id (component cx id detected) (Concerns cx id .component) := by
  refine .bind dependencies_local fun deps _ => ?_
  dsimp only
  split
  · refine .bind (compiledDirective?_local _) fun data hdata => .pure ?_
    exact concerns_map fun x hx => ⟨rfl, hdata x hx⟩
  · split
    · exact .pure (concerns_none rfl)
    · exact .pure (concerns_none rfl)
    · next object _ =>
      set f : Fields := ⟨cx, object, (cx.declaration id).file⟩
      refine .bind (directiveData_local f _) fun data hdata => ?_
      refine .bind (template?_local f _) fun template _ => ?_
      refine .bind (styles_local f) fun styles _ => ?_
      refine .bind (member?_local f _ _ _ _) fun changeDetection _ => ?_
      refine .bind (member?_local f _ _ _ _) fun encapsulation _ => ?_
      refine .bind (f.value?_local _) fun listed _ => ?_
      refine .bind (componentImports_local f _ _) fun imports _ => ?_
      refine .get (fun d d' hd => by rw [hd.diagnostics]) fun d _ => ?_
      exact concerns_some rfl rfl hdata

/-! ### Pipes -/

theorem pipe_local (detected : Detected) :
    Local cx id (pipe cx id detected) (Concerns cx id .pipe) := by
  refine .bind dependencies_local fun deps _ => ?_
  dsimp only
  split
  · refine .get (fun d d' hd => ?_) fun d hd => concerns_map fun x hx => ⟨rfl, ?_⟩
    · rw [metadata_pipe? hd.left, metadata_pipe? hd.right]
    · rw [metadata_pipe? hd] at hx
      exact compiled_pipe_reference hx
  · split
    · exact .pure (concerns_none rfl)
    · exact .pure (concerns_none rfl)
    · next object _ =>
      set f : Fields := ⟨cx, object, (cx.declaration id).file⟩
      refine .bind (f.string?_local _) fun name _ => ?_
      refine .guard (report_local _) ?_
      refine .bind (f.boolean?_local _) fun isPure _ => ?_
      refine .bind (f.boolean?_local _) fun isStandalone _ => ?_
      refine .get (fun d d' hd => by rw [hd.diagnostics]) fun d _ => ?_
      exact concerns_map fun _ _ => ⟨rfl, rfl⟩

/-! ### Injectable classes -/

theorem providedIn?_local (f : Fields) (name : String) : Local f.cx id (providedIn? f name) := by
  refine .bind (f.value?_local _) fun v _ => ?_
  split
  · exact .pure trivial
  · exact .pure trivial
  · exact .pure trivial
  · exact .pure trivial
  · exact .bind (remark_local _) fun _ _ => .pure trivial

theorem use?_local (f : Fields) (kinds : List UseKind) : Local f.cx id (use? f kinds) := by
  induction kinds with
  | nil => exact .pure trivial
  | cons kind kinds ih =>
    refine .bind (f.value?_local _) fun v _ => ?_
    split
    · exact .pure trivial
    · exact ih

theorem injectable_local (detected : Detected) :
    Local cx id (injectable cx id detected) (Concerns cx id .injectable) := by
  refine .bind dependencies_local fun deps _ => ?_
  dsimp only
  split
  · exact .pure (concerns_some rfl rfl rfl)
  · split
    · exact .pure (concerns_some rfl rfl rfl)
    · exact .pure (concerns_some rfl rfl rfl)
    · next object _ =>
      set f : Fields := ⟨cx, object, (cx.declaration id).file⟩
      refine .bind (providedIn?_local f _) fun providedIn _ => ?_
      refine .bind (use?_local f _) fun use _ => ?_
      refine .get (fun d d' hd => by rw [hd.diagnostics]) fun d _ => ?_
      exact concerns_some rfl rfl rfl

/-! ### Modules -/

theorem moduleReferences_local (f : Fields) (field : String) (code : ErrorCode) (owner : String)
    (listed : List Listed) : Local f.cx id (moduleReferences f field code owner listed) := by
  induction listed with
  | nil => exact .pure trivial
  | cons entry rest ih =>
    cases entry with
    | reference r => exact .bind ih fun _ _ => .pure trivial
    | external module name =>
      unfold moduleReferences
      split
      · exact .bind (remark_local _) fun _ _ => ih
      · exact .bind (report_local _) fun _ _ => ih
    | other v => exact .bind (report_local _) fun _ _ => ih

theorem entries_local (f : Fields) (field : String) : Local f.cx id (entries f field) :=
  .bind (f.value?_local _) fun _ _ => .pure trivial

theorem moduleImports_local (f : Fields) (owner : String) (listed : List Listed) :
    Local f.cx id (moduleImports f owner listed) := by
  induction listed with
  | nil => exact .pure trivial
  | cons entry rest ih =>
    cases entry with
    | reference r => exact .bind ih fun _ _ => .pure trivial
    | external module name => exact .bind (remark_local _) fun _ _ => ih
    | other v =>
      unfold moduleImports
      split
      · exact .bind ih fun _ _ => .pure trivial
      · split
        · exact .bind (remark_local _) fun _ _ => ih
        · exact .bind (report_local _) fun _ _ => ih

theorem ngModule_local (detected : Detected) :
    Local cx id (ngModule cx id detected) (Concerns cx id .ngModule) := by
  unfold ngModule
  dsimp only
  split
  · refine .get (fun d d' hd => ?_) fun d hd => concerns_map fun x hx => ⟨rfl, ?_⟩
    · rw [metadata_module? hd.left, metadata_module? hd.right]
    · rw [metadata_module? hd] at hx
      exact compiled_module_reference hx
  · split
    · exact .pure (concerns_none rfl)
    · exact .pure (concerns_some rfl rfl rfl)
    · next object _ =>
      set f : Fields := ⟨cx, object, (cx.declaration id).file⟩
      refine .bind (entries_local f _) fun declared _ => ?_
      refine .bind (moduleReferences_local f _ _ _ _) fun declarations _ => ?_
      refine .bind (entries_local f _) fun imported _ => ?_
      refine .bind (moduleImports_local f _ _) fun imports _ => ?_
      refine .bind (entries_local f _) fun exported _ => ?_
      refine .bind (moduleReferences_local f _ _ _ _) fun exports _ => ?_
      refine .bind (entries_local f _) fun bootstrap _ => ?_
      refine .bind (entries_local f _) fun schemas _ => ?_
      refine .bind (f.string?_local _) fun name _ => ?_
      refine .get (fun d d' hd => by rw [hd.diagnostics]) fun d _ => ?_
      exact concerns_some rfl rfl rfl

end Work

end ComponentAtlas
