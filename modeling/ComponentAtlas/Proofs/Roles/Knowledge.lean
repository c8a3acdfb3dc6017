import ComponentAtlas.Proofs.Analysis.Independence
import ComponentAtlas.Proofs.Roles.Locality
import ComponentAtlas.Proofs.Scope.Membership
import ComponentAtlas.Proofs.Table.Keys
import Mathlib.Data.List.Sort

/-!
# What the registry knows

A class is registered after its first phase, so the registry knows exactly the classes that are done.
In what order they were registered can be seen in its tables, but not in what is asked of them.

* `Table.Knows`: the entries of a table are the facts about the classes that are done;
* `Context.handler`, `Work.analyze`, `Registry.learn`: what the handlers do, role by role;
* `Context.findings`, `Registry.Knows`: what the first phase finds out, and the registry that knows it;
* `Registry.mem_declaringModules`: the modules that declare a class;
* `Registry.Knows.declaringModules_eq`, `Metadata.SameFacts`: registries that know everything agree.
-/

namespace ComponentAtlas

open ComponentAtlas.Script

/-! ### Tables that know some facts -/

namespace Table

variable {β : Type} {t u : Table DeclarationId β} {done : DeclarationId → Prop}
  {fact : DeclarationId → Option β} {id : DeclarationId} {info : β}

/-- The entries of a table are the facts about the classes that are done. -/
def Knows (t : Table DeclarationId β) (done : DeclarationId → Prop) (fact : DeclarationId → Option β) :
    Prop :=
  ∀ k info, get? k t = some info ↔ done k ∧ fact k = some info

theorem Knows.get?_eq (h : t.Knows (fun _ => True) fact) (k : DeclarationId) : get? k t = fact k :=
  Option.ext fun info => by simpa using h k info

theorem Knows.get?_of_not_done (h : t.Knows done fact) (hid : ¬ done id) : get? id t = none := by
  cases hget : get? id t with
  | none => rfl
  | some info => exact absurd ((h id info).1 hget).1 hid

theorem knows_nil (fact : DeclarationId → Option β) : Knows [] (fun _ => False) fact := by
  simp [Knows]

/-- A class about which there is no such fact. -/
theorem Knows.pass (h : t.Knows done fact) (hid : fact id = none) :
    t.Knows (fun k => done k ∨ k = id) fact := by
  intro k info
  rw [h k info]
  refine ⟨fun hk => ⟨.inl hk.1, hk.2⟩, ?_⟩
  rintro ⟨hk | rfl, hfact⟩
  · exact ⟨hk, hfact⟩
  · rw [hid] at hfact
    cases hfact

/-- A class about which there is a fact. -/
theorem Knows.put (h : t.Knows done fact) (hid : fact id = some info) :
    Knows (Table.put id info t) (fun k => done k ∨ k = id) fact := by
  intro k info'
  by_cases hk : k = id
  · subst hk
    simp [hid]
  · rw [get?_put_of_ne hk, h k info']
    simp [hk]

/-- All facts are known as soon as every class with a fact is done. -/
theorem Knows.close (h : t.Knows done fact) (hall : ∀ k, (fact k).isSome → done k) :
    t.Knows (fun _ => True) fact := by
  intro k info
  rw [h k info]
  refine ⟨fun hk => ⟨trivial, hk.2⟩, fun hk => ⟨hall k ?_, hk.2⟩⟩
  rw [hk.2]
  rfl

/-- Two tables with the same entries under every key differ in their order only. -/
theorem perm_of_get?_eq (ht : (t.map (·.1)).Nodup) (hu : (u.map (·.1)).Nodup)
    (h : ∀ k, get? k t = get? k u) : t.Perm u := by
  rw [List.perm_ext_iff_of_nodup (.of_map _ ht) (.of_map _ hu)]
  rintro ⟨k, info⟩
  rw [mem_iff_get? ht, mem_iff_get? hu, h]

end Table

/-! ### Handlers by role -/

namespace Engine

variable {σ α ρ : Type} {e : Engine σ α ρ} {id : DeclarationId} {c : Claim σ α ρ}

theorem mem_recognising {p : Precedence} {h : Handler σ α ρ} {x : Detected}
    (hm : (h, x) ∈ e.recognising p id) : h ∈ e.handlers ∧ h.detect id = some x := by
  obtain ⟨h', hmem, hx⟩ := List.mem_filterMap.1 hm
  split at hx
  · obtain ⟨x', hdetect, heq⟩ := Option.map_eq_some_iff.1 hx
    cases heq
    exact ⟨hmem, hdetect⟩
  · cases hx

/-- The handler that claims a class recognises it. -/
theorem claim?_recognises (h : e.claim? id = some c) :
    c.handler ∈ e.handlers ∧ c.handler.detect id = some c.detected := by
  unfold claim? at h
  split at h
  · next handler detected others weak hprimary =>
    cases h
    exact mem_recognising (p := .primary) (by rw [hprimary]; exact List.mem_cons_self)
  · next handler detected others hprimary hweak =>
    cases h
    exact mem_recognising (p := .weak) (by rw [hweak]; exact List.mem_cons_self)
  · cases h

theorem claim?_of_claimed? {d : Declaration} (h : e.claimed? id = some (d, c)) :
    e.claim? id = some c := by
  unfold claimed? at h
  split at h
  · next hc =>
    cases h
    exact hc
  · cases h

end Engine

/-- The first phase of a role. -/
def Work.analyze (cx : Context) : Role → DeclarationId → Detected → Work (Findings Analysis)
  | .component => Work.component cx
  | .directive => Work.directive cx
  | .pipe => Work.pipe cx
  | .injectable => Work.injectable cx
  | .ngModule => Work.ngModule cx

/-- What the registry learns from an analysis. -/
def Registry.learn (cx : Context) (id : DeclarationId) (a : Analysis) (r : Registry) : Registry :=
  match a with
  | .component c => r.addDirective (c.data.info true c.imports)
  | .directive d => r.addDirective (d.data.info false [])
  | .pipe p => r.addPipe p.info
  | .injectable _ => r.note (cx.declaration id).file id .injectable
  | .ngModule m => r.addModule m.info

namespace Context

variable {cx : Context} {id : DeclarationId}

/-- The handler of a role. -/
def handler (cx : Context) : Role → Handler World Analysis Resolution
  | .component => cx.componentHandler
  | .directive => cx.directiveHandler
  | .pipe => cx.pipeHandler
  | .injectable => cx.injectableHandler
  | .ngModule => cx.moduleHandler

theorem handler_analyze (cx : Context) (role : Role) (id : DeclarationId) (x : Detected) :
    (cx.handler role).analyze id x = (Work.analyze cx role id x).routine := by
  cases role <;> rfl

theorem handler_register (cx : Context) (id : DeclarationId) (a : Analysis) :
    (cx.handler a.role).register id a = (Work.register (·.learn cx id a)).routine := by
  cases a <;> rfl

theorem analyze_local (role : Role) (x : Detected) :
    Work.Local cx id (Work.analyze cx role id x) (Work.Concerns cx id role) := by
  cases role with
  | component => exact Work.component_local x
  | directive => exact Work.directive_local x
  | pipe => exact Work.pipe_local x
  | injectable => exact Work.injectable_local x
  | ngModule => exact Work.ngModule_local x

theorem detect_role {role : Role} {x : Detected} (h : cx.detect role id = some x) : x.role = role := by
  simp only [detect, Option.bind_eq_bind, Option.bind_eq_some_iff] at h
  obtain ⟨c, -, h⟩ := h
  split at h
  · split at h
    · cases h; rfl
    · cases h
  · obtain ⟨d, -, rfl⟩ := Option.map_eq_some_iff.1 h
    rfl

/-- A class is claimed by the handler of the role that was recognised. -/
theorem claim?_handler {c : Engine.Claim World Analysis Resolution}
    (h : cx.engine.claim? id = some c) : c.handler = cx.handler c.detected.role := by
  obtain ⟨hmem, hdetect⟩ := Engine.claim?_recognises h
  have hmem : c.handler ∈ cx.handlers := hmem
  simp only [handlers, List.mem_cons, List.not_mem_nil, or_false] at hmem
  -- each handler recognises its own role
  rcases hmem with h | h | h | h | h <;> rw [h] at hdetect ⊢ <;> rw [detect_role hdetect] <;> rfl

/-! ### Facts about analysed classes -/

/-- What the first phase finds out about a class, in a world that knows nothing. -/
def findings (cx : Context) (id : DeclarationId) : Findings Analysis :=
  match cx.engine.claimed? id with
  | some (_, c) => (Work.analyze cx c.detected.role id c.detected { world := {} }).1
  | none => {}

/-- The analysis of a class that is registered. -/
abbrev found? (cx : Context) (id : DeclarationId) : Option Analysis := cx.engine.found? cx.findings id

end Context

namespace Analysis

/-- What is known about a directive or component with an analysis. -/
def directive? : Analysis → Option DirectiveInfo
  | .component c => some (c.data.info true c.imports)
  | .directive d => some (d.data.info false [])
  | _ => none

/-- What is known about a pipe with an analysis. -/
def pipe? : Analysis → Option PipeInfo
  | .pipe p => some p.info
  | _ => none

/-- What is known about a module with an analysis. -/
def module? : Analysis → Option ModuleInfo
  | .ngModule m => some m.info
  | _ => none

end Analysis

/-- A registry knows all there is to know about the classes that are done, and nothing else. -/
structure Registry.Knows (cx : Context) (done : DeclarationId → Prop) (r : Registry) : Prop where
  directives : r.directives.Knows done fun k => (cx.found? k).bind Analysis.directive?
  pipes : r.pipes.Knows done fun k => (cx.found? k).bind Analysis.pipe?
  modules : r.modules.Knows done fun k => (cx.found? k).bind Analysis.module?
  nodup : (r.modules.map (·.1)).Nodup

namespace Registry

variable {cx : Context} {id : DeclarationId} {a : Analysis} {done : DeclarationId → Prop} {r : Registry}

theorem knows_new (cx : Context) : Knows cx (fun _ => False) {} :=
  ⟨Table.knows_nil _, Table.knows_nil _, Table.knows_nil _, List.nodup_nil⟩

theorem Knows.pass (h : r.Knows cx done) (hid : cx.found? id = none) :
    r.Knows cx fun k => done k ∨ k = id where
  directives := h.directives.pass (by rw [hid]; rfl)
  pipes := h.pipes.pass (by rw [hid]; rfl)
  modules := h.modules.pass (by rw [hid]; rfl)
  nodup := h.nodup

theorem Knows.learn (h : r.Knows cx done) (hid : cx.found? id = some a) (ha : a.reference.id = id) :
    (r.learn cx id a).Knows cx fun k => done k ∨ k = id := by
  subst ha
  have hd : (cx.found? a.reference.id).bind Analysis.directive? = a.directive? := by rw [hid]; rfl
  have hp : (cx.found? a.reference.id).bind Analysis.pipe? = a.pipe? := by rw [hid]; rfl
  have hm : (cx.found? a.reference.id).bind Analysis.module? = a.module? := by rw [hid]; rfl
  -- an analysis holds a fact of one kind at most, and the other tables pass the class over
  cases a with
  | component c => exact ⟨h.directives.put hd, h.pipes.pass hp, h.modules.pass hm, h.nodup⟩
  | directive d => exact ⟨h.directives.put hd, h.pipes.pass hp, h.modules.pass hm, h.nodup⟩
  | pipe p => exact ⟨h.directives.pass hd, h.pipes.put hp, h.modules.pass hm, h.nodup⟩
  | injectable i => exact ⟨h.directives.pass hd, h.pipes.pass hp, h.modules.pass hm, h.nodup⟩
  | ngModule m =>
    exact ⟨h.directives.pass hd, h.pipes.pass hp, h.modules.put hm, Table.nodup_keys_put h.nodup _ _⟩

theorem Knows.close (h : r.Knows cx done) (hall : ∀ k, (cx.found? k).isSome → done k) :
    r.Knows cx fun _ => True where
  directives := h.directives.close fun k hk => hall k (Option.isSome_of_isSome_bind hk)
  pipes := h.pipes.close fun k hk => hall k (Option.isSome_of_isSome_bind hk)
  modules := h.modules.close fun k hk => hall k (Option.isSome_of_isSome_bind hk)
  nodup := h.nodup

/-! ### Modules that declare a class -/

section Declaring

variable {other : DeclarationId}

theorem mem_declaringModules (h : (r.modules.map (·.1)).Nodup) :
    other ∈ r.declaringModules id ↔
      ∃ info, Table.get? other r.modules = some info ∧ ∃ d ∈ info.declarations, d.id = id := by
  simp only [declaringModules, ascending, List.mem_mergeSort, List.mem_map, List.mem_filter,
    List.any_eq_true, beq_iff_eq]
  constructor
  · rintro ⟨⟨k, info⟩, ⟨hmem, hd⟩, rfl⟩
    exact ⟨info, (Table.mem_iff_get? h k info).1 hmem, hd⟩
  · rintro ⟨info, hget, hd⟩
    exact ⟨(other, info), ⟨(Table.mem_iff_get? h other info).2 hget, hd⟩, rfl⟩

/-- Every module that declares a class is listed once. -/
theorem declaringModules_sorted (h : (r.modules.map (·.1)).Nodup) (id : DeclarationId) :
    (r.declaringModules id).Pairwise (· < ·) := by
  have hnodup : (r.declaringModules id).Nodup :=
    (List.mergeSort_perm _ _).nodup_iff.2 (h.sublist (List.filter_sublist.map _))
  have hle : (r.declaringModules id).Pairwise (· ≤ ·) := List.sortedLE_mergeSort.pairwise
  refine (hle.and hnodup).imp ?_
  rintro a b ⟨hab, hne⟩
  exact lt_of_le_of_ne hab hne

end Declaring

/-! ### Registries that know everything -/

theorem ascending_eq_of_perm {ids ids' : List DeclarationId} (h : ids.Perm ids') :
    ascending ids = ascending ids' := by
  have hperm : (ascending ids).Perm (ascending ids') :=
    (List.mergeSort_perm _ _).trans (h.trans (List.mergeSort_perm _ _).symm)
  exact hperm.eq_of_sortedLE List.sortedLE_mergeSort List.sortedLE_mergeSort

variable {r' : Registry}

/-- Modules are listed in the order of the program, so it plays no part which of them was registered
first. -/
theorem Knows.declaringModules_eq (h : r.Knows cx fun _ => True) (h' : r'.Knows cx fun _ => True) :
    r.declaringModules = r'.declaringModules := by
  have hperm : r.modules.Perm r'.modules :=
    Table.perm_of_get?_eq h.nodup h'.nodup fun k => by rw [h.modules.get?_eq, h'.modules.get?_eq]
  funext id
  exact ascending_eq_of_perm ((hperm.filter _).map _)

end Registry

/-- Two sources that say the same about every class. -/
structure Metadata.SameFacts (m m' : Metadata) : Prop where
  directive : m.directive? = m'.directive?
  pipe : m.pipe? = m'.pipe?
  module : m.module? = m'.module?

namespace Metadata.SameFacts

variable {m m' : Metadata} (h : m.SameFacts m')
include h

theorem isModule_eq : m.isModule = m'.isModule := by
  funext id
  rw [isModule, isModule, h.module]

theorem isDeclarable_eq : m.isDeclarable = m'.isDeclarable := by
  funext id
  rw [isDeclarable, isDeclarable, h.directive, h.pipe]

theorem isStandalone_eq : m.isStandalone = m'.isStandalone := by
  funext id
  rw [isStandalone, isStandalone, h.directive, h.pipe]

theorem declarables_eq : m.declarables = m'.declarables := by
  simp only [declarables, h.directive, h.pipe]

end Metadata.SameFacts

theorem Scoping.moduleMembers?_congr {m m' : Metadata} (h : m.SameFacts m') :
    moduleMembers? m = moduleMembers? m' := by
  obtain ⟨_, _, _, _, _⟩ := m
  obtain ⟨_, _, _, _, _⟩ := m'
  obtain ⟨rfl, rfl, rfl⟩ := h
  rfl

theorem Scoping.componentMembers?_congr {m m' : Metadata} {r r' : Registry} (h : m.SameFacts m')
    (hr : r.declaringModules = r'.declaringModules) : componentMembers? m r = componentMembers? m' r' := by
  funext id
  have hown : (r.owner? id) = (r'.owner? id) := by rw [Registry.owner?, Registry.owner?, hr]
  rw [componentMembers?, componentMembers?, hown, moduleMembers?_congr h]
  obtain ⟨_, _, _, _, _⟩ := m
  obtain ⟨_, _, _, _, _⟩ := m'
  obtain ⟨rfl, rfl, rfl⟩ := h
  rfl

end ComponentAtlas
