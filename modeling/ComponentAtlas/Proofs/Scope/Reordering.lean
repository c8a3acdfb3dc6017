import ComponentAtlas.Proofs.Roles.Knowledge
import Mathlib.Order.Bounds.Basic

/-!
# What a component sees, in whatever order lists are written

The declarations, imports and exports of a module are lists, and so are the imports of a standalone
component. Scopes are filled in the order of these lists, and circles of modules are cut off where the
order says. Here it is shown that what is in the scope of a component does not depend on the order.

* `Metadata.Reorders`: the same facts with lists in another order;
* `Registry.Declares`, `Registry.owner?_eq_some_iff`: the module to which a class belongs is the one
  with the smallest number among those that declare it;
* `Sees`: what the template of a component can use, without reference to the search;
* `ofComponent_reordered`: the scope of a component, in one order and in the other.
-/

namespace ComponentAtlas

open ComponentAtlas.Script

/-! ### The same facts in another order -/

/-- The same module with its lists in another order. -/
structure ModuleInfo.Reorders (a b : ModuleInfo) : Prop where
  reference : a.reference = b.reference
  declarations : a.declarations.Perm b.declarations
  imports : a.imports.Perm b.imports
  exports : a.exports.Perm b.exports

/-- The same directive with its imports in another order. -/
structure DirectiveInfo.Reorders (a b : DirectiveInfo) : Prop where
  rest : b = { a with imports := b.imports }
  imports : a.imports.Perm b.imports

/-- The same facts with the lists of modules and the imports of components in another order. -/
structure Metadata.Reorders (m m' : Metadata) : Prop where
  directive : ∀ id, Option.Rel DirectiveInfo.Reorders (m.directive? id) (m'.directive? id)
  pipe : ∀ id, m.pipe? id = m'.pipe? id
  module : ∀ id, Option.Rel ModuleInfo.Reorders (m.module? id) (m'.module? id)

section Related

variable {α β : Type} {R : α → α → Prop} {a b c d : Option α}

theorem rel_or (h : Option.Rel R a b) (h' : Option.Rel R c d) : Option.Rel R (a.or c) (b.or d) := by
  cases h with
  | none => exact h'
  | some hab => exact .some hab

theorem map_eq_of_rel (h : Option.Rel R a b) {f : α → β} (hf : ∀ x y, R x y → f x = f y) :
    a.map f = b.map f := by
  cases h with
  | none => rfl
  | some hab => exact congrArg some (hf _ _ hab)

/-- What is said of related values holds of the one exactly if it holds of the other. -/
theorem exists_iff_of_rel (h : Option.Rel R a b) {p : α → Prop} (hp : ∀ x y, R x y → (p x ↔ p y)) :
    (∃ x, a = some x ∧ p x) ↔ ∃ y, b = some y ∧ p y := by
  cases h with
  | none => simp
  | some hab => simpa using hp _ _ hab

end Related

theorem DirectiveInfo.Reorders.of_eq {a b : DirectiveInfo} (h : a.Reorders b) :
    ScopeDirective.of a = ScopeDirective.of b := by
  rw [h.rest]
  rfl

namespace Metadata.Reorders

variable {m m' c c' : Metadata}

theorem orElse (h : m.Reorders m') (hc : c.Reorders c') : (m.orElse c).Reorders (m'.orElse c') where
  directive id := rel_or (h.directive id) (hc.directive id)
  pipe id := congrArg₂ Option.or (h.pipe id) (hc.pipe id)
  module id := rel_or (h.module id) (hc.module id)

variable (h : m.Reorders m')
include h

theorem isModule_eq : m.isModule = m'.isModule := by
  funext id
  rw [isModule, isModule, ← Option.isSome_map (f := fun _ => ()), map_eq_of_rel (h.module id) fun _ _ _ => rfl,
    Option.isSome_map]

/-- Directives have the same entries in scopes. -/
theorem directiveEntry_eq (id : DeclarationId) :
    (m.directive? id).map ScopeDirective.of = (m'.directive? id).map ScopeDirective.of :=
  map_eq_of_rel (h.directive id) fun _ _ hinfo => hinfo.of_eq

theorem isStandalone_eq (id : DeclarationId) : m.isStandalone id = m'.isStandalone id := by
  rw [isStandalone, isStandalone, h.pipe, map_eq_of_rel (h.directive id) fun a b hinfo => ?_]
  rw [hinfo.rest]

theorem declarables : m.declarables.Reorders m'.declarables where
  directive := h.directive
  pipe id := by
    have hsome : (m.directive? id).isSome = (m'.directive? id).isSome := by
      simpa using congrArg Option.isSome (h.directiveEntry_eq id)
    simp only [Metadata.declarables, hsome, h.pipe]
  module _ := .none

theorem filed (hm : m.Filed) : m'.Filed where
  directive_id := by
    intro id info hinfo
    have hrel := h.directive id
    rw [hinfo] at hrel
    generalize ha : m.directive? id = a at hrel
    cases hrel with
    | some hab => rw [← hm.directive_id ha, hab.rest]
  pipe_id hinfo := hm.pipe_id ((h.pipe _).trans hinfo)

/-- A scope that holds a set in one order holds it in the other. -/
theorem holds {scope : Scope} {S : DeclarationId → Prop} (hs : scope.Holds m S) : scope.Holds m' S where
  directives := by
    have hentry : (fun id => (m.directive? id).map ScopeDirective.of) =
        fun id => (m'.directive? id).map ScopeDirective.of := funext h.directiveEntry_eq
    rw [← hentry]
    exact hs.directives
  pipes := by
    have hentry : (fun id => (m.pipe? id).map ScopePipe.of) = fun id => (m'.pipe? id).map ScopePipe.of := by
      funext id
      rw [h.pipe]
    rw [← hentry]
    exact hs.pipes

end Metadata.Reorders

/-! ### The module to which a class belongs -/

namespace Registry

variable {r r' : Registry} {id k : DeclarationId}

/-- Every module stands in the registry once. -/
def Keyed (r : Registry) : Prop := (r.modules.map (·.1)).Nodup

/-- A module of the registry has a class among its declarations. -/
def Declares (r : Registry) (k id : DeclarationId) : Prop :=
  ∃ info, r.metadata.module? k = some info ∧ ∃ d ∈ info.declarations, d.id = id

theorem owner?_eq_none_iff (hr : r.Keyed) : r.owner? id = none ↔ ∀ k, ¬ r.Declares k id := by
  rw [owner?, List.head?_eq_none_iff, List.eq_nil_iff_forall_not_mem]
  exact forall_congr' fun k => not_congr (mem_declaringModules hr)

theorem owner?_eq_some_iff (hr : r.Keyed) :
    r.owner? id = some k ↔ IsLeast {k | r.Declares k id} k := by
  have hsorted := declaringModules_sorted hr id
  have hmem : ∀ {k}, k ∈ r.declaringModules id ↔ r.Declares k id := mem_declaringModules hr
  rw [owner?]
  generalize r.declaringModules id = ks at hsorted hmem
  cases ks with
  | nil =>
    constructor
    · intro hnone
      cases hnone
    · intro hleast
      exact absurd (hmem.2 hleast.1) List.not_mem_nil
  | cons k₀ ks =>
    have hleast : IsLeast {k | r.Declares k id} k₀ := by
      refine ⟨hmem.1 List.mem_cons_self, fun k hk => ?_⟩
      rcases List.mem_cons.1 (hmem.2 hk) with rfl | hk
      · exact Nat.le_refl k
      · exact ((List.pairwise_cons.1 hsorted).1 k hk).le
    rw [List.head?_cons, Option.some.injEq]
    exact ⟨fun hk => hk ▸ hleast, fun hk => hleast.unique hk⟩

theorem declares_eq (h : r.metadata.Reorders r'.metadata) : r.Declares = r'.Declares := by
  funext k id
  refine propext (exists_iff_of_rel (h.module k) fun a b hinfo => ?_)
  simp only [hinfo.declarations.mem_iff]

theorem owner?_eq (hr : r.Keyed) (hr' : r'.Keyed) (h : r.metadata.Reorders r'.metadata) :
    r.owner? id = r'.owner? id := by
  refine Option.ext fun k => ?_
  rw [owner?_eq_some_iff hr, owner?_eq_some_iff hr', declares_eq h]

end Registry

/-! ### What a component sees -/

namespace Scoping

variable {m m' : Metadata} {r r' : Registry} {id : DeclarationId}

/-- What an import contributes to a scope: what a module exports, or a class that needs no module. -/
def Contributes (m : Metadata) (k d : DeclarationId) : Prop :=
  if m.isModule k then Offers m k d else d = k ∧ m.isStandalone k

/-- What the template of a component can use. A standalone component sees itself and what its imports
contribute; any other component sees what the first module that declares it has among its
declarations, and what the imports of that module contribute. -/
inductive Sees (m : Metadata) (r : Registry) (id : DeclarationId) : DeclarationId → Prop
  | self : isStandaloneComponent m id → Sees m r id id
  | ownImport {info : DirectiveInfo} {i : Reference} {d : DeclarationId} : isStandaloneComponent m id →
      m.directive? id = some info → i ∈ info.imports → Contributes m i.id d → Sees m r id d
  | declared {k : DeclarationId} {info : ModuleInfo} {x : Reference} : ¬ isStandaloneComponent m id →
      IsLeast {k | r.Declares k id} k → m.module? k = some info → x ∈ info.declarations →
      Sees m r id x.id
  | imported {k : DeclarationId} {info : ModuleInfo} {i : Reference} {d : DeclarationId} :
      ¬ isStandaloneComponent m id → IsLeast {k | r.Declares k id} k → m.module? k = some info →
      i ∈ info.imports → Contributes m i.id d → Sees m r id d

section Reordered

variable (h : m.Reorders m')
include h

theorem lists_eq : Lists m = Lists m' := by
  funext n d
  refine propext (exists_iff_of_rel (h.module n) fun a b hinfo => ?_)
  simp only [hinfo.exports.mem_iff]

theorem offers_eq : Offers m = Offers m' := by
  have hreexports : Reexports m = Reexports m' := by
    funext n k
    rw [Reexports, Reexports, lists_eq h, h.isModule_eq]
  funext n d
  rw [Offers, Offers, hreexports, lists_eq h]

theorem brings_eq : Brings m = Brings m' := by
  funext k d
  rw [Brings, Brings, offers_eq h, h.isModule_eq, h.declarables.isStandalone_eq]

theorem moduleSees_eq : ModuleSees m = ModuleSees m' := by
  funext id d
  rw [ModuleSees, ModuleSees, brings_eq h]
  refine propext (exists_iff_of_rel (h.module id) fun a b hinfo => ?_)
  simp only [hinfo.declarations.mem_iff, hinfo.imports.mem_iff]

theorem componentSees_eq : ComponentSees m = ComponentSees m' := by
  funext id d
  rw [ComponentSees, ComponentSees, brings_eq h]
  refine propext (exists_iff_of_rel (h.directive id) fun a b hinfo => ?_)
  simp only [hinfo.imports.mem_iff]

theorem isStandaloneComponent_eq (id : DeclarationId) :
    isStandaloneComponent m id = isStandaloneComponent m' id := by
  have hmap := map_eq_of_rel (h.directive id) (f := fun info => info.isComponent && info.isStandalone)
    fun a b hinfo => by rw [hinfo.rest]
  rw [isStandaloneComponent, isStandaloneComponent]
  revert hmap
  cases m.directive? id <;> cases m'.directive? id <;> simp

theorem componentMembers?_eq (howner : r.owner? id = r'.owner? id) :
    componentMembers? m r id = componentMembers? m' r' id := by
  have hmodule : moduleMembers? m = moduleMembers? m' := by
    funext k
    rw [moduleMembers?, moduleMembers?, h.isModule_eq, moduleSees_eq h]
  rw [componentMembers?, componentMembers?, isStandaloneComponent_eq h, componentSees_eq h, howner, hmodule]

theorem fits_reordered {S : Option (DeclarationId → Prop)} {a : Option Scope} (ha : Fits m S a) :
    Fits m' S a := by
  cases ha with
  | none => exact .none
  | some hs => exact .some (h.declarables.holds hs)

end Reordered

/-! ### Classes with one role -/

section Tidy

variable {scope : Scope} {S : DeclarationId → Prop} {k d : DeclarationId} (hm : m.Tidy)
include hm

theorem filed_of_tidy : m.Filed := ⟨hm.directive_id, hm.pipe_id⟩

theorem declarables_pipe? (id : DeclarationId) : m.declarables.pipe? id = m.pipe? id := by
  show (if (m.directive? id).isSome then none else m.pipe? id) = m.pipe? id
  split
  · next hd =>
    have hnone := (hm.directive_or_pipe id).resolve_left (Option.isSome_iff_ne_none.1 hd)
    exact hnone.symm
  · rfl

theorem brings_iff (hd : ¬ m.isModule d) : Brings m k d ↔ Contributes m k d := by
  have halone : m.declarables.isStandalone k = m.isStandalone k := by
    rw [Metadata.isStandalone, Metadata.isStandalone, declarables_pipe? hm]
    rfl
  rw [Brings, Contributes, halone]
  split
  · next hk => simp [hk, hd]
  · next hk => simp [hk]

theorem componentSees_iff (hd : ¬ m.isModule d) (halone : isStandaloneComponent m id) :
    ComponentSees m id d ↔ Sees m r id d := by
  constructor
  · rintro ⟨info, hinfo, rfl | ⟨i, hi, hbrings⟩⟩
    · exact .self halone
    · exact .ownImport halone hinfo hi ((brings_iff hm hd).1 hbrings)
  · intro hsees
    cases hsees with
    | self _ =>
      obtain ⟨info, hinfo, -⟩ := (Option.any_eq_true _ _).1 halone
      exact ⟨info, hinfo, .inl rfl⟩
    | ownImport _ hinfo hi hd' => exact ⟨_, hinfo, .inr ⟨_, hi, (brings_iff hm hd).2 hd'⟩⟩
    | declared hnot => exact absurd halone hnot
    | imported hnot => exact absurd halone hnot

theorem moduleSees_iff (hd : ¬ m.isModule d) (hnot : ¬ isStandaloneComponent m id)
    (hk : IsLeast {k | r.Declares k id} k) : ModuleSees m k d ↔ Sees m r id d := by
  constructor
  · rintro ⟨info, hinfo, ⟨x, hx, rfl⟩ | ⟨i, hi, hbrings⟩⟩
    · exact .declared hnot hk hinfo hx
    · exact .imported hnot hk hinfo hi ((brings_iff hm hd).1 hbrings)
  · intro hsees
    cases hsees with
    | self halone => exact absurd halone hnot
    | ownImport halone => exact absurd halone hnot
    | declared _ hk' hinfo hx =>
      obtain rfl := hk.unique hk'
      exact ⟨_, hinfo, .inl ⟨_, hx, rfl⟩⟩
    | imported _ hk' hinfo hi hd' =>
      obtain rfl := hk.unique hk'
      exact ⟨_, hinfo, .inr ⟨_, hi, (brings_iff hm hd).2 hd'⟩⟩

/-- A scope may be described with or without the modules among the declarations. -/
theorem holds_of_declarables {T : DeclarationId → Prop} (hs : scope.Holds m.declarables S)
    (hST : ∀ d, ¬ m.isModule d → (S d ↔ T d)) : scope.Holds m T where
  directives := hs.directives.congr fun d hd => hST d fun hmodule => by
    have hnone := (hm.module_or_directive d).resolve_left (Option.isSome_iff_ne_none.1 hmodule)
    have hsome : (m.directive? d).isSome := by
      rw [← Option.isSome_map (f := ScopeDirective.of)]
      exact hd
    rw [hnone] at hsome
    cases hsome
  pipes := by
    have hentry : (fun id => (m.declarables.pipe? id).map ScopePipe.of) =
        fun id => (m.pipe? id).map ScopePipe.of := by
      funext id
      rw [declarables_pipe? hm]
    have hpipes := hs.pipes
    rw [hentry] at hpipes
    refine hpipes.congr fun d hd => hST d fun hmodule => ?_
    have hnone := (hm.module_or_pipe d).resolve_left (Option.isSome_iff_ne_none.1 hmodule)
    have hsome : (m.pipe? d).isSome := by simpa using hd
    rw [hnone] at hsome
    cases hsome

theorem holds_sees (hr : r.Keyed) (hS : componentMembers? m r id = some S)
    (hs : scope.Holds m.declarables S) : scope.Holds m (Sees m r id) := by
  rw [componentMembers?] at hS
  split at hS
  · next halone =>
    cases hS
    exact holds_of_declarables hm hs fun d hd => componentSees_iff hm hd halone
  · next hnot =>
    obtain ⟨k, hk, hS⟩ := Option.bind_eq_some_iff.1 hS
    rw [moduleMembers?] at hS
    split at hS
    · cases hS
      exact holds_of_declarables hm hs fun d hd =>
        moduleSees_iff hm hd hnot ((Registry.owner?_eq_some_iff hr).1 hk)
    · cases hS

end Tidy

/-- Exactly the components that are not standalone and that no module declares see nothing. -/
theorem componentMembers?_eq_none_iff (hr : r.Keyed)
    (hlocal : ∀ k, r.metadata.isModule k → m.isModule k) :
    componentMembers? m r id = none ↔ ¬ isStandaloneComponent m id ∧ ∀ k, ¬ r.Declares k id := by
  rw [componentMembers?]
  split
  · next halone => simp [halone]
  · next hnot =>
    rw [← Registry.owner?_eq_none_iff hr, Option.bind_eq_none_iff]
    refine ⟨fun hnone => ⟨hnot, ?_⟩, fun hnone k hk => by rw [hnone.2] at hk; cases hk⟩
    by_contra hsome
    obtain ⟨k, hk⟩ := Option.ne_none_iff_exists'.1 hsome
    obtain ⟨info, hinfo, -⟩ := ((Registry.owner?_eq_some_iff hr).1 hk).1
    have hmodule : m.isModule k := hlocal k (by rw [Metadata.isModule, hinfo]; rfl)
    have hmembers := hnone k hk
    rw [moduleMembers?, if_pos hmodule] at hmembers
    cases hmembers

/-- **Order of lists.** Take facts about classes, those of the registry first, and the same facts with
the declarations, imports and exports of modules and the imports of components in another order. After
any earlier questions, a component has no scope in both orders, which is so exactly if it is not
standalone and no module of the registry declares it; or it has scopes with the same directives and the
same pipes. The scope holds what the component sees, every declaration once. -/
theorem ofComponent_reordered {r r' : Registry} {c c' : Metadata} (hr : r.Keyed) (hr' : r'.Keyed)
    (hm : (r.metadata.orElse c).Tidy) (h : r.metadata.Reorders r'.metadata) (hc : c.Reorders c')
    (earlier earlier' : List Question) (id : DeclarationId) :
    let m := r.metadata.orElse c
    let m' := r'.metadata.orElse c'
    let answer := (ofComponent m r id (ask m r earlier {})).1
    Option.Rel Scope.SameMembers answer (ofComponent m' r' id (ask m' r' earlier' {})).1 ∧
    (answer = none ↔ ¬ isStandaloneComponent m id ∧ ∀ k, ¬ r.Declares k id) ∧
    ∀ scope, answer = some scope → scope.Holds m (Sees m r id) := by
  intro m m' answer
  have hreorders : m.Reorders m' := h.orElse hc
  have hfiled : m.Filed := filed_of_tidy hm
  have hfiled' : m'.Filed := hreorders.filed hfiled
  have hfits : Fits m (componentMembers? m r id) answer :=
    (ofComponent_full hfiled r (ask_full hfiled r earlier (full_new m)) id).2
  have hfits' := (ofComponent_full hfiled' r' (ask_full hfiled' r' earlier' (full_new m')) id).2
  rw [← componentMembers?_eq hreorders (Registry.owner?_eq hr hr' h)] at hfits'
  have hlocal : ∀ k, r.metadata.isModule k → m.isModule k := by
    intro k hk
    show ((r.metadata.module? k).or (c.module? k)).isSome
    rw [Option.isSome_or]
    exact Bool.or_eq_true_iff.2 (.inl hk)
  have hsame := (fits_reordered hreorders hfits).sameMembers hfits'
  clear_value answer
  refine ⟨hsame, ?_, ?_⟩
  · rw [← componentMembers?_eq_none_iff hr hlocal]
    generalize componentMembers? m r id = S at hfits
    cases hfits with
    | none => exact iff_of_true rfl rfl
    | some hs => exact iff_of_false (Option.some_ne_none _) (Option.some_ne_none _)
  · intro scope hscope
    rw [hscope] at hfits
    generalize hS : componentMembers? m r id = S at hfits
    cases hfits with
    | some hs => exact holds_sees hm hr hS hs

/-- Two modules that export each other, one of which declares two components; a standalone component
imports the other one. -/
def shuffledModules (turn : List Reference → List Reference) : Registry where
  modules := [
    (1, { reference := ⟨1, "A", "/a.ts"⟩
          declarations := turn [⟨3, "C", "/a.ts"⟩, ⟨4, "D", "/a.ts"⟩]
          imports := turn [⟨2, "B", "/a.ts"⟩, ⟨5, "E", "/a.ts"⟩]
          exports := turn [⟨2, "B", "/a.ts"⟩, ⟨3, "C", "/a.ts"⟩] }),
    (2, { reference := ⟨2, "B", "/a.ts"⟩
          exports := turn [⟨1, "A", "/a.ts"⟩, ⟨6, "P", "/a.ts"⟩] })]
  directives := [
    (3, { reference := ⟨3, "C", "/a.ts"⟩, isComponent := true }),
    (4, { reference := ⟨4, "D", "/a.ts"⟩, isComponent := true }),
    (5, { reference := ⟨5, "E", "/a.ts"⟩, isComponent := true, isStandalone := true
          imports := turn [⟨2, "B", "/a.ts"⟩, ⟨4, "D", "/a.ts"⟩] })]
  pipes := [(6, { reference := ⟨6, "P", "/a.ts"⟩, name := "p" })]

theorem shuffledModules_reorders :
    (shuffledModules fun is => is).metadata.Reorders (shuffledModules List.reverse).metadata where
  directive k := by
    simp only [Registry.metadata, shuffledModules, Table.get?]
    split_ifs
    · exact .some ⟨rfl, .refl _⟩
    · exact .some ⟨rfl, .refl _⟩
    · exact .some ⟨rfl, (List.reverse_perm _).symm⟩
    · exact .none
  pipe k := rfl
  module k := by
    simp only [Registry.metadata, shuffledModules, Table.get?]
    split_ifs
    · exact .some ⟨rfl, (List.reverse_perm _).symm, (List.reverse_perm _).symm,
        (List.reverse_perm _).symm⟩
    · exact .some ⟨rfl, .refl _, .refl _, (List.reverse_perm _).symm⟩
    · exact .none

theorem shuffledModules_tidy :
    ((shuffledModules fun is => is).metadata.orElse ({} : Registry).metadata).Tidy := by
  constructor <;> intro id <;>
    simp only [Metadata.orElse, Registry.metadata, shuffledModules, Table.get?] <;> grind

/-- A component that the first module declares sees the same in both orders, though not in the same
order. -/
theorem ofComponent_reordered_shuffled :
    let r := shuffledModules fun is => is
    let r' := shuffledModules List.reverse
    let m := r.metadata.orElse ({} : Registry).metadata
    let m' := r'.metadata.orElse ({} : Registry).metadata
    let scope : Scope := ⟨[⟨⟨3, "C", "/a.ts"⟩, none, true⟩, ⟨⟨4, "D", "/a.ts"⟩, none, true⟩,
      ⟨⟨5, "E", "/a.ts"⟩, none, true⟩], [⟨⟨6, "P", "/a.ts"⟩, "p"⟩]⟩
    r.Keyed ∧ r'.Keyed ∧ m.Tidy ∧ r.metadata.Reorders r'.metadata ∧
    (ofComponent m r 4 (ask m r [] {})).1 = some scope ∧
    (ofComponent m' r' 4 (ask m' r' [.exported 2] {})).1 ≠ some scope ∧
    Option.Rel Scope.SameMembers (some scope) (ofComponent m' r' 4 (ask m' r' [.exported 2] {})).1 ∧
    scope.Holds m (Sees m r 4) := by
  intro r r' m m' scope
  have hkeyed : r.Keyed := List.nodup_iff_pairwise_ne.2 (by decide)
  have hkeyed' : r'.Keyed := List.nodup_iff_pairwise_ne.2 (by decide)
  have hscope : (ofComponent m r 4 (ask m r [] {})).1 = some scope := by decide +kernel
  have hother : (ofComponent m' r' 4 (ask m' r' [.exported 2] {})).1 ≠ some scope := by
    decide +kernel
  have hnothing : ({} : Registry).metadata.Reorders ({} : Registry).metadata :=
    ⟨fun _ => .none, fun _ => rfl, fun _ => .none⟩
  obtain ⟨hsame, -, hholds⟩ := ofComponent_reordered hkeyed hkeyed' shuffledModules_tidy
    shuffledModules_reorders hnothing [] [.exported 2] 4
  rw [hscope] at hsame
  exact ⟨hkeyed, hkeyed', shuffledModules_tidy, shuffledModules_reorders, hscope, hother, hsame,
    hholds scope hscope⟩

end Scoping

end ComponentAtlas
