import ComponentAtlas.Proofs.Scope.Exports

/-!
# What is in a scope, whatever was asked before

Remembered scopes are used again for later questions. Here every scope that is given as an answer is
described by the set of declarations that it is made of, and the set does not depend on what is
remembered. A class may be a module, a directive and a pipe at the same time.

* `Metadata.declarables`, `Metadata.distinct`: the same facts with at most one role for each class, as
  scopes use them;
* `Brings`, `ModuleSees`, `ComponentSees`: what an import brings, and what templates can use;
* `Full`: all remembered scopes hold what they should;
* `Question`: any question about scopes; `Question.members?` is the set that answers it;
* `answer_members`: one question, from any full state; `ask_full`: many questions.
-/

namespace ComponentAtlas

open ComponentAtlas.Script

/-! ### Classes with several roles -/

namespace Metadata

variable {m : Metadata} {id : DeclarationId}

/-- Facts are filed under the declaration that they are about. -/
structure Filed (m : Metadata) : Prop where
  directive_id : ∀ {id info}, m.directive? id = some info → info.reference.id = id
  pipe_id : ∀ {id info}, m.pipe? id = some info → info.reference.id = id

/-- The directives and pipes alone; a class that is both counts as a directive. -/
def declarables (m : Metadata) : Metadata where
  directive? := m.directive?
  pipe? id := if (m.directive? id).isSome then none else m.pipe? id
  module? _ := none
  modules := []
  mem_modules _ h := nomatch h

/-- The same modules; a class that is a module counts as nothing else. -/
def distinct (m : Metadata) : Metadata where
  directive? id := if m.isModule id then none else m.declarables.directive? id
  pipe? id := if m.isModule id then none else m.declarables.pipe? id
  module? := m.module?
  modules := m.modules
  mem_modules := m.mem_modules

theorem Filed.declarables_tidy (h : m.Filed) : m.declarables.Tidy where
  directive_id := h.directive_id
  pipe_id := by
    intro id info hp
    simp only [declarables] at hp
    split at hp
    · cases hp
    · exact h.pipe_id hp
  directive_or_pipe id := by
    simp only [declarables]
    cases m.directive? id <;> simp
  module_or_directive _ := .inl rfl
  module_or_pipe _ := .inl rfl

theorem distinct_module_or (m : Metadata) (id : DeclarationId) :
    m.distinct.module? id = none ∨ m.distinct.directive? id = none ∧ m.distinct.pipe? id = none := by
  cases hid : m.module? id with
  | none => exact .inl hid
  | some info => exact .inr (by simp [distinct, isModule, hid])

theorem Filed.distinct_tidy (h : m.Filed) : m.distinct.Tidy where
  directive_id := by
    intro id info hd
    simp only [distinct] at hd
    split at hd
    · cases hd
    · exact h.directive_id hd
  pipe_id := by
    intro id info hp
    simp only [distinct] at hp
    split at hp
    · cases hp
    · exact h.declarables_tidy.pipe_id hp
  directive_or_pipe id := by
    simp only [distinct]
    split
    · exact .inl rfl
    · exact h.declarables_tidy.directive_or_pipe id
  module_or_directive id := (m.distinct_module_or id).imp_right And.left
  module_or_pipe id := (m.distinct_module_or id).imp_right And.right

end Metadata

namespace Scope

variable {m : Metadata} {s t : Scope} {S T : DeclarationId → Prop} {id : DeclarationId}

theorem addDeclarable_declarables (m : Metadata) (s : Scope) (id : DeclarationId) :
    s.addDeclarable m.declarables id = s.addDeclarable m id := by
  simp only [addDeclarable, Metadata.declarables]
  cases m.directive? id <;> simp

theorem addDeclarable_distinct (h : ¬ m.isModule id) (s : Scope) :
    s.addDeclarable m.distinct id = s.addDeclarable m id := by
  have hd : m.distinct.directive? id = m.declarables.directive? id := if_neg h
  have hp : m.distinct.pipe? id = m.declarables.pipe? id := if_neg h
  rw [← addDeclarable_declarables m, addDeclarable, addDeclarable, hd, hp]

/-- A class that can be imported without a module is put in like any other. -/
theorem addStandalone_eq (m : Metadata) (s : Scope) (id : DeclarationId) :
    s.addStandalone m id =
      if m.declarables.isStandalone id then s.addDeclarable m.declarables id else s := by
  rw [addDeclarable_declarables, addStandalone, addDeclarable]
  rcases hd : m.directive? id with _ | d
  · rcases hp : m.pipe? id with _ | p <;> simp [Metadata.isStandalone, Metadata.declarables, hd, hp]
  · simp [Metadata.isStandalone, Metadata.declarables, hd]

theorem Holds.addStandalone (hm : m.Filed) (hs : s.Holds m.declarables S) (id : DeclarationId) :
    (s.addStandalone m id).Holds m.declarables
      fun d => S d ∨ d = id ∧ m.declarables.isStandalone id := by
  rw [addStandalone_eq]
  split
  · next h =>
    exact (hs.addDeclarable hm.declarables_tidy id).congr fun d => by simp [h]
  · next h => exact hs.congr fun d => by simp [h]

theorem Holds.addDeclarables (hm : m.Filed) (hs : s.Holds m.declarables S)
    (ids : List DeclarationId) :
    (ids.foldl (Scope.addDeclarable m) s).Holds m.declarables fun d => S d ∨ d ∈ ids := by
  induction ids generalizing s S with
  | nil => exact hs.congr fun d => by simp
  | cons id ids ih =>
    have hid := hs.addDeclarable hm.declarables_tidy id
    rw [addDeclarable_declarables] at hid
    refine (ih hid).congr fun d => ?_
    rw [or_assoc, List.mem_cons]

/-- What was listed without some keys is listed for the other keys. -/
theorem Listing.unmask {β : Type} {key : β → DeclarationId} {entry entry' : DeclarationId → Option β}
    {c : DeclarationId → Bool} {xs : List β} (h : Listing key entry' S xs)
    (hentry : ∀ id, entry' id = if c id then none else entry id) :
    Listing key entry (fun id => S id ∧ ¬ c id) xs where
  mem := by
    intro x
    rw [h.mem, hentry]
    split
    · next hc => simp [hc]
    · next hc => simp [hc]
  nodup := h.nodup

theorem Holds.of_distinct (h : s.Holds m.distinct S) :
    s.Holds m.declarables fun d => S d ∧ ¬ m.isModule d where
  directives := h.directives.unmask fun id => by
    simp only [Metadata.distinct]
    split <;> rfl
  pipes := h.pipes.unmask fun id => by
    simp only [Metadata.distinct]
    split <;> rfl

/-- Two scopes have the same members, perhaps in different order. -/
def SameMembers (s t : Scope) : Prop := s.directives.Perm t.directives ∧ s.pipes.Perm t.pipes

theorem Listing.perm {β : Type} {key : β → DeclarationId} {entry : DeclarationId → Option β}
    {xs ys : List β} (hx : Listing key entry S xs) (hy : Listing key entry S ys) : xs.Perm ys := by
  rw [List.perm_ext_iff_of_nodup (.of_map key hx.nodup) (.of_map key hy.nodup)]
  intro x
  rw [hx.mem, hy.mem]

theorem Holds.sameMembers (hs : s.Holds m S) (ht : t.Holds m S) : s.SameMembers t :=
  ⟨hs.directives.perm ht.directives, hs.pipes.perm ht.pipes⟩

/-- No declaration is listed twice among the directives, and none among the pipes. -/
structure Unrepeated (s : Scope) : Prop where
  directives : (s.directives.map (·.reference.id)).Nodup
  pipes : (s.pipes.map (·.reference.id)).Nodup

theorem Holds.unrepeated (hs : s.Holds m S) : s.Unrepeated where
  directives := hs.directives.nodup
  pipes := hs.pipes.nodup

end Scope

namespace Scoping

variable {m : Metadata} {id : DeclarationId} {s : Scopes}

/-! ### Exported scopes -/

theorem collect_distinct (m : Metadata) {visit visit' : DeclarationId → Scoping (Option Found)}
    (hvisit : ∀ k, visit' k = visit k) (es : List Reference) (acc : Found) :
    collect m.distinct visit' es acc = collect m visit es acc := by
  induction es generalizing acc with
  | nil => rfl
  | cons e es ih =>
    rw [collect, collect, hvisit]
    have hmodule : m.distinct.isModule e.id = m.isModule e.id := rfl
    rw [hmodule]
    split
    · congr 1
      funext found
      cases found with
      | none => exact ih acc
      | some found => exact ih _
    · next he => rw [Scope.addDeclarable_distinct he, ih]

/-- Exported scopes do not see that a module is a directive or a pipe as well. -/
theorem exportedAt_distinct (m : Metadata) (fuel : ℕ) (path : List DeclarationId)
    (id : DeclarationId) : exportedAt m.distinct fuel path id = exportedAt m fuel path id := by
  induction fuel generalizing path id with
  | zero => rfl
  | succ fuel ih =>
    have hcollect : ∀ info : ModuleInfo,
        collect m.distinct (exportedAt m.distinct fuel (path ++ [id])) info.exports { scope := {} } =
          collect m (exportedAt m fuel (path ++ [id])) info.exports { scope := {} } :=
      fun info => collect_distinct m (fun k => ih (path ++ [id]) k) info.exports _
    have hmodule : m.distinct.module? id = m.module? id := rfl
    simp only [exportedAt, hcollect, hmodule]

theorem exported_distinct (m : Metadata) (id : DeclarationId) :
    exported m.distinct id = exported m id := by
  have hmodules : m.distinct.modules = m.modules := rfl
  rw [exported, exported, exportedAt_distinct, hmodules]

/-- The search for exported scopes leaves other remembered scopes alone. -/
def KeepsOthers {α : Type} (x : Scoping α) : Prop :=
  ∀ s, (x s).2.compilation = s.compilation ∧ (x s).2.standalone = s.standalone

theorem collect_keepsOthers {visit : DeclarationId → Scoping (Option Found)}
    (hvisit : ∀ k, KeepsOthers (visit k)) (es : List Reference) (acc : Found) :
    KeepsOthers (collect m visit es acc) := by
  induction es generalizing acc with
  | nil => exact fun s => ⟨rfl, rfl⟩
  | cons e es ih =>
    intro s
    rw [collect]
    split
    · rw [bind_apply]
      have hfirst := hvisit e.id s
      cases (visit e.id s).1 with
      | none => exact ⟨(ih acc _).1.trans hfirst.1, (ih acc _).2.trans hfirst.2⟩
      | some found => exact ⟨(ih _ _).1.trans hfirst.1, (ih _ _).2.trans hfirst.2⟩
    · exact ih _ s

theorem exportedAt_keepsOthers (m : Metadata) (fuel : ℕ) (path : List DeclarationId)
    (id : DeclarationId) : KeepsOthers (exportedAt m fuel path id) := by
  induction fuel generalizing path id with
  | zero => exact fun s => ⟨rfl, rfl⟩
  | succ fuel ih =>
    intro s
    cases hcached : Table.get? id s.exported with
    | some scope =>
      rw [exportedAt_of_remembered hcached]
      exact ⟨rfl, rfl⟩
    | none =>
      cases hid : m.module? id with
      | none =>
        rw [exportedAt_of_unknown hcached hid]
        exact ⟨rfl, rfl⟩
      | some info =>
        cases hplace : path.findIdx? (· == id) with
        | some place =>
          rw [exportedAt_of_circle hcached hid hplace]
          exact ⟨rfl, rfl⟩
        | none =>
          have hcollect := collect_keepsOthers (m := m) (fun k => ih (path ++ [id]) k) info.exports
            { scope := {} } s
          rw [exportedAt_of_new hcached hid hplace rfl]
          dsimp only
          split
          · exact hcollect
          · exact hcollect

/-! ### What imports bring -/

/-- What an import brings into a scope: what a module exports, or a class that needs no module. -/
def Brings (m : Metadata) (k d : DeclarationId) : Prop :=
  (m.isModule k ∧ Offers m k d ∧ ¬ m.isModule d) ∨
    (¬ m.isModule k ∧ d = k ∧ m.declarables.isStandalone k)

/-- What the templates of a module can use: what it declares, and what its imports bring. -/
def ModuleSees (m : Metadata) (id d : DeclarationId) : Prop :=
  ∃ info, m.module? id = some info ∧
    ((∃ r ∈ info.declarations, r.id = d) ∨ ∃ i ∈ info.imports, Brings m i.id d)

/-- What the template of a standalone component can use: itself, and what its imports bring. -/
def ComponentSees (m : Metadata) (id d : DeclarationId) : Prop :=
  ∃ info, m.directive? id = some info ∧ (d = id ∨ ∃ i ∈ info.imports, Brings m i.id d)

/-- Whether a class is a component that needs no module. -/
def isStandaloneComponent (m : Metadata) (id : DeclarationId) : Bool :=
  (m.directive? id).any fun info => info.isComponent && info.isStandalone

/-- All remembered scopes hold what they should. -/
structure Full (m : Metadata) (s : Scopes) : Prop where
  exported : Whole m.distinct s
  compilation : ∀ {id scope}, Table.get? id s.compilation = some scope →
    (m.module? id).isSome ∧ scope.Holds m.declarables (ModuleSees m id)
  standalone : ∀ {id scope}, Table.get? id s.standalone = some scope →
    isStandaloneComponent m id ∧ scope.Holds m.declarables (ComponentSees m id)

theorem full_new (m : Metadata) : Full m {} := ⟨whole_new _, nofun, nofun⟩

theorem exported_full (hm : m.Filed) (hs : Full m s) (id : DeclarationId) :
    Full m (exported m id s).2 ∧ ((exported m id s).1 = none ↔ ¬ m.isModule id) ∧
      ∀ scope, (exported m id s).1 = some scope →
        scope.Holds m.declarables fun d => Offers m id d ∧ ¬ m.isModule d := by
  obtain ⟨hwhole, hnone, hsome⟩ := exported_whole hm.distinct_tidy hs.exported id
  rw [exported_distinct] at hwhole hnone hsome
  obtain ⟨hcompilation, hstandalone⟩ := exportedAt_keepsOthers m (m.modules.length + 2) [] id s
  refine ⟨⟨hwhole, ?_, ?_⟩, hnone.trans ?_, fun scope h => (hsome scope h).of_distinct⟩
  · intro k scope hk
    exact hs.compilation (hcompilation ▸ hk)
  · intro k scope hk
    exact hs.standalone (hstandalone ▸ hk)
  · rw [Metadata.isModule, Option.not_isSome_iff_eq_none]
    rfl

theorem addImports_full (hm : m.Filed) (is : List Reference) {scope : Scope}
    {S : DeclarationId → Prop} (hs : Full m s) (hscope : scope.Holds m.declarables S) :
    Full m (addImports m is scope s).2 ∧ (addImports m is scope s).1.Holds m.declarables
      fun d => S d ∨ ∃ i ∈ is, Brings m i.id d := by
  induction is generalizing scope S s with
  | nil => exact ⟨hs, hscope.congr fun d => by simp⟩
  | cons i is ih =>
    obtain ⟨hfull, hnone, hsome⟩ := exported_full hm hs i.id
    -- one import adds what it brings, whether it is a module or not
    have hstep : ∀ {next : Scope}, (next.Holds m.declarables fun d => S d ∨ Brings m i.id d) →
        Full m (addImports m is next (exported m i.id s).2).2 ∧
          (addImports m is next (exported m i.id s).2).1.Holds m.declarables
            fun d => S d ∨ ∃ i' ∈ i :: is, Brings m i'.id d := by
      intro next hnext
      obtain ⟨hrest, hholds⟩ := ih hfull hnext
      refine ⟨hrest, hholds.congr fun d => ?_⟩
      rw [List.exists_mem_cons_iff, or_assoc]
    rw [addImports, bind_apply]
    cases hfound : (exported m i.id s).1 with
    | none =>
      have hmodule := hnone.1 hfound
      refine hstep ((hscope.addStandalone hm i.id).congr fun d => or_congr_right ?_)
      simp [Brings, hmodule]
    | some found =>
      have hmodule : m.isModule i.id := by
        by_contra hnot
        rw [hnone.2 hnot] at hfound
        cases hfound
      refine hstep ((hscope.merge hm.declarables_tidy (hsome found hfound)).congr fun d =>
        or_congr_right ?_)
      simp [Brings, hmodule]

/-! ### Scopes of modules and components -/

/-- An answer fits a set: there is none for no set, and otherwise a scope that holds the set. -/
abbrev Fits (m : Metadata) : Option (DeclarationId → Prop) → Option Scope → Prop :=
  Option.Rel fun S scope => scope.Holds m.declarables S

/-- The set for a module; a class that is no module has none. -/
def moduleMembers? (m : Metadata) (id : DeclarationId) : Option (DeclarationId → Prop) :=
  if m.isModule id then some (ModuleSees m id) else none

/-- The set for a component: its own, or that of the module to which it belongs. -/
def componentMembers? (m : Metadata) (r : Registry) (id : DeclarationId) :
    Option (DeclarationId → Prop) :=
  if isStandaloneComponent m id then some (ComponentSees m id)
  else (r.owner? id).bind (moduleMembers? m)

theorem ofModule_full (hm : m.Filed) (hs : Full m s) (id : DeclarationId) :
    Full m (ofModule m id s).2 ∧ Fits m (moduleMembers? m id) (ofModule m id s).1 := by
  rw [ofModule, get_bind_apply, moduleMembers?, Metadata.isModule]
  cases hcached : Table.get? id s.compilation with
  | some scope =>
    obtain ⟨hid, hscope⟩ := hs.compilation hcached
    exact ⟨hs, by simpa [hid] using .some hscope⟩
  | none =>
    cases hid : m.module? id with
    | none => exact ⟨hs, .none⟩
    | some info =>
      have hown : ((info.declarations.map (·.id)).foldl (Scope.addDeclarable m) {}).Holds
          m.declarables fun d => ∃ r ∈ info.declarations, r.id = d :=
        ((Scope.holds_empty _).addDeclarables hm _).congr fun d => by simp
      obtain ⟨hfull, hholds⟩ := addImports_full hm info.imports hs hown
      have hsees : (addImports m info.imports ((info.declarations.map (·.id)).foldl
          (Scope.addDeclarable m) {}) s).1.Holds m.declarables (ModuleSees m id) :=
        hholds.congr fun d => by simp [ModuleSees, hid]
      refine ⟨⟨hfull.exported, ?_, hfull.standalone⟩, .some hsees⟩
      intro k scope hk
      by_cases hki : k = id
      · subst hki
        cases (Table.get?_put_self k _ _).symm.trans hk
        exact ⟨by rw [hid]; rfl, hsees⟩
      · exact hfull.compilation ((Table.get?_put_of_ne hki _ _).symm.trans hk)

theorem ofStandalone_full (hm : m.Filed) (hs : Full m s) (id : DeclarationId) :
    Full m (ofStandalone m id s).2 ∧
      Fits m (if isStandaloneComponent m id then some (ComponentSees m id) else none)
        (ofStandalone m id s).1 := by
  rw [ofStandalone, get_bind_apply]
  cases hcached : Table.get? id s.standalone with
  | some scope =>
    obtain ⟨hid, hscope⟩ := hs.standalone hcached
    exact ⟨hs, by simpa [hid] using .some hscope⟩
  | none =>
    cases hid : m.directive? id with
    | none => exact ⟨hs, by simpa [isStandaloneComponent, hid] using .none⟩
    | some info =>
      by_cases halone : info.isComponent && info.isStandalone
      · have hself : (Scope.addDirective {} info).Holds m.declarables fun d => d = id := by
          have h := (Scope.holds_empty _).addDeclarable hm.declarables_tidy id
          rw [Scope.addDeclarable_declarables, Scope.addDeclarable, hid] at h
          exact h.congr fun d => by simp
        obtain ⟨hfull, hholds⟩ := addImports_full hm info.imports hs hself
        have hsees : (addImports m info.imports (Scope.addDirective {} info) s).1.Holds m.declarables
            (ComponentSees m id) := hholds.congr fun d => by simp [ComponentSees, hid]
        have hstandalone : isStandaloneComponent m id := by simpa [isStandaloneComponent, hid] using halone
        simp only [halone, if_true, hstandalone]
        refine ⟨⟨hfull.exported, hfull.compilation, ?_⟩, .some hsees⟩
        intro k scope hk
        by_cases hki : k = id
        · subst hki
          cases (Table.get?_put_self k _ _).symm.trans hk
          exact ⟨hstandalone, hsees⟩
        · exact hfull.standalone ((Table.get?_put_of_ne hki _ _).symm.trans hk)
      · simp only [halone]
        exact ⟨hs, by simpa [isStandaloneComponent, hid, halone] using .none⟩

theorem ofComponent_full (hm : m.Filed) (r : Registry) (hs : Full m s) (id : DeclarationId) :
    Full m (ofComponent m r id s).2 ∧ Fits m (componentMembers? m r id) (ofComponent m r id s).1 := by
  obtain ⟨hfull, hfits⟩ := ofStandalone_full hm hs id
  rw [ofComponent, bind_apply, componentMembers?]
  by_cases halone : isStandaloneComponent m id
  · simp only [halone, if_true] at hfits ⊢
    revert hfits
    cases (ofStandalone m id s).1 with
    | none => exact nofun
    | some scope => exact fun hfits => ⟨hfull, hfits⟩
  · simp only [halone] at hfits ⊢
    revert hfits
    cases (ofStandalone m id s).1 with
    | some scope => exact nofun
    | none =>
      intro _
      cases r.owner? id with
      | none => exact ⟨hfull, .none⟩
      | some owner => exact ofModule_full hm hfull owner

/-! ### Questions one after the other -/

/-- A question about a scope. -/
inductive Question
  /-- What a module offers to those that import it. -/
  | exported (id : DeclarationId)
  /-- What the templates of a module can use. -/
  | ofModule (id : DeclarationId)
  /-- What the template of a component can use. -/
  | ofComponent (id : DeclarationId)

/-- The answer to a question. -/
def Question.answer (m : Metadata) (r : Registry) : Question → Scoping (Option Scope)
  | .exported id => Scoping.exported m id
  | .ofModule id => Scoping.ofModule m id
  | .ofComponent id => Scoping.ofComponent m r id

/-- What is remembered after some questions, one after the other. -/
def ask (m : Metadata) (r : Registry) (qs : List Question) (s : Scopes) : Scopes :=
  qs.foldl (fun s q => (q.answer m r s).2) s

/-- The set that answers a question. -/
def Question.members? (m : Metadata) (r : Registry) : Question → Option (DeclarationId → Prop)
  | .exported id => if m.isModule id then some fun d => Offers m id d ∧ ¬ m.isModule d else none
  | .ofModule id => moduleMembers? m id
  | .ofComponent id => componentMembers? m r id

/-- The answer to a question holds what the facts say, whatever is remembered. -/
theorem answer_members (hm : m.Filed) (r : Registry) (q : Question) (hs : Full m s) :
    Full m (q.answer m r s).2 ∧ Fits m (q.members? m r) (q.answer m r s).1 := by
  cases q with
  | exported id =>
    obtain ⟨hfull, hnone, hsome⟩ := exported_full hm hs id
    refine ⟨hfull, ?_⟩
    show Fits m (if m.isModule id then _ else _) (exported m id s).1
    cases hfound : (exported m id s).1 with
    | none =>
      rw [if_neg (hnone.1 hfound)]
      exact .none
    | some scope =>
      have hmodule : m.isModule id := by
        by_contra hnot
        rw [hnone.2 hnot] at hfound
        cases hfound
      rw [if_pos hmodule]
      exact .some (hsome scope hfound)
  | ofModule id => exact ofModule_full hm hs id
  | ofComponent id => exact ofComponent_full hm r hs id

theorem ask_full (hm : m.Filed) (r : Registry) (qs : List Question) (hs : Full m s) :
    Full m (ask m r qs s) := by
  induction qs generalizing s with
  | nil => exact hs
  | cons q qs ih => exact ih (answer_members hm r q hs).1

/-- Two answers that fit one set have the same members. -/
theorem Fits.sameMembers {S : Option (DeclarationId → Prop)} {a b : Option Scope} (ha : Fits m S a)
    (hb : Fits m S b) : Option.Rel Scope.SameMembers a b := by
  cases ha with
  | none => cases hb with
    | none => exact .none
  | some ha => cases hb with
    | some hb => exact .some (ha.sameMembers hb)

/-- An answer that fits a set has every declaration once. -/
theorem Fits.unrepeated {S : Option (DeclarationId → Prop)} {a : Option Scope} (ha : Fits m S a) :
    ∀ scope, a = some scope → scope.Unrepeated := by
  intro scope hscope
  subst hscope
  cases ha with
  | some hs => exact hs.unrepeated

end Scoping

end ComponentAtlas
