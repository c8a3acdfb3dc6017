import ComponentAtlas.Proofs.Scope.Membership

/-!
# The order of what is in a scope

Where two modules export each other, the order of their exported scopes depends on which of them is
searched first, and remembered scopes keep that order for later questions. Without such a circle the
order does not depend on earlier questions.

* `Steady`: no two modules that can be reached from a module export each other in a circle;
* `Arranged`: an exported scope in the order of the exports, without reference to the search;
* `exportedAt_settles`: a search from a steady module finds its arranged scope, whatever is remembered
  and wherever the search comes from;
* `Orderly`: remembered scopes of steady modules are arranged;
* `answer_arranged`: one question, from any orderly state;
* `answer_after_ask`: the answer to a question after other questions.
-/

namespace ComponentAtlas.Scoping

open ComponentAtlas.Script
open Relation

variable {m : Metadata} {path : List DeclarationId} {id k : DeclarationId} {s : Scopes}

/-! ### Arranged scopes -/

/-- No two different modules that can be reached from a module export each other in a circle. A module
may export itself. -/
def Steady (m : Metadata) (id : DeclarationId) : Prop :=
  ∀ k j, ReflTransGen (Reexports m) id k → ReflTransGen (Reexports m) k j →
    ReflTransGen (Reexports m) j k → j = k

theorem Steady.of_reexports (h : Steady m id) (hk : Reexports m id k) : Steady m k :=
  fun i j hi => h i j (.head hk hi)

/-- One more export of the module `id`, where `offer` says what exported modules offer. A module gains
nothing by exporting itself. -/
def arrange (m : Metadata) (id : DeclarationId) (offer : DeclarationId → Scope) (scope : Scope)
    (e : Reference) : Scope :=
  if m.isModule e.id then if e.id = id then scope else scope.merge (offer e.id)
  else scope.addDeclarable m e.id

/-- The exported scope of a module, in the order of its exports and of theirs. -/
inductive Arranged (m : Metadata) : DeclarationId → Scope → Prop
  | intro {id : DeclarationId} {info : ModuleInfo} {offer : DeclarationId → Scope} :
      m.module? id = some info →
      (∀ e ∈ info.exports, m.isModule e.id → e.id ≠ id → Arranged m e.id (offer e.id)) →
      Arranged m id (info.exports.foldl (arrange m id offer) {})

theorem foldl_arrange_congr {offer offer' : DeclarationId → Scope} {es : List Reference}
    (h : ∀ e ∈ es, m.isModule e.id → e.id ≠ id → offer e.id = offer' e.id) (scope : Scope) :
    es.foldl (arrange m id offer) scope = es.foldl (arrange m id offer') scope := by
  induction es generalizing scope with
  | nil => rfl
  | cons e es ih =>
    have hhead : arrange m id offer scope e = arrange m id offer' scope e := by
      unfold arrange
      split
      · next hmodule =>
        split
        · rfl
        · next hne => rw [h e List.mem_cons_self hmodule hne]
      · rfl
    rw [List.foldl_cons, List.foldl_cons, hhead]
    exact ih (fun e' he' => h e' (List.mem_cons_of_mem e he')) _

theorem Arranged.unique {scope scope' : Scope} (h : Arranged m id scope)
    (h' : Arranged m id scope') : scope = scope' := by
  induction h generalizing scope' with
  | intro hid hoffer ih =>
    cases h' with
    | intro hid' hoffer' =>
      cases hid.symm.trans hid'
      exact foldl_arrange_congr (fun e he hmodule hne => ih e he hmodule hne
        (hoffer' e he hmodule hne)) {}

/-- The arranged scope of a module that has one. -/
noncomputable def offer (m : Metadata) (id : DeclarationId) : Scope := Classical.epsilon (Arranged m id)

theorem Arranged.eq_offer {scope : Scope} (h : Arranged m id scope) : scope = offer m id :=
  h.unique (Classical.epsilon_spec ⟨scope, h⟩)

/-! ### One search -/

/-- Scopes are remembered for modules only, and those of steady modules are arranged. -/
def Remembers (m : Metadata) (s : Scopes) : Prop :=
  ∀ id scope, Table.get? id s.exported = some scope →
    m.isModule id ∧ (Steady m id → Arranged m id scope)

/-- What a search below a path does: it keeps remembered scopes arranged and those on the path as they
are, and for a steady module it finds the arranged scope, cut off nowhere above the module. -/
def Settles (m : Metadata) (path : List DeclarationId) (id : DeclarationId)
    (search : Scoping (Option Found)) : Prop :=
  ∀ s, Remembers m s → Remembers m (search s).2 ∧
    (∀ k ∈ path, Table.get? k (search s).2.exported = Table.get? k s.exported) ∧
    (m.isModule id → Steady m id → id ∉ path → ∃ found, (search s).1 = some found ∧
      Arranged m id found.scope ∧ found.isWhole path.length)

theorem isWhole_outermost {n : ℕ} {scope scope' : Scope} {a b : Option ℕ}
    (ha : (Found.mk scope a).isWhole n) (hb : (Found.mk scope' b).isWhole n) (scope'' : Scope) :
    (Found.mk scope'' (outermost a b)).isWhole n := by
  cases a with
  | none => exact hb
  | some a =>
    cases b with
    | none => exact ha
    | some b =>
      have ha : n ≤ a := of_decide_eq_true ha
      have hb : n ≤ b := of_decide_eq_true hb
      exact decide_eq_true (Nat.le_min.2 ⟨ha, hb⟩)

theorem isWhole_mono {n n' : ℕ} {found : Found} (h : found.isWhole n') (hn : n ≤ n') :
    found.isWhole n := by
  unfold Found.isWhole at h ⊢
  cases hcut : found.cut with
  | none => rfl
  | some c =>
    rw [hcut] at h
    have hc : n' ≤ c := of_decide_eq_true h
    exact decide_eq_true (Nat.le_trans hn hc)

theorem merge_empty (scope : Scope) : scope.merge {} = scope := rfl

section Collect

variable {visit : DeclarationId → Scoping (Option Found)} {es : List Reference}

theorem collect_remembers (hvisit : ∀ e ∈ es, m.isModule e.id → Settles m path e.id (visit e.id))
    (hs : Remembers m s) (acc : Found) :
    Remembers m (collect m visit es acc s).2 ∧
      ∀ k ∈ path, Table.get? k (collect m visit es acc s).2.exported = Table.get? k s.exported := by
  induction es generalizing acc s with
  | nil => exact ⟨hs, fun k _ => rfl⟩
  | cons e es ih =>
    have htail := fun e' he' => hvisit e' (List.mem_cons_of_mem e he')
    rw [collect]
    split
    · next he =>
      obtain ⟨hfirst, hpath, -⟩ := hvisit e List.mem_cons_self he s hs
      rw [bind_apply]
      cases (visit e.id s).1 with
      | none =>
        obtain ⟨hrest, hpath'⟩ := ih htail hfirst acc
        exact ⟨hrest, fun k hk => (hpath' k hk).trans (hpath k hk)⟩
      | some found =>
        obtain ⟨hrest, hpath'⟩ :=
          ih htail hfirst ⟨acc.scope.merge found.scope, outermost acc.cut found.cut⟩
        exact ⟨hrest, fun k hk => (hpath' k hk).trans (hpath k hk)⟩
    · exact ih htail hs _

/-- The exports of a steady module are put together in their order. The module itself, should it be
among them, is found on the path and adds nothing. -/
theorem collect_arranged (hvisit : ∀ e ∈ es, m.isModule e.id →
      Settles m (path ++ [id]) e.id (visit e.id))
    (hself : ∀ s, Table.get? id s.exported = none →
      (visit id s).1 = some { scope := {}, cut := some path.length })
    (hsteady : ∀ e ∈ es, m.isModule e.id → e.id ≠ id → Steady m e.id ∧ e.id ∉ path)
    (hs : Remembers m s) (hid : Table.get? id s.exported = none) (acc : Found)
    (hacc : acc.isWhole path.length) :
    (collect m visit es acc s).1.scope = es.foldl (arrange m id (offer m)) acc.scope ∧
      (collect m visit es acc s).1.isWhole path.length ∧
      ∀ e ∈ es, m.isModule e.id → e.id ≠ id → Arranged m e.id (offer m e.id) := by
  induction es generalizing acc s with
  | nil => exact ⟨rfl, hacc, by simp⟩
  | cons e es ih =>
    have hvisit' := fun e' he' => hvisit e' (List.mem_cons_of_mem e he')
    have hsteady' := fun e' he' => hsteady e' (List.mem_cons_of_mem e he')
    rw [collect, List.foldl_cons]
    by_cases he : m.isModule e.id
    · obtain ⟨hfirst, hpath, hfound⟩ := hvisit e List.mem_cons_self he s hs
      have hid' : Table.get? id (visit e.id s).2.exported = none :=
        (hpath id (by simp)).trans hid
      rw [if_pos he, bind_apply]
      by_cases hne : e.id = id
      · -- a module that exports itself
        have hcircle : (visit e.id s).1 = some { scope := {}, cut := some path.length } := by
          rw [hne]
          exact hself s hid
        have hwhole : (Found.mk {} (some path.length)).isWhole path.length := by simp [Found.isWhole]
        obtain ⟨hscope, hcut, hrest⟩ :=
          ih hvisit' hsteady' hfirst hid' _ (isWhole_outermost hacc hwhole (acc.scope.merge {}))
        rw [hcircle]
        refine ⟨?_, hcut, ?_⟩
        · rw [hscope, merge_empty, arrange, if_pos he, if_pos hne]
        · intro e' he' hmodule hne'
          rcases List.mem_cons.1 he' with rfl | he'
          · exact absurd hne hne'
          · exact hrest e' he' hmodule hne'
      · obtain ⟨hsteady, hnot⟩ := hsteady e List.mem_cons_self he hne
        obtain ⟨found, hfound, harranged, hwhole⟩ := hfound he hsteady (by simp [hnot, hne])
        have hwhole : found.isWhole path.length := isWhole_mono hwhole (by simp)
        obtain ⟨hscope, hcut, hrest⟩ := ih hvisit' hsteady' hfirst hid'
          _ (isWhole_outermost hacc hwhole (acc.scope.merge found.scope))
        rw [hfound]
        refine ⟨?_, hcut, ?_⟩
        · rw [hscope, arrange, if_pos he, if_neg hne, harranged.eq_offer]
        · intro e' he' hmodule hne'
          rcases List.mem_cons.1 he' with rfl | he'
          · exact harranged.eq_offer ▸ harranged
          · exact hrest e' he' hmodule hne'
    · obtain ⟨hscope, hcut, hrest⟩ :=
        ih hvisit' hsteady' hs hid { acc with scope := acc.scope.addDeclarable m e.id } hacc
      rw [if_neg he]
      refine ⟨?_, hcut, ?_⟩
      · rw [hscope, arrange, if_neg he]
      · intro e' he' hmodule hne'
        rcases List.mem_cons.1 he' with rfl | he'
        · exact absurd hmodule he
        · exact hrest e' he' hmodule hne'

end Collect

theorem Remembers.put {scope : Scope} (hs : Remembers m s) (hid : m.isModule id)
    (h : Steady m id → Arranged m id scope) :
    Remembers m { s with exported := Table.put id scope s.exported } := by
  intro k scope' hk
  by_cases hki : k = id
  · subst hki
    cases (Table.get?_put_self k scope s.exported).symm.trans hk
    exact ⟨hid, h⟩
  · exact hs k scope' ((Table.get?_put_of_ne hki scope s.exported).symm.trans hk)

/-- The path of a search: modules without repetition, from each of which the module at hand can be
reached. -/
structure Trail (m : Metadata) (path : List DeclarationId) (id : DeclarationId) : Prop where
  nodup : path.Nodup
  modules : ∀ k ∈ path, m.isModule k
  reaches : ∀ k ∈ path, ReflTransGen (Reexports m) k id

theorem Trail.extend (h : Trail m path id) (hid : m.isModule id) (hnew : id ∉ path) {k : DeclarationId}
    (hk : Reexports m id k) : Trail m (path ++ [id]) k where
  nodup := by
    rw [List.nodup_append]
    exact ⟨h.nodup, List.nodup_singleton id, by rintro a ha b hb rfl; simp_all⟩
  modules := by
    intro j hj
    rcases List.mem_append.1 hj with hj | hj
    · exact h.modules j hj
    · rw [List.mem_singleton.1 hj]
      exact hid
  reaches := by
    intro j hj
    rcases List.mem_append.1 hj with hj | hj
    · exact (h.reaches j hj).tail hk
    · rw [List.mem_singleton.1 hj]
      exact .single hk

/-- On the path to a steady module there is no module that can be reached from it, except for itself. -/
theorem Steady.notMem_path (h : Steady m id) (htrail : Trail m path id) {k : DeclarationId}
    (hk : Reexports m id k) (hne : k ≠ id) : k ∉ path :=
  fun hmem => hne (h id k .refl (.single hk) (htrail.reaches k hmem))

/-- The search from a steady module that is not remembered finds its arranged scope, given that the
searches from its exports do. -/
theorem collect_steady {fuel : ℕ} {info : ModuleInfo} (htrail : Trail m path id)
    (hid : m.module? id = some info) (hplace : path.findIdx? (· == id) = none)
    (hvisit : ∀ e ∈ info.exports, m.isModule e.id →
      Settles m (path ++ [id]) e.id (exportedAt m (fuel + 1) (path ++ [id]) e.id))
    (hs : Remembers m s) (hcached : Table.get? id s.exported = none) (hsteady : Steady m id) :
    Arranged m id (collect m (exportedAt m (fuel + 1) (path ++ [id])) info.exports { scope := {} } s).1.scope ∧
      (collect m (exportedAt m (fuel + 1) (path ++ [id])) info.exports { scope := {} } s).1.isWhole
        path.length := by
  have hlists : ∀ e ∈ info.exports, m.isModule e.id → Reexports m id e.id :=
    fun e he hmod => ⟨⟨info, hid, e, he, rfl⟩, hmod⟩
  have hself : ∀ s, Table.get? id s.exported = none →
      (exportedAt m (fuel + 1) (path ++ [id]) id s).1 =
        some { scope := {}, cut := some path.length } := by
    intro s hs
    have hplace' : (path ++ [id]).findIdx? (· == id) = some path.length := by
      rw [List.findIdx?_append, hplace]
      simp
    rw [exportedAt_of_circle hs hid hplace']
  obtain ⟨hscope, hwhole, hoffers⟩ := collect_arranged hvisit hself
    (fun e he hmod hne => ⟨hsteady.of_reexports (hlists e he hmod),
      hsteady.notMem_path htrail (hlists e he hmod) hne⟩) hs hcached { scope := {} } rfl
  rw [hscope]
  exact ⟨.intro hid hoffers, hwhole⟩

theorem exportedAt_settles (fuel : ℕ) (path : List DeclarationId) (id : DeclarationId)
    (htrail : Trail m path id) (hfuel : m.modules.length < path.length + fuel) :
    Settles m path id (exportedAt m fuel path id) := by
  induction fuel generalizing path id with
  | zero =>
    have := length_le_modules htrail.nodup htrail.modules
    omega
  | succ fuel ih =>
    intro s hs
    cases hcached : Table.get? id s.exported with
    | some scope =>
      rw [exportedAt_of_remembered hcached]
      exact ⟨hs, fun k _ => rfl, fun _ hsteady _ => ⟨_, rfl, (hs id scope hcached).2 hsteady, rfl⟩⟩
    | none =>
      cases hid : m.module? id with
      | none =>
        rw [exportedAt_of_unknown hcached hid]
        refine ⟨hs, fun k _ => rfl, fun hmodule => ?_⟩
        simp [Metadata.isModule, hid] at hmodule
      | some info =>
        have hmodule : m.isModule id := by simp [Metadata.isModule, hid]
        cases hplace : path.findIdx? (· == id) with
        | some place =>
          rw [exportedAt_of_circle hcached hid hplace]
          refine ⟨hs, fun k _ => rfl, fun _ _ hnot => absurd ?_ hnot⟩
          obtain ⟨hlt, heq, -⟩ := List.findIdx?_eq_some_iff_getElem.1 hplace
          exact List.mem_of_getElem (beq_iff_eq.1 heq)
        | none =>
          have hnew : id ∉ path := fun h => by simpa using List.findIdx?_eq_none_iff.1 hplace id h
          have hvisit : ∀ e ∈ info.exports, m.isModule e.id →
              Settles m (path ++ [id]) e.id (exportedAt m fuel (path ++ [id]) e.id) := by
            intro e he hmod
            refine ih (path ++ [id]) e.id
              (htrail.extend hmodule hnew ⟨⟨info, hid, e, he, rfl⟩, hmod⟩) ?_
            rw [List.length_append, List.length_singleton]
            omega
          -- the path does not hold all modules, so there is fuel for the exports
          obtain ⟨fuel, rfl⟩ : ∃ fuel', fuel = fuel' + 1 := by
            have hlength : (id :: path).length ≤ m.modules.length :=
              length_le_modules (List.nodup_cons.2 ⟨hnew, htrail.nodup⟩)
                (List.forall_mem_cons.2 ⟨hmodule, htrail.modules⟩)
            rw [List.length_cons] at hlength
            exact ⟨fuel - 1, by omega⟩
          have harranged := collect_steady htrail hid hplace hvisit hs hcached
          obtain ⟨hrest, hpath⟩ := collect_remembers hvisit hs { scope := {} }
          rcases hfound : collect m (exportedAt m (fuel + 1) (path ++ [id])) info.exports
            { scope := {} } s with ⟨found, t⟩
          rw [hfound] at hrest hpath harranged
          rw [exportedAt_of_new hcached hid hplace hfound]
          refine ⟨?_, ?_, fun _ hsteady _ => ⟨found, rfl, harranged hsteady⟩⟩
          · dsimp only
            split
            · exact hrest.put hmodule fun hsteady => (harranged hsteady).1
            · exact hrest
          · intro k hk
            have hkid : k ≠ id := fun h => hnew (h ▸ hk)
            have hpath := hpath k (List.mem_append_left _ hk)
            dsimp only
            split
            · exact (Table.get?_put_of_ne hkid _ _).trans hpath
            · exact hpath

/-! ### Questions -/

/-- What a scope becomes with one more import. -/
noncomputable def arrangeImport (m : Metadata) (scope : Scope) (i : Reference) : Scope :=
  if m.isModule i.id then scope.merge (offer m i.id) else scope.addStandalone m i.id

/-- The arranged scope of the templates of a module. -/
noncomputable def arrangedModule (m : Metadata) (info : ModuleInfo) : Scope :=
  info.imports.foldl (arrangeImport m)
    ((info.declarations.map (·.id)).foldl (Scope.addDeclarable m) {})

/-- The arranged scope of the template of a standalone component. -/
noncomputable def arrangedComponent (m : Metadata) (info : DirectiveInfo) : Scope :=
  info.imports.foldl (arrangeImport m) (Scope.addDirective {} info)

/-- All imported modules are steady. -/
def SteadyImports (m : Metadata) (imports : List Reference) : Prop :=
  ∀ i ∈ imports, m.isModule i.id → Steady m i.id

/-- All remembered scopes that are made of steady modules only are arranged. -/
structure Orderly (m : Metadata) (s : Scopes) : Prop where
  exported : Remembers m s
  compilation : ∀ {id scope}, Table.get? id s.compilation = some scope →
    ∃ info, m.module? id = some info ∧ (SteadyImports m info.imports → scope = arrangedModule m info)
  standalone : ∀ {id scope}, Table.get? id s.standalone = some scope →
    ∃ info, m.directive? id = some info ∧ (info.isComponent && info.isStandalone) ∧
      (SteadyImports m info.imports → scope = arrangedComponent m info)

theorem orderly_new (m : Metadata) : Orderly m {} := ⟨nofun, nofun, nofun⟩

theorem exported_orderly (hs : Orderly m s) (id : DeclarationId) :
    Orderly m (exported m id s).2 ∧ ((exported m id s).1 = none ↔ ¬ m.isModule id) ∧
      (m.isModule id → Steady m id → (exported m id s).1 = some (offer m id)) := by
  have hfuel : m.modules.length < ([] : List DeclarationId).length + (m.modules.length + 2) := by simp
  obtain ⟨hrest, -, hfound⟩ := exportedAt_settles (m.modules.length + 2) [] id
    ⟨List.nodup_nil, by simp, by simp⟩ hfuel s hs.exported
  obtain ⟨hcompilation, hstandalone⟩ := exportedAt_keepsOthers m (m.modules.length + 2) [] id s
  have hanswer : exported m id s = ((exportedAt m (m.modules.length + 2) [] id s).1.map (·.scope),
      (exportedAt m (m.modules.length + 2) [] id s).2) := rfl
  rw [hanswer]
  refine ⟨⟨hrest, ?_, ?_⟩, ?_, ?_⟩
  · intro k scope hk
    exact hs.compilation (hcompilation ▸ hk)
  · intro k scope hk
    exact hs.standalone (hstandalone ▸ hk)
  · rw [Option.map_eq_none_iff, Metadata.isModule, Option.not_isSome_iff_eq_none]
    cases hcached : Table.get? id s.exported with
    | some scope =>
      rw [exportedAt_of_remembered hcached]
      have hmodule := (hs.exported id scope hcached).1
      exact iff_of_false (Option.some_ne_none _) (Option.isSome_iff_ne_none.1 hmodule)
    | none =>
      cases hid : m.module? id with
      | none =>
        rw [exportedAt_of_unknown hcached hid]
        simp
      | some info =>
        rw [exportedAt_of_new hcached hid rfl rfl]
        simp
  · intro hmodule hsteady
    obtain ⟨found, hsome, harranged, -⟩ := hfound hmodule hsteady List.not_mem_nil
    rw [hsome, Option.map_some, harranged.eq_offer]

theorem addImports_orderly (hs : Orderly m s) (is : List Reference) (scope : Scope) :
    Orderly m (addImports m is scope s).2 ∧
      (SteadyImports m is → (addImports m is scope s).1 = is.foldl (arrangeImport m) scope) := by
  induction is generalizing scope s with
  | nil => exact ⟨hs, fun _ => rfl⟩
  | cons i is ih =>
    obtain ⟨hfirst, hnone, hsome⟩ := exported_orderly hs i.id
    rw [addImports, bind_apply, List.foldl_cons, arrangeImport]
    cases hfound : (exported m i.id s).1 with
    | none =>
      obtain ⟨hrest, hscope⟩ := ih hfirst (scope.addStandalone m i.id)
      rw [if_neg (hnone.1 hfound)]
      exact ⟨hrest, fun hsteady => hscope fun i' hi' => hsteady i' (List.mem_cons_of_mem i hi')⟩
    | some found =>
      have hmodule : m.isModule i.id := by
        by_contra hnot
        rw [hnone.2 hnot] at hfound
        cases hfound
      obtain ⟨hrest, hscope⟩ := ih hfirst (scope.merge found)
      rw [if_pos hmodule]
      refine ⟨hrest, fun hsteady => ?_⟩
      have hoffer := hsome hmodule (hsteady i List.mem_cons_self hmodule)
      rw [hfound] at hoffer
      rw [← Option.some.inj hoffer]
      exact hscope fun i' hi' => hsteady i' (List.mem_cons_of_mem i hi')

theorem ofModule_orderly (hs : Orderly m s) (id : DeclarationId) :
    Orderly m (ofModule m id s).2 ∧
      ((∀ info, m.module? id = some info → SteadyImports m info.imports) →
        (ofModule m id s).1 = (m.module? id).map (arrangedModule m)) := by
  rw [ofModule, get_bind_apply]
  cases hcached : Table.get? id s.compilation with
  | some scope =>
    obtain ⟨info, hid, hscope⟩ := hs.compilation hcached
    exact ⟨hs, fun hsteady => by rw [hid, Option.map_some, ← hscope (hsteady info hid)]; rfl⟩
  | none =>
    cases hid : m.module? id with
    | none => exact ⟨hs, fun _ => rfl⟩
    | some info =>
      obtain ⟨hrest, hscope⟩ := addImports_orderly hs info.imports
        ((info.declarations.map (·.id)).foldl (Scope.addDeclarable m) {})
      refine ⟨⟨hrest.exported, ?_, hrest.standalone⟩, fun hsteady => ?_⟩
      · intro k scope hk
        by_cases hki : k = id
        · subst hki
          cases (Table.get?_put_self k _ _).symm.trans hk
          exact ⟨info, hid, hscope⟩
        · exact hrest.compilation ((Table.get?_put_of_ne hki _ _).symm.trans hk)
      · exact congrArg some (hscope (hsteady info rfl))

theorem ofStandalone_orderly (hs : Orderly m s) (id : DeclarationId) :
    Orderly m (ofStandalone m id s).2 ∧
      (ofStandalone m id s).1.isSome = isStandaloneComponent m id ∧
      (isStandaloneComponent m id →
        (∀ info, m.directive? id = some info → SteadyImports m info.imports) →
        (ofStandalone m id s).1 = (m.directive? id).map (arrangedComponent m)) := by
  rw [ofStandalone, get_bind_apply]
  cases hcached : Table.get? id s.standalone with
  | some scope =>
    obtain ⟨info, hid, halone, hscope⟩ := hs.standalone hcached
    refine ⟨hs, ?_, fun _ hsteady => ?_⟩
    · rw [isStandaloneComponent, hid, Option.any_some, halone]
      rfl
    · rw [hid, Option.map_some, ← hscope (hsteady info hid)]
      rfl
  | none =>
    cases hid : m.directive? id with
    | none =>
      refine ⟨hs, ?_, fun _ _ => rfl⟩
      rw [isStandaloneComponent, hid]
      rfl
    | some info =>
      rw [isStandaloneComponent, hid, Option.any_some]
      by_cases halone : info.isComponent && info.isStandalone
      · obtain ⟨hrest, hscope⟩ :=
          addImports_orderly hs info.imports (Scope.addDirective {} info)
        simp only [halone, if_true]
        refine ⟨⟨hrest.exported, hrest.compilation, ?_⟩, rfl, fun _ hsteady => ?_⟩
        · intro k scope hk
          by_cases hki : k = id
          · subst hki
            cases (Table.get?_put_self k _ _).symm.trans hk
            exact ⟨info, hid, halone, hscope⟩
          · exact hrest.standalone ((Table.get?_put_of_ne hki _ _).symm.trans hk)
        · exact congrArg some (hscope (hsteady info rfl))
      · simp only [halone]
        exact ⟨hs, rfl, by simp⟩

/-- A question whose answer is made of steady modules only. -/
def Question.Steady (m : Metadata) (r : Registry) : Question → Prop
  | .exported id => Scoping.Steady m id
  | .ofModule id => ∀ info, m.module? id = some info → SteadyImports m info.imports
  | .ofComponent id =>
    (isStandaloneComponent m id →
      ∀ info, m.directive? id = some info → SteadyImports m info.imports) ∧
    (isStandaloneComponent m id = false → ∀ owner info, r.owner? id = some owner →
      m.module? owner = some info → SteadyImports m info.imports)

/-- The answer to a question in the order of the lists of modules and components. -/
noncomputable def Question.arranged? (m : Metadata) (r : Registry) : Question → Option Scope
  | .exported id => if m.isModule id then some (offer m id) else none
  | .ofModule id => (m.module? id).map (arrangedModule m)
  | .ofComponent id =>
    if isStandaloneComponent m id then (m.directive? id).map (arrangedComponent m)
    else (r.owner? id).bind fun owner => (m.module? owner).map (arrangedModule m)

theorem answer_arranged (r : Registry) (q : Question) (hs : Orderly m s) :
    Orderly m (q.answer m r s).2 ∧ (q.Steady m r → (q.answer m r s).1 = q.arranged? m r) := by
  cases q with
  | exported id =>
    obtain ⟨hrest, hnone, hsome⟩ := exported_orderly hs id
    refine ⟨hrest, fun hsteady => ?_⟩
    rw [Question.arranged?]
    split
    · next hmodule => exact hsome hmodule hsteady
    · next hmodule => exact hnone.2 hmodule
  | ofModule id => exact ofModule_orderly hs id
  | ofComponent id =>
    obtain ⟨hrest, hisSome, hscope⟩ := ofStandalone_orderly hs id
    rw [Question.answer, ofComponent, bind_apply, Question.arranged?]
    cases hfound : (ofStandalone m id s).1 with
    | some scope =>
      rw [hfound] at hisSome hscope
      have halone : isStandaloneComponent m id = true := hisSome.symm
      rw [if_pos halone]
      exact ⟨hrest, fun hsteady => hscope halone (hsteady.1 halone)⟩
    | none =>
      rw [hfound] at hisSome
      have hnot : isStandaloneComponent m id = false := hisSome.symm
      rw [hnot, if_neg Bool.false_ne_true]
      cases howner : r.owner? id with
      | none => exact ⟨hrest, fun _ => rfl⟩
      | some owner =>
        obtain ⟨hrest', hscope'⟩ := ofModule_orderly hrest owner
        exact ⟨hrest', fun hsteady => hscope' fun info => hsteady.2 hnot owner info howner⟩

theorem ask_orderly (r : Registry) (qs : List Question) (hs : Orderly m s) :
    Orderly m (ask m r qs s) := by
  induction qs generalizing s with
  | nil => exact hs
  | cons q qs ih => exact ih (answer_arranged r q hs).1

/-- **Scopes after other questions.** Whatever was asked before, a question about a scope is answered
as if nothing had been asked, with the same directives and pipes in the same order, if no two different
modules of which the scope is made export each other in a circle. With or without such circles the answer has
the same directives and the same pipes, and it has each of them once, where facts are filed under the
declarations that they are about. -/
theorem answer_after_ask (m : Metadata) (r : Registry) (earlier : List Question) (q : Question) :
    (q.Steady m r → (q.answer m r (ask m r earlier {})).1 = (q.answer m r {}).1) ∧
    (m.Filed → Option.Rel Scope.SameMembers (q.answer m r (ask m r earlier {})).1
        (q.answer m r {}).1 ∧
      ∀ scope, (q.answer m r (ask m r earlier {})).1 = some scope → scope.Unrepeated) := by
  refine ⟨fun hsteady => ?_, fun hm => ?_⟩
  · have hafter := (answer_arranged r q (ask_orderly r earlier (orderly_new m))).2 hsteady
    have hnew := (answer_arranged r q (orderly_new m)).2 hsteady
    rw [hafter, hnew]
  · have hafter := (answer_members hm r q (ask_full hm r earlier (full_new m))).2
    have hnew := (answer_members hm r q (full_new m)).2
    exact ⟨hafter.sameMembers hnew, hafter.unrepeated⟩

/-- Modules whose exports lead to modules with larger numbers only are steady. -/
theorem steady_of_le (h : ∀ n k, Reexports m n k → n ≤ k) (id : DeclarationId) : Steady m id := by
  have hle : ∀ {n k}, ReflTransGen (Reexports m) n k → n ≤ k := by
    intro n k hnk
    induction hnk with
    | refl => exact Nat.le_refl n
    | tail _ hstep ih => exact Nat.le_trans ih (h _ _ hstep)
  exact fun k j _ hkj hjk => Nat.le_antisymm (hle hjk) (hle hkj)

/-- Two modules that export a third one, which exports itself and a directive. -/
def sharedModules : Registry where
  modules := [
    (1, { reference := ⟨1, "A", "/a.ts"⟩, imports := [⟨2, "B", "/a.ts"⟩], exports := [⟨3, "C", "/a.ts"⟩] }),
    (2, { reference := ⟨2, "B", "/a.ts"⟩, exports := [⟨3, "C", "/a.ts"⟩, ⟨5, "E", "/a.ts"⟩] }),
    (3, { reference := ⟨3, "C", "/a.ts"⟩, exports := [⟨3, "C", "/a.ts"⟩, ⟨4, "D", "/a.ts"⟩] })]
  directives := [(4, { reference := ⟨4, "D", "/a.ts"⟩ }), (5, { reference := ⟨5, "E", "/a.ts"⟩ })]

theorem sharedModules_steady (id : DeclarationId) : Steady sharedModules.metadata id := by
  refine steady_of_le ?_ id
  rintro n k ⟨⟨info, hinfo, r, hr, rfl⟩, -⟩
  simp only [Registry.metadata, sharedModules, Table.get?] at hinfo
  grind

theorem sharedModules_filed : sharedModules.metadata.Filed := by
  constructor <;> intro id <;> simp only [Registry.metadata, sharedModules, Table.get?] <;> grind

theorem answer_after_ask_shared : sharedModules.metadata.Filed ∧
    (Question.ofModule 1).Steady sharedModules.metadata sharedModules ∧
    ((Question.ofModule 1).answer sharedModules.metadata sharedModules
      (ask sharedModules.metadata sharedModules [.exported 3, .exported 1] {})).1 =
      ((Question.ofModule 1).answer sharedModules.metadata sharedModules {}).1 ∧
    Option.Rel Scope.SameMembers ((Question.ofModule 1).answer sharedModules.metadata sharedModules
      (ask sharedModules.metadata sharedModules [.exported 3, .exported 1] {})).1
      ((Question.ofModule 1).answer sharedModules.metadata sharedModules {}).1 ∧
    ∃ scope, ((Question.ofModule 1).answer sharedModules.metadata sharedModules
      (ask sharedModules.metadata sharedModules [.exported 3, .exported 1] {})).1 = some scope ∧
      scope.directives.map (·.reference.id) = [4, 5] ∧ scope.Unrepeated := by
  have hsteady : (Question.ofModule 1).Steady sharedModules.metadata sharedModules :=
    fun _ _ _ _ _ => sharedModules_steady _
  obtain ⟨hsame, hmembers⟩ := answer_after_ask sharedModules.metadata sharedModules
    [.exported 3, .exported 1] (.ofModule 1)
  obtain ⟨hrel, honce⟩ := hmembers sharedModules_filed
  have hshape : ((Question.ofModule 1).answer sharedModules.metadata sharedModules
      (ask sharedModules.metadata sharedModules [.exported 3, .exported 1] {})).1.map
        (fun scope => scope.directives.map (·.reference.id)) = some [4, 5] := by
    decide
  obtain ⟨scope, hscope, hids⟩ := Option.map_eq_some_iff.1 hshape
  exact ⟨sharedModules_filed, hsteady, hsame hsteady, hrel, scope, hscope, hids, honce scope hscope⟩

/-- Two modules that export each other, and a directive each. -/
def crossingModules : Registry where
  modules := [
    (1, { reference := ⟨1, "A", "/a.ts"⟩, exports := [⟨2, "B", "/a.ts"⟩, ⟨3, "C", "/a.ts"⟩] }),
    (2, { reference := ⟨2, "B", "/a.ts"⟩, exports := [⟨1, "A", "/a.ts"⟩, ⟨4, "D", "/a.ts"⟩] })]
  directives := [(3, { reference := ⟨3, "C", "/a.ts"⟩ }), (4, { reference := ⟨4, "D", "/a.ts"⟩ })]

/-- The order of the scope of the second module depends on whether the first one was asked for. -/
theorem crossingModules_order :
    ((Question.exported 2).answer crossingModules.metadata crossingModules {}).1 =
      some ⟨[⟨⟨3, "C", "/a.ts"⟩, none, false⟩, ⟨⟨4, "D", "/a.ts"⟩, none, false⟩], []⟩ ∧
    ((Question.exported 2).answer crossingModules.metadata crossingModules
      (ask crossingModules.metadata crossingModules [.exported 1] {})).1 =
      some ⟨[⟨⟨4, "D", "/a.ts"⟩, none, false⟩, ⟨⟨3, "C", "/a.ts"⟩, none, false⟩], []⟩ ∧
    ¬ ∀ (m : Metadata) (r : Registry) (earlier : List Question) (q : Question),
      (q.answer m r (ask m r earlier {})).1 = (q.answer m r {}).1 := by
  refine ⟨by decide, by decide, fun h => ?_⟩
  have hsame := h crossingModules.metadata crossingModules [.exported 1] (.exported 2)
  exact absurd hsame (by decide)

end ComponentAtlas.Scoping
