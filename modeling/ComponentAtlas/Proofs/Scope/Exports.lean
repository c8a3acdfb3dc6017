import ComponentAtlas.Proofs.Scope.Listing
import ComponentAtlas.Scope.Lookup
import Mathlib.Data.List.Perm.Subperm
import Mathlib.Logic.Relation

/-!
# Exported scopes and circles of modules

A module exports declarations and other modules. The search for its exported scope is cut off where it
comes back to a module on the current path, and what was cut off may be missing from the scopes that
were found on the way. Here it is shown that nothing is missing from a scope that is remembered or
given as an answer.

* `Lists`, `Reexports`, `Offers`: what a module offers, without reference to the search;
* `Covers`: what a search has gone through: a set of modules which contains all that its members
  export, except for modules on the path at or below the cut; `Gathers`: the same for some exports;
* `exportedAt_explores`: one search, from any state in which all remembered scopes are whole;
* `ScopeQuery`, `runQueries`: questions about scopes, one after the other;
* `exported_offers`: the answer to a question about an exported scope.
-/

namespace ComponentAtlas.Scoping

open ComponentAtlas.Script

/-! ### What a module offers -/

/-- A module has a declaration among its exports. -/
def Lists (m : Metadata) (n d : DeclarationId) : Prop :=
  ∃ info, m.module? n = some info ∧ ∃ r ∈ info.exports, r.id = d

/-- A module has another module, or itself, among its exports. -/
def Reexports (m : Metadata) (n k : DeclarationId) : Prop := Lists m n k ∧ m.isModule k

/-- A declaration is among the exports of a module that is reachable over exported modules. -/
def Offers (m : Metadata) (n d : DeclarationId) : Prop :=
  ∃ k, Relation.ReflTransGen (Reexports m) n k ∧ Lists m k d

variable {m : Metadata} {path : List DeclarationId} {id k : DeclarationId} {s : Scopes}

theorem lists_iff {info : ModuleInfo} (h : m.module? id = some info) (d : DeclarationId) :
    Lists m id d ↔ ∃ r ∈ info.exports, r.id = d := by
  rw [Lists, h]
  simp

/-- All remembered scopes of modules are whole. -/
def Whole (m : Metadata) (s : Scopes) : Prop :=
  ∀ id scope, Table.get? id s.exported = some scope →
    (m.module? id).isSome ∧ scope.Holds m (Offers m id)

theorem whole_new (m : Metadata) : Whole m {} := by
  rintro id scope ⟨⟩

/-! ### What a search goes through -/

/-- A module stands on the path, at the place of the cut or below it. -/
def CutAt (path : List DeclarationId) (cut : Option ℕ) (k : DeclarationId) : Prop :=
  ∃ i c, path[i]? = some k ∧ cut = some c ∧ c ≤ i

theorem CutAt.outermost_left {a : Option ℕ} (h : CutAt path a k) (b : Option ℕ) :
    CutAt path (outermost a b) k := by
  obtain ⟨i, c, hi, rfl, hc⟩ := h
  cases b with
  | none => exact ⟨i, c, hi, rfl, hc⟩
  | some b => exact ⟨i, min c b, hi, rfl, Nat.le_trans (Nat.min_le_left c b) hc⟩

theorem CutAt.outermost_right {b : Option ℕ} (h : CutAt path b k) (a : Option ℕ) :
    CutAt path (outermost a b) k := by
  obtain ⟨i, c, hi, rfl, hc⟩ := h
  cases a with
  | none => exact ⟨i, c, hi, rfl, hc⟩
  | some a => exact ⟨i, min a c, hi, rfl, Nat.le_trans (Nat.min_le_right a c) hc⟩

/-- One step further down the path there is one more module to be cut off at. -/
theorem CutAt.of_concat {cut : Option ℕ} (h : CutAt (path ++ [id]) cut k) :
    CutAt path cut k ∨ k = id := by
  obtain ⟨i, c, hi, hcut, hc⟩ := h
  rcases Nat.lt_or_ge i path.length with hlt | hge
  · rw [List.getElem?_append_left hlt] at hi
    exact .inl ⟨i, c, hi, hcut, hc⟩
  · rw [List.getElem?_append_right hge, List.getElem?_singleton] at hi
    split at hi
    · exact .inr (Option.some.inj hi).symm
    · cases hi

theorem not_cutAt_of_isWhole {found : Found} (h : found.isWhole path.length) :
    ¬ CutAt path found.cut k := by
  rintro ⟨i, c, hi, hcut, hc⟩
  have hle : path.length ≤ c := by simpa [Found.isWhole, hcut] using h
  have hlt := (List.getElem?_eq_some_iff.1 hi).1
  omega

/-- The search from a module has gone through the modules `V`: what was found is what they list, and
what they export was gone through as well or cut off. -/
structure Covers (m : Metadata) (path : List DeclarationId) (id : DeclarationId) (found : Found)
    (V : DeclarationId → Prop) : Prop where
  holds : found.scope.Holds m fun d => ∃ n, V n ∧ Lists m n d
  closed : ∀ {n k}, V n → Reexports m n k → V k ∨ CutAt path found.cut k
  root : V id ∨ CutAt path found.cut id
  origin : ∀ {n}, V n → Relation.ReflTransGen (Reexports m) id n

/-- The same after some exports of a module: the declarations among them were added, and from the
modules among them the modules `V` were gone through. -/
structure Gathers (m : Metadata) (path : List DeclarationId) (exports : DeclarationId → Prop)
    (found : Found) (V : DeclarationId → Prop) : Prop where
  holds : found.scope.Holds m fun d => exports d ∨ ∃ n, V n ∧ Lists m n d
  closed : ∀ {n k}, V n → Reexports m n k → V k ∨ CutAt path found.cut k
  roots : ∀ {k}, exports k → m.isModule k → V k ∨ CutAt path found.cut k
  origin : ∀ {n}, V n → ∃ k, exports k ∧ m.isModule k ∧ Relation.ReflTransGen (Reexports m) k n

/-- A search that was nowhere cut off has gone through all that can be reached. -/
theorem Covers.offers {found : Found} {V : DeclarationId → Prop} (h : Covers m path id found V)
    (hcut : ∀ k, ¬ CutAt path found.cut k) : found.scope.Holds m (Offers m id) := by
  have hV : ∀ n, Relation.ReflTransGen (Reexports m) id n → V n := by
    intro n hn
    induction hn with
    | refl => exact h.root.resolve_right (hcut id)
    | tail _ hstep ih => exact (h.closed ih hstep).resolve_right (hcut _)
  refine h.holds.congr fun d => ?_
  exact ⟨fun ⟨n, hn, hd⟩ => ⟨n, h.origin hn, hd⟩, fun ⟨n, hn, hd⟩ => ⟨n, hV n hn, hd⟩⟩

theorem covers_remembered {scope : Scope} (h : scope.Holds m (Offers m id)) :
    Covers m path id { scope } (Relation.ReflTransGen (Reexports m) id) where
  holds := h
  closed hn hstep := .inl (hn.tail hstep)
  root := .inl .refl
  origin hn := hn

theorem covers_circle {place : ℕ} (h : path[place]? = some id) :
    Covers m path id { scope := {}, cut := some place } fun _ => False where
  holds := (Scope.holds_empty m).congr fun d => by simp
  closed := nofun
  root := .inr ⟨place, place, h, rfl, Nat.le_refl place⟩
  origin := nofun

section Gathers

variable {found : Found} {exports V U : DeclarationId → Prop}

theorem gathers_empty (m : Metadata) (path : List DeclarationId) :
    Gathers m path (fun _ => False) { scope := {} } fun _ => False where
  holds := (Scope.holds_empty m).congr fun d => by simp
  closed := nofun
  roots := nofun
  origin := nofun

/-- One more export, which is a module and was searched. -/
theorem Gathers.visit (hm : m.Tidy) {acc : Found} (h : Gathers m path exports acc V)
    (hk : m.isModule k) (hv : Covers m path k found U) :
    Gathers m path (fun d => exports d ∨ d = k)
      ⟨acc.scope.merge found.scope, outermost acc.cut found.cut⟩ fun n => V n ∨ U n where
  holds := by
    -- a module is neither a directive nor a pipe, so that it makes no difference itself
    have hnot : ¬ m.module? k = none := Option.isSome_iff_ne_none.1 hk
    have hd := (hm.module_or_directive k).resolve_left hnot
    have hp := (hm.module_or_pipe k).resolve_left hnot
    refine ((h.holds.merge hm hv.holds).insert_none hd hp).congr fun d => ?_
    simp only [or_and_right, exists_or]
    grind
  closed := by
    rintro n k' (hn | hn) hstep
    · exact (h.closed hn hstep).imp .inl (·.outermost_left _)
    · exact (hv.closed hn hstep).imp .inr (·.outermost_right _)
  roots := by
    rintro k' (hk' | rfl) hmod
    · exact (h.roots hk' hmod).imp .inl (·.outermost_left _)
    · exact hv.root.imp .inr (·.outermost_right _)
  origin := by
    rintro n (hn | hn)
    · obtain ⟨k', hk', hmod, hreach⟩ := h.origin hn
      exact ⟨k', .inl hk', hmod, hreach⟩
    · exact ⟨k, .inr rfl, hk, hv.origin hn⟩

/-- One more export, which is not a module. -/
theorem Gathers.declare (hm : m.Tidy) {acc : Found} (h : Gathers m path exports acc V)
    (hk : ¬ m.isModule k) :
    Gathers m path (fun d => exports d ∨ d = k)
      { acc with scope := acc.scope.addDeclarable m k } V where
  holds := (h.holds.addDeclarable hm k).congr fun d => or_right_comm
  closed := h.closed
  roots := by
    rintro k' (hk' | rfl) hmod
    · exact h.roots hk' hmod
    · exact absurd hmod hk
  origin := by
    intro n hn
    obtain ⟨k', hk', hmod, hreach⟩ := h.origin hn
    exact ⟨k', .inl hk', hmod, hreach⟩

/-- All exports of a module together. A cut at the module itself does no harm. -/
theorem Gathers.covers (h : Gathers m (path ++ [id]) (Lists m id) found V) :
    Covers m path id found fun n => V n ∨ n = id where
  holds := h.holds.congr fun d => by
    simp only [or_and_right, exists_or, exists_eq_left]
    exact or_comm
  closed := by
    have hclose : ∀ {k}, V k ∨ CutAt (path ++ [id]) found.cut k →
        (V k ∨ k = id) ∨ CutAt path found.cut k := by
      rintro k (hk | hk)
      · exact .inl (.inl hk)
      · exact hk.of_concat.symm.imp_left .inr
    rintro n k (hn | rfl) hstep
    · exact hclose (h.closed hn hstep)
    · exact hclose (h.roots hstep.1 hstep.2)
  root := .inl (.inr rfl)
  origin := by
    rintro n (hn | rfl)
    · obtain ⟨k, hk, hmod, hreach⟩ := h.origin hn
      exact .head ⟨hk, hmod⟩ hreach
    · exact .refl

end Gathers

/-! ### One search -/

theorem bind_apply {α β : Type} (x : Scoping α) (f : α → Scoping β) (s : Scopes) :
    (x >>= f) s = f (x s).1 (x s).2 := rfl

theorem get_bind_apply {β : Type} (f : Scopes → Scoping β) (s : Scopes) : (get >>= f) s = f s s := rfl

/-- What the search for the exported scope of a module does below a path, if all remembered scopes
are whole. -/
def Explores (m : Metadata) (path : List DeclarationId) (id : DeclarationId)
    (search : Scoping (Option Found)) : Prop :=
  ∀ s, Whole m s → Whole m (search s).2 ∧ ((search s).1 = none ↔ m.module? id = none) ∧
    ∀ found, (search s).1 = some found → ∃ V, Covers m path id found V

theorem collect_gathers (hm : m.Tidy) {visit : DeclarationId → Scoping (Option Found)}
    (hvisit : ∀ k, Explores m path k (visit k)) (es : List Reference) {acc : Found}
    {exports V : DeclarationId → Prop} (hs : Whole m s) (hacc : Gathers m path exports acc V) :
    Whole m (collect m visit es acc s).2 ∧ ∃ W,
      Gathers m path (fun d => exports d ∨ ∃ e ∈ es, e.id = d) (collect m visit es acc s).1 W := by
  induction es generalizing acc exports V s with
  | nil =>
    refine ⟨hs, V, ?_⟩
    show Gathers m path _ acc V
    simpa using hacc
  | cons e es ih =>
    have hsplit : (fun d => exports d ∨ ∃ e' ∈ e :: es, e'.id = d) =
        fun d => (exports d ∨ d = e.id) ∨ ∃ e' ∈ es, e'.id = d := by
      funext d
      rw [List.exists_mem_cons_iff, or_assoc, eq_comm (a := d)]
    rw [hsplit]
    by_cases he : m.isModule e.id
    · obtain ⟨hs', hnone, hsome⟩ := hvisit e.id s hs
      obtain ⟨found, hfound⟩ :=
        Option.ne_none_iff_exists'.1 (mt hnone.1 (Option.isSome_iff_ne_none.1 he))
      obtain ⟨U, hU⟩ := hsome found hfound
      have hstep : collect m visit (e :: es) acc s =
          collect m visit es ⟨acc.scope.merge found.scope, outermost acc.cut found.cut⟩
            (visit e.id s).2 := by
        rw [collect, if_pos he, bind_apply, hfound]
      rw [hstep]
      exact ih hs' (hacc.visit hm he hU)
    · have hstep : collect m visit (e :: es) acc s =
          collect m visit es { acc with scope := acc.scope.addDeclarable m e.id } s := by
        rw [collect, if_neg he]
      rw [hstep]
      exact ih hs (hacc.declare hm he)

section ExportedAt

variable {fuel : ℕ} {scope : Scope} {info : ModuleInfo} {place : ℕ}

theorem exportedAt_of_remembered (h : Table.get? id s.exported = some scope) :
    exportedAt m (fuel + 1) path id s = (some { scope }, s) := by
  rw [exportedAt, get_bind_apply, h]
  rfl

theorem exportedAt_of_unknown (h : Table.get? id s.exported = none) (hid : m.module? id = none) :
    exportedAt m (fuel + 1) path id s = (none, s) := by
  rw [exportedAt, get_bind_apply, h, hid]
  rfl

theorem exportedAt_of_circle (h : Table.get? id s.exported = none) (hid : m.module? id = some info)
    (hplace : path.findIdx? (· == id) = some place) :
    exportedAt m (fuel + 1) path id s = (some { scope := {}, cut := some place }, { s with
      remarks := s.remarks ++ [info.reference.name ++ " re-exports itself through a cycle"] }) := by
  rw [exportedAt, get_bind_apply, h, hid, hplace]
  rfl

theorem exportedAt_of_new (h : Table.get? id s.exported = none) (hid : m.module? id = some info)
    (hplace : path.findIdx? (· == id) = none) {found : Found} {t : Scopes}
    (hfound : collect m (exportedAt m fuel (path ++ [id])) info.exports { scope := {} } s = (found, t)) :
    exportedAt m (fuel + 1) path id s = (some found,
      if found.isWhole path.length then { t with exported := Table.put id found.scope t.exported }
      else t) := by
  rw [exportedAt, get_bind_apply, h, hid, hplace]
  simp only [bind_apply, hfound]
  split <;> rfl

theorem Whole.put (hs : Whole m s) (hid : (m.module? id).isSome) (h : scope.Holds m (Offers m id)) :
    Whole m { s with exported := Table.put id scope s.exported } := by
  intro k scope' hk
  by_cases hki : k = id
  · subst hki
    rw [Table.get?_put_self] at hk
    cases hk
    exact ⟨hid, h⟩
  · rw [Table.get?_put_of_ne hki] at hk
    exact hs k scope' hk

/-- The modules on a path are different ones, so that a search always has fuel left. -/
theorem length_le_modules (hnodup : path.Nodup) (hmod : ∀ k ∈ path, m.isModule k) :
    path.length ≤ m.modules.length :=
  (List.Nodup.subperm hnodup fun k hk => m.mem_modules k (hmod k hk)).length_le

theorem exportedAt_explores (hm : m.Tidy) (fuel : ℕ) (path : List DeclarationId) (id : DeclarationId)
    (hnodup : path.Nodup) (hmod : ∀ k ∈ path, m.isModule k)
    (hfuel : m.modules.length < path.length + fuel) :
    Explores m path id (exportedAt m fuel path id) := by
  induction fuel generalizing path id with
  | zero =>
    have := length_le_modules hnodup hmod
    omega
  | succ fuel ih =>
    intro s hs
    cases hcached : Table.get? id s.exported with
    | some scope =>
      obtain ⟨hid, hscope⟩ := hs id scope hcached
      rw [exportedAt_of_remembered hcached]
      refine ⟨hs, iff_of_false (Option.some_ne_none _) (Option.isSome_iff_ne_none.1 hid), ?_⟩
      rintro _ ⟨⟩
      exact ⟨_, covers_remembered hscope⟩
    | none =>
      cases hid : m.module? id with
      | none =>
        rw [exportedAt_of_unknown hcached hid]
        exact ⟨hs, iff_of_true rfl rfl, by simp⟩
      | some info =>
        cases hplace : path.findIdx? (· == id) with
        | some place =>
          rw [exportedAt_of_circle hcached hid hplace]
          refine ⟨hs, iff_of_false (Option.some_ne_none _) (Option.some_ne_none _), ?_⟩
          rintro _ ⟨⟩
          obtain ⟨hlt, heq, -⟩ := List.findIdx?_eq_some_iff_getElem.1 hplace
          exact ⟨_, covers_circle (List.getElem?_eq_some_iff.2 ⟨hlt, by simpa using heq⟩)⟩
        | none =>
          have hnew : id ∉ path := fun h => by simpa using List.findIdx?_eq_none_iff.1 hplace id h
          have hmod' : ∀ k ∈ path ++ [id], m.isModule k := by
            intro k hk
            rcases List.mem_append.1 hk with hk | hk
            · exact hmod k hk
            · rw [List.mem_singleton.1 hk, Metadata.isModule, hid]
              rfl
          have hnodup' : (path ++ [id]).Nodup := by
            rw [List.nodup_append]
            exact ⟨hnodup, List.nodup_singleton id, by rintro a ha b hb rfl; simp_all⟩
          have hvisit : ∀ k, Explores m (path ++ [id]) k (exportedAt m fuel (path ++ [id]) k) := by
            intro k
            refine ih (path ++ [id]) k hnodup' hmod' ?_
            rw [List.length_append, List.length_singleton]
            omega
          obtain ⟨ht, W, hW⟩ :=
            collect_gathers hm hvisit info.exports hs (gathers_empty m (path ++ [id]))
          rcases hfound : collect m (exportedAt m fuel (path ++ [id])) info.exports { scope := {} } s
            with ⟨found, t⟩
          rw [hfound] at ht hW
          have hlists : (fun d => False ∨ ∃ e ∈ info.exports, e.id = d) = Lists m id := by
            funext d
            rw [false_or, lists_iff hid]
          rw [hlists] at hW
          rw [exportedAt_of_new hcached hid hplace hfound]
          refine ⟨?_, iff_of_false (Option.some_ne_none _) (Option.some_ne_none _), ?_⟩
          · dsimp only
            split
            · next hwhole =>
              exact ht.put (by rw [hid]; rfl) (hW.covers.offers fun k => not_cutAt_of_isWhole hwhole)
            · exact ht
          · rintro _ ⟨⟩
            exact ⟨_, hW.covers⟩

end ExportedAt

/-! ### Questions one after the other -/

/-- A question about the scopes of a module. -/
inductive ScopeQuery
  /-- What the module offers to those that import it. -/
  | exported (id : DeclarationId)
  /-- What the templates of the module can use. -/
  | compilation (id : DeclarationId)

/-- Asks a question and forgets the answer. -/
def ScopeQuery.run (m : Metadata) : ScopeQuery → Scoping Unit
  | .exported id => discard (Scoping.exported m id)
  | .compilation id => discard (ofModule m id)

/-- What is remembered after some questions, one after the other. -/
def runQueries (m : Metadata) (qs : List ScopeQuery) (s : Scopes) : Scopes :=
  qs.foldl (fun s q => (q.run m s).2) s

theorem exported_whole (hm : m.Tidy) (hs : Whole m s) (id : DeclarationId) :
    Whole m (exported m id s).2 ∧ ((exported m id s).1 = none ↔ m.module? id = none) ∧
      ∀ scope, (exported m id s).1 = some scope → scope.Holds m (Offers m id) := by
  have hfuel : m.modules.length < ([] : List DeclarationId).length + (m.modules.length + 2) := by simp
  obtain ⟨ht, hnone, hsome⟩ :=
    exportedAt_explores hm (m.modules.length + 2) [] id List.nodup_nil (by simp) hfuel s hs
  have hanswer : exported m id s = ((exportedAt m (m.modules.length + 2) [] id s).1.map (·.scope),
      (exportedAt m (m.modules.length + 2) [] id s).2) := rfl
  rw [hanswer]
  refine ⟨ht, by rw [Option.map_eq_none_iff, hnone], fun scope hscope => ?_⟩
  obtain ⟨found, hfound, rfl⟩ := Option.map_eq_some_iff.1 hscope
  obtain ⟨V, hV⟩ := hsome found hfound
  -- on the empty path there is nothing to be cut off at
  exact hV.offers fun k ⟨_, _, hk, _⟩ => by cases hk

theorem addImports_whole (hm : m.Tidy) (hs : Whole m s) (is : List Reference) (scope : Scope) :
    Whole m (addImports m is scope s).2 := by
  induction is generalizing scope s with
  | nil => exact hs
  | cons i is ih =>
    obtain ⟨ht, -⟩ := exported_whole hm hs i.id
    rw [addImports, bind_apply]
    cases (exported m i.id s).1 with
    | none => exact ih ht _
    | some found => exact ih ht _

theorem ofModule_whole (hm : m.Tidy) (hs : Whole m s) (id : DeclarationId) :
    Whole m (ofModule m id s).2 := by
  rw [ofModule, get_bind_apply]
  cases Table.get? id s.compilation with
  | some scope => exact hs
  | none =>
    cases m.module? id with
    | none => exact hs
    | some info => exact addImports_whole hm hs _ _

theorem runQueries_whole (hm : m.Tidy) (hs : Whole m s) (qs : List ScopeQuery) :
    Whole m (runQueries m qs s) := by
  induction qs generalizing s with
  | nil => exact hs
  | cons q qs ih =>
    refine ih ?_
    cases q with
    | exported id => exact (exported_whole hm hs id).1
    | compilation id => exact ofModule_whole hm hs id

open Classical in
/-- A scope has the directives and pipes that a module offers: for every declaration the entry that
its facts give, once, if it is offered, and no entry otherwise. -/
structure IsOffer (m : Metadata) (id : DeclarationId) (scope : Scope) : Prop where
  directives : ∀ d, scope.directives.filter (fun x => x.reference.id = d) =
    if Offers m id d then ((m.directive? d).map .of).toList else []
  pipes : ∀ d, scope.pipes.filter (fun x => x.reference.id = d) =
    if Offers m id d then ((m.pipe? d).map .of).toList else []

theorem isOffer_of_holds (hm : m.Tidy) {scope : Scope} (h : scope.Holds m (Offers m id)) :
    IsOffer m id scope where
  directives d := by
    convert h.directives.filter_eq (Scope.directive_key hm) d
  pipes d := by
    convert h.pipes.filter_eq (Scope.pipe_key hm) d

/-- **Exported scopes through circles.** After any questions about scopes, exactly the modules have
an exported scope; it holds once whatever a module that can be reached over exported modules exports
directly, and nothing else. The same holds of all scopes that are remembered, so that a scope that was
cut off at a circle is neither remembered nor given as an answer. -/
theorem exported_offers (hm : m.Tidy) (qs : List ScopeQuery) (id : DeclarationId) :
    ((exported m id (runQueries m qs {})).1 = none ↔ m.module? id = none) ∧
    (∀ scope, (exported m id (runQueries m qs {})).1 = some scope → IsOffer m id scope) ∧
    ∀ n scope, Table.get? n (exported m id (runQueries m qs {})).2.exported = some scope →
      (m.module? n).isSome ∧ IsOffer m n scope := by
  obtain ⟨hwhole, hnone, hsome⟩ := exported_whole hm (runQueries_whole hm (whole_new m) qs) id
  refine ⟨hnone, fun scope h => isOffer_of_holds hm (hsome scope h), fun n scope h => ?_⟩
  obtain ⟨hn, hscope⟩ := hwhole n scope h
  exact ⟨hn, isOffer_of_holds hm hscope⟩

/-- Two modules that export each other, and a directive or a pipe each. -/
def circularModules : Registry where
  modules := [
    (1, { reference := ⟨1, "A", "/a.ts"⟩, exports := [⟨2, "B", "/b.ts"⟩, ⟨3, "D", "/a.ts"⟩] }),
    (2, { reference := ⟨2, "B", "/b.ts"⟩, exports := [⟨1, "A", "/a.ts"⟩, ⟨4, "P", "/b.ts"⟩] })]
  directives := [(3, { reference := ⟨3, "D", "/a.ts"⟩, selector := some "[d]" })]
  pipes := [(4, { reference := ⟨4, "P", "/b.ts"⟩, name := "p" })]

theorem circularModules_tidy : circularModules.metadata.Tidy := by
  constructor <;> intro id <;> simp only [Registry.metadata, circularModules, Table.get?] <;> grind

/-- The module that is asked for second offers what the first one exports, and the other way round. -/
theorem exported_offers_circle : circularModules.metadata.Tidy ∧
    (exported circularModules.metadata 2 (runQueries circularModules.metadata [.exported 1] {})).1 =
      some ⟨[⟨⟨3, "D", "/a.ts"⟩, some "[d]", false⟩], [⟨⟨4, "P", "/b.ts"⟩, "p"⟩]⟩ ∧
    IsOffer circularModules.metadata 2
      ⟨[⟨⟨3, "D", "/a.ts"⟩, some "[d]", false⟩], [⟨⟨4, "P", "/b.ts"⟩, "p"⟩]⟩ := by
  have hscope : (exported circularModules.metadata 2
      (runQueries circularModules.metadata [.exported 1] {})).1 =
        some ⟨[⟨⟨3, "D", "/a.ts"⟩, some "[d]", false⟩], [⟨⟨4, "P", "/b.ts"⟩, "p"⟩]⟩ := by decide
  have hoffers := exported_offers circularModules_tidy [.exported 1] 2
  exact ⟨circularModules_tidy, hscope, hoffers.2.1 _ hscope⟩

end ComponentAtlas.Scoping
