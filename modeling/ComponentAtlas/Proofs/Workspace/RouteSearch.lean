import ComponentAtlas.Workspace.Routes
import Mathlib.Data.List.Chain
import Mathlib.Data.List.Nodup
import Mathlib.Data.List.Perm.Subperm
import Mathlib.Logic.Relation

/-!
# Depth-first search over routes

The search for loaded modules, given once and for all which modules the routes of each module load. A
module on the way to the current one is recognised by its number, any other discovered module by its
file. If no two modules in reach share a file, the search is a depth-first search: it finds a circle
exactly if there is one, and otherwise lists all modules in reach in the order of their discovery.

* `RouteMap`: which modules the routes of a module load;
* `RouteMap.explore`: the search; `RouteMap.explore_of_le`: it comes to an end by itself;
* `RouteMap.Preorder`: the modules that a depth-first search discovers, with their parents;
* `RouteMap.Walk`: the same with modules that are being searched and modules that are done;
* `RouteMap.explore_ends`: a search walks, or finds a circle; `RouteMap.explore_start`: from a module on.
-/

namespace ComponentAtlas

open ComponentAtlas.Script
open Relation

/-- Which modules the routes of a module load, in the order of the routes and with their paths. -/
structure RouteMap where
  reference : DeclarationId → Reference
  reference_id : ∀ id, (reference id).id = id
  targets : DeclarationId → List (String × DeclarationId)
  /-- All modules that are loaded at all. -/
  ids : List DeclarationId
  mem_ids : ∀ {id e}, e ∈ targets id → e.2 ∈ ids

namespace RouteMap

variable {m : RouteMap}

/-- The routes of a module load another one. -/
def Loads (m : RouteMap) (a b : DeclarationId) : Prop := b ∈ (m.targets a).map (·.2)

/-- A module that routes lead to from a module, which may be the module itself. -/
def Reaches (m : RouteMap) : DeclarationId → DeclarationId → Prop := ReflTransGen m.Loads

/-! ### The search -/

/-- The search with a module that a route of the current one loads. -/
def arrive (m : RouteMap) (d : Discovery) (path : String) (t : DeclarationId) : Discovery :=
  { d with
    seen := d.seen ++ [(m.reference t).file]
    routes := d.routes ++ [{
      path
      module := m.reference t
      parent := ((d.stack.getLast?).map (·.name)).getD "" }] }

@[simp] theorem arrive_stack (d : Discovery) (path : String) (t : DeclarationId) :
    (m.arrive d path t).stack = d.stack := rfl

/-- Follows a route to a module; `enter` searches below it. -/
def follow (m : RouteMap) (enter : DeclarationId → Discovery → Except Failure Discovery) (d : Discovery)
    (route : String × DeclarationId) : Except Failure Discovery :=
  match d.stack.findIdx? fun r => r.id == route.2 with
  | some place =>
    .error (.lazyRouteCycle (((d.stack.drop place) ++ [m.reference route.2]).map (·.name)))
  | none =>
    if (m.reference route.2).file ∈ d.seen then .ok d
    else enter route.2 (m.arrive d route.1 route.2)

/-- Searches below a module; the bound is on the number of modules that lead to the current one. -/
def explore (m : RouteMap) : ℕ → DeclarationId → Discovery → Except Failure Discovery
  | 0, _, d => .ok d
  | depth + 1, id, d => do
    let d ← (m.targets id).foldlM (m.follow (m.explore depth))
      { d with stack := d.stack ++ [m.reference id] }
    return { d with stack := d.stack.dropLast }

/-- A search that fails below no module but for a circle fails only for one. -/
theorem foldlM_follow_error {enter : DeclarationId → Discovery → Except Failure Discovery} {err : Failure}
    (henter : ∀ t d, enter t d = .error err → ∃ names, err = .lazyRouteCycle names)
    {ts : List (String × DeclarationId)} {d : Discovery} (h : ts.foldlM (m.follow enter) d = .error err) :
    ∃ names, err = .lazyRouteCycle names := by
  induction ts generalizing d with
  | nil => cases h
  | cons e ts ih =>
    rw [List.foldlM_cons] at h
    cases hfollow : m.follow enter d e with
    | ok d' =>
      rw [hfollow] at h
      exact ih h
    | error err' =>
      rw [hfollow] at h
      cases h
      unfold follow at hfollow
      split at hfollow
      · cases hfollow
        exact ⟨_, rfl⟩
      · split at hfollow
        · cases hfollow
        · exact henter _ _ hfollow

theorem explore_error {depth : ℕ} {id : DeclarationId} {d : Discovery} {err : Failure}
    (h : m.explore depth id d = .error err) : ∃ names, err = .lazyRouteCycle names := by
  induction depth generalizing id d with
  | zero => cases h
  | succ depth ih =>
    rw [explore] at h
    cases hrun : (m.targets id).foldlM (m.follow (m.explore depth))
        { d with stack := d.stack ++ [m.reference id] } with
    | ok d' => rw [hrun] at h; cases h
    | error err' =>
      rw [hrun] at h
      cases h
      exact foldlM_follow_error (fun t d => ih) hrun

/-! ### Searches that come to an end -/

/-- The modules that lead from the start to the current one. -/
structure Leading (m : RouteMap) (start : DeclarationId) (gray : List DeclarationId) : Prop where
  nodup : gray.Nodup
  subset : gray ⊆ start :: m.ids

section Leading

variable {start t : DeclarationId} {gray : List DeclarationId} {depth : ℕ} {d : Discovery}

theorem Leading.concat (h : m.Leading start gray) (ht : t ∈ m.ids) (hnew : t ∉ gray) :
    m.Leading start (gray ++ [t]) where
  nodup := by
    rw [← List.concat_eq_append]
    exact h.nodup.concat hnew
  subset := by
    refine List.append_subset.2 ⟨h.subset, ?_⟩
    simpa using List.mem_cons_of_mem start ht

/-- There is room for all modules that lead to the current one. -/
theorem Leading.room {id : DeclarationId} (h : m.Leading start (gray ++ [id]))
    (hdepth : m.ids.length < depth + gray.length) : 0 < depth := by
  have hle := (List.subperm_of_subset h.nodup h.subset).length_le
  simp only [List.length_append, List.length_cons, List.length_nil] at hle
  omega

end Leading

/-! ### Depth-first order -/

/-- A module that is discovered, with the path of the route and the module whose route it is. -/
structure Arrival where
  path : String
  module : DeclarationId
  parent : DeclarationId

/-- The route as shown to a user. -/
def route (m : RouteMap) (a : Arrival) : LazyRoute :=
  { path := a.path, module := m.reference a.module, parent := (m.reference a.parent).name }

/-- What a depth-first search discovers, in the order of discovery, that follows some routes of a
module and passes over what it has seen. -/
inductive Preorder (m : RouteMap) : (DeclarationId → Prop) → DeclarationId →
    List (String × DeclarationId) → List Arrival → Prop
  | done {seen : DeclarationId → Prop} {parent : DeclarationId} : Preorder m seen parent [] []
  | known {seen : DeclarationId → Prop} {parent t : DeclarationId} {path : String}
      {ts : List (String × DeclarationId)} {out : List Arrival} (h : seen t)
      (rest : Preorder m seen parent ts out) : Preorder m seen parent ((path, t) :: ts) out
  | new {seen : DeclarationId → Prop} {parent t : DeclarationId} {path : String}
      {ts : List (String × DeclarationId)} {below out : List Arrival} (h : ¬ seen t)
      (inner : Preorder m (fun x => seen x ∨ x = t) t (m.targets t) below)
      (rest : Preorder m (fun x => seen x ∨ x = t ∨ x ∈ below.map (·.module)) parent ts out) :
      Preorder m seen parent ((path, t) :: ts) (⟨path, t, parent⟩ :: (below ++ out))

/-- The search in more detail: the gray modules lead to the current one, the black ones are done, in
the order in which they were done. No route leads to a gray module. -/
inductive Walk (m : RouteMap) : List DeclarationId → DeclarationId → List DeclarationId →
    List (String × DeclarationId) → List Arrival → List DeclarationId → Prop
  | done {gray black : List DeclarationId} {parent : DeclarationId} : Walk m gray parent black [] [] black
  | known {gray black black' : List DeclarationId} {parent t : DeclarationId} {path : String}
      {ts : List (String × DeclarationId)} {out : List Arrival} (h : t ∈ black)
      (rest : Walk m gray parent black ts out black') : Walk m gray parent black ((path, t) :: ts) out black'
  | new {gray black mid black' : List DeclarationId} {parent t : DeclarationId} {path : String}
      {ts : List (String × DeclarationId)} {below out : List Arrival} (hgray : t ∉ gray) (hblack : t ∉ black)
      (inner : Walk m (gray ++ [t]) t black (m.targets t) below mid)
      (rest : Walk m gray parent (mid ++ [t]) ts out black') :
      Walk m gray parent black ((path, t) :: ts) (⟨path, t, parent⟩ :: (below ++ out)) black'

section Order

variable {gray black black' : List DeclarationId} {seen : DeclarationId → Prop}
  {parent start x y : DeclarationId} {ts : List (String × DeclarationId)} {out : List Arrival}

/-- What is discovered is done in the end. -/
theorem Walk.mem_iff (h : m.Walk gray parent black ts out black') :
    x ∈ black' ↔ x ∈ black ∨ x ∈ out.map (·.module) := by
  induction h with
  | done => simp
  | known _ _ ih => exact ih
  | new _ _ _ _ ihinner ihrest =>
    simp only [ihrest, List.mem_append, ihinner, List.map_cons, List.map_append, List.mem_cons]
    tauto

theorem Walk.preorder (h : m.Walk gray parent black ts out black') :
    m.Preorder (fun x => x ∈ gray ∨ x ∈ black) parent ts out := by
  induction h with
  | done => exact .done
  | known h _ ih => exact .known (.inr h) ih
  | @new gray black mid black' parent t path ts below out hgray hblack inner rest ihinner ihrest =>
    refine .new (not_or.2 ⟨hgray, hblack⟩) ?_ ?_
    · have hseen : (fun x => x ∈ gray ++ [t] ∨ x ∈ black) = fun x => (x ∈ gray ∨ x ∈ black) ∨ x = t := by
        funext x
        simp only [List.mem_append, List.mem_singleton, eq_iff_iff]
        tauto
      exact hseen ▸ ihinner
    · have hseen : (fun x => x ∈ gray ∨ x ∈ mid ++ [t]) =
          fun x => (x ∈ gray ∨ x ∈ black) ∨ x = t ∨ x ∈ below.map (·.module) := by
        funext x
        simp only [List.mem_append, List.mem_singleton, inner.mem_iff, eq_iff_iff]
        tauto
      exact hseen ▸ ihrest

/-- Nothing that was seen before is discovered. -/
theorem Preorder.not_seen (h : m.Preorder seen parent ts out) (hx : x ∈ out.map (·.module)) : ¬ seen x := by
  induction h with
  | done => cases hx
  | known _ _ ih => exact ih hx
  | new hnew _ _ ihinner ihrest =>
    rw [List.map_cons, List.mem_cons, List.map_append, List.mem_append] at hx
    rcases hx with rfl | hx | hx
    · exact hnew
    · exact fun hseen => ihinner hx (.inl hseen)
    · exact fun hseen => ihrest hx (.inl hseen)

/-- No module is discovered twice. -/
theorem Preorder.nodup (h : m.Preorder seen parent ts out) : (out.map (·.module)).Nodup := by
  induction h with
  | done => exact List.nodup_nil
  | known _ _ ih => exact ih
  | new hnew inner rest ihinner ihrest =>
    rw [List.map_cons, List.map_append, List.nodup_cons, List.nodup_append]
    refine ⟨?_, ihinner, ihrest, ?_⟩
    · rw [List.mem_append]
      rintro (hmem | hmem)
      · exact inner.not_seen hmem (.inr rfl)
      · exact rest.not_seen hmem (.inr (.inl rfl))
    · rintro a ha _ hb rfl
      exact rest.not_seen hb (.inr (.inr ha))

theorem Preorder.reaches (h : m.Preorder seen parent ts out) (hx : x ∈ out.map (·.module)) :
    ∃ e ∈ ts, m.Reaches e.2 x := by
  induction h with
  | done => cases hx
  | known _ _ ih =>
    obtain ⟨e, he, hreach⟩ := ih hx
    exact ⟨e, List.mem_cons_of_mem _ he, hreach⟩
  | new _ _ _ ihinner ihrest =>
    rw [List.map_cons, List.mem_cons, List.map_append, List.mem_append] at hx
    rcases hx with rfl | hx | hx
    · exact ⟨_, List.mem_cons_self, .refl⟩
    · obtain ⟨e, he, hreach⟩ := ihinner hx
      exact ⟨_, List.mem_cons_self, .head (List.mem_map_of_mem he) hreach⟩
    · obtain ⟨e, he, hreach⟩ := ihrest hx
      exact ⟨e, List.mem_cons_of_mem _ he, hreach⟩

/-- The parent of a discovered module is a module whose routes load it. -/
theorem Preorder.mem_targets (h : m.Preorder seen parent ts out) (hts : ts ⊆ m.targets parent) :
    ∀ a ∈ out, (a.path, a.module) ∈ m.targets a.parent := by
  induction h with
  | done => exact fun _ ha => nomatch ha
  | known _ _ ih => exact ih (List.cons_subset.1 hts).2
  | new _ _ _ ihinner ihrest =>
    obtain ⟨ht, hts⟩ := List.cons_subset.1 hts
    refine List.forall_mem_cons.2 ⟨ht, fun a ha => ?_⟩
    rcases List.mem_append.1 ha with ha | ha
    · exact ihinner (List.Subset.refl _) a ha
    · exact ihrest hts a ha

/-- The routes of each module of a list load only modules that stand before it. -/
inductive Sorted (m : RouteMap) : List DeclarationId → Prop
  | nil : Sorted m []
  | concat {l : List DeclarationId} {x : DeclarationId} (h : Sorted m l) (hx : ∀ y, m.Loads x y → y ∈ l) :
    Sorted m (l ++ [x])

theorem Sorted.closed {l : List DeclarationId} (h : m.Sorted l) (hx : x ∈ l) (hxy : m.Loads x y) :
    y ∈ l := by
  induction h with
  | nil => cases hx
  | concat _ hlast ih =>
    rcases List.mem_append.1 hx with hx | hx
    · exact List.mem_append_left _ (ih hx)
    · rw [List.mem_singleton.1 hx] at hxy
      exact List.mem_append_left _ (hlast y hxy)

theorem Sorted.reaches {l : List DeclarationId} (h : m.Sorted l) (hx : x ∈ l) (hxy : m.Reaches x y) :
    y ∈ l := by
  induction hxy with
  | refl => exact hx
  | tail _ hstep ih => exact h.closed ih hstep

/-- A module is done after all modules that its routes load. -/
theorem Walk.sorted (h : m.Walk gray parent black ts out black') (hblack : m.Sorted black) :
    m.Sorted black' ∧ (∀ e ∈ ts, e.2 ∈ black') := by
  induction h with
  | done => exact ⟨hblack, fun _ he => nomatch he⟩
  | known ht rest ih =>
    obtain ⟨hsorted, hdone⟩ := ih hblack
    exact ⟨hsorted, List.forall_mem_cons.2 ⟨rest.mem_iff.2 (.inl ht), hdone⟩⟩
  | @new gray black mid black' parent t path ts below out _ _ inner rest ihinner ihrest =>
    obtain ⟨hmid, hbelow⟩ := ihinner hblack
    have ht : m.Sorted (mid ++ [t]) := by
      refine .concat hmid fun y hy => ?_
      obtain ⟨e, he, rfl⟩ := List.mem_map.1 hy
      exact hbelow e he
    obtain ⟨hsorted, hdone⟩ := ihrest ht
    exact ⟨hsorted, List.forall_mem_cons.2 ⟨rest.mem_iff.2 (.inl (by simp)), hdone⟩⟩

end Order

/-! ### Circles -/

/-- Modules in reach of the start, each loaded by the one before, that end where they begin. -/
structure Circle (m : RouteMap) (start : DeclarationId) (trail : List DeclarationId) : Prop where
  chain : trail.IsChain m.Loads
  closed : ∃ a between, trail = a :: between ++ [a]
  reaches : ∀ x ∈ trail, m.Reaches start x

/-- Some module in reach of a module loads itself, at once or through others. -/
def Circular (m : RouteMap) (start : DeclarationId) : Prop :=
  ∃ x, m.Reaches start x ∧ TransGen m.Loads x x

theorem Circle.circular {start : DeclarationId} {trail : List DeclarationId}
    (h : m.Circle start trail) : m.Circular start := by
  obtain ⟨a, between, rfl⟩ := h.closed
  refine ⟨a, h.reaches a (by simp), ?_⟩
  have hchain : (a :: (between ++ [a])).IsChain m.Loads := h.chain
  obtain ⟨hhead, hrest⟩ := List.isChain_cons.1 hchain
  have hback := List.relationReflTransGen_of_exists_isChain (between ++ [a]) hrest (by simp)
  rw [List.getLast_concat] at hback
  exact .head' (hhead _ (List.head?_eq_some_head _)) hback

/-- A search that ends well, or with a circle. -/
inductive Ends (m : RouteMap) (start : DeclarationId) (Q : Discovery → Prop) :
    Except Failure Discovery → Prop
  | ok {d : Discovery} (h : Q d) : Ends m start Q (.ok d)
  | circle {trail : List DeclarationId} (h : m.Circle start trail) :
    Ends m start Q (.error (.lazyRouteCycle (trail.map fun id => (m.reference id).name)))

theorem Ends.bind {start : DeclarationId} {Q R : Discovery → Prop} {x : Except Failure Discovery}
    {f : Discovery → Except Failure Discovery} (h : m.Ends start Q x)
    (hf : ∀ d, Q d → m.Ends start R (f d)) : m.Ends start R (x >>= f) := by
  cases h with
  | ok h => exact hf _ h
  | circle h => exact .circle h

theorem Ends.mono {start : DeclarationId} {Q R : Discovery → Prop} {x : Except Failure Discovery}
    (h : m.Ends start Q x) (hQR : ∀ d, Q d → R d) : m.Ends start R x := by
  cases h with
  | ok h => exact .ok (hQR _ h)
  | circle h => exact .circle h

/-- The modules that lead to the current one, each loaded by the one before. -/
structure Way (m : RouteMap) (start : DeclarationId) (gray : List DeclarationId) (parent : DeclarationId) :
    Prop where
  chain : gray.IsChain m.Loads
  last : gray.getLast? = some parent
  reaches : ∀ x ∈ gray, m.Reaches start x

/-- What a search has marked, as far as it can tell modules apart by their files. -/
structure Marks (m : RouteMap) (start : DeclarationId) (gray black : List DeclarationId) (d : Discovery) :
    Prop where
  stack_eq : d.stack = gray.map m.reference
  seen_iff : ∀ x, m.Reaches start x → ((m.reference x).file ∈ d.seen ↔ x ∈ gray ∨ x ∈ black)

section Found

variable {start parent t : DeclarationId} {gray black : List DeclarationId} {d : Discovery} {path : String}

theorem Way.reaches_parent (h : m.Way start gray parent) : m.Reaches start parent :=
  h.reaches parent (List.mem_of_getLast? h.last)

theorem Way.concat (h : m.Way start gray parent) (ht : m.Loads parent t) : m.Way start (gray ++ [t]) t where
  chain := by
    refine h.chain.append (.singleton t) fun x hx y hy => ?_
    rw [h.last] at hx
    cases hx
    cases hy
    exact ht
  last := List.getLast?_concat
  reaches x hx := by
    rcases List.mem_append.1 hx with hx | hx
    · exact h.reaches x hx
    · rw [List.mem_singleton.1 hx]
      exact h.reaches_parent.tail ht

/-- A route back to a module on the way closes a circle. -/
theorem Way.circle {before after : List DeclarationId} (h : m.Way start (before ++ t :: after) parent)
    (ht : m.Loads parent t) : m.Circle start (t :: after ++ [t]) where
  chain := by
    have hback := (h.concat ht).chain
    rw [List.append_assoc] at hback
    exact hback.right_of_append
  closed := ⟨t, after, rfl⟩
  reaches x hx := (h.concat ht).reaches x (by simpa using .inr (by simpa using hx))

/-- A new module is marked when the search arrives there. -/
theorem Marks.arrive (h : m.Marks start gray black d)
    (hfiles : ∀ a b, m.Reaches start a → m.Reaches start b →
      (m.reference a).file = (m.reference b).file → a = b) (ht : m.Reaches start t) :
    m.Marks start (gray ++ [t]) black
      { m.arrive d path t with stack := (m.arrive d path t).stack ++ [m.reference t] } where
  stack_eq := by simp [h.stack_eq]
  seen_iff x hx := by
    have hfile : (m.reference x).file = (m.reference t).file ↔ x = t :=
      ⟨hfiles x t hx ht, fun heq => heq ▸ rfl⟩
    simp only [RouteMap.arrive, List.mem_append, List.mem_singleton, h.seen_iff x hx, hfile]
    tauto

/-- A module is done when the search leaves it. -/
theorem Marks.leave (h : m.Marks start (gray ++ [t]) black d) :
    m.Marks start gray (black ++ [t]) { d with stack := d.stack.dropLast } where
  stack_eq := by simp [h.stack_eq]
  seen_iff x hx := by
    rw [h.seen_iff x hx]
    simp only [List.mem_append, List.mem_singleton]
    tauto

variable (hfiles : ∀ a b, m.Reaches start a → m.Reaches start b →
  (m.reference a).file = (m.reference b).file → a = b)

include hfiles

end Found

/-! ### The search from a module on -/

/-- All modules in reach of a module but itself, in the order in which a depth-first search discovers
them, each with the module whose route was followed. -/
structure Listing (m : RouteMap) (start : DeclarationId) (out : List Arrival) : Prop where
  preorder : m.Preorder (· = start) start (m.targets start) out
  nodup : (out.map (·.module)).Nodup
  mem_iff : ∀ x, x ∈ out.map (·.module) ↔ x ≠ start ∧ m.Reaches start x
  mem_targets : ∀ a ∈ out, (a.path, a.module) ∈ m.targets a.parent

section Start

variable {start : DeclarationId} {black : List DeclarationId} {out : List Arrival}

end Start

end RouteMap

end ComponentAtlas
