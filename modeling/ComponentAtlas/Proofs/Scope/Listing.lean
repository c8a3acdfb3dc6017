import ComponentAtlas.Scope.Basic
import Mathlib.Data.List.Nodup

/-!
# What a scope holds

A scope lists directives and pipes, each declaration once. Here a scope is described by the set of
declarations that were put into it.

* `Metadata.Tidy`: facts are filed under the declaration they are about, and a declaration is at most
  one of module, directive and pipe;
* `Scope.Listing`: a list holds exactly the entries for the declarations of a set, each once;
* `Scope.Holds`: a scope holds exactly the directives and pipes of a set of declarations;
  `Scope.Holds.addDeclarable` and `Scope.Holds.merge` say how the set grows.
-/

namespace ComponentAtlas

open ComponentAtlas.Script

/-- Facts about a declaration name it, and a declaration is at most one of module, directive and
pipe. -/
structure Metadata.Tidy (m : Metadata) : Prop where
  directive_id : ∀ {id info}, m.directive? id = some info → info.reference.id = id
  pipe_id : ∀ {id info}, m.pipe? id = some info → info.reference.id = id
  directive_or_pipe : ∀ id, m.directive? id = none ∨ m.pipe? id = none
  module_or_directive : ∀ id, m.module? id = none ∨ m.directive? id = none
  module_or_pipe : ∀ id, m.module? id = none ∨ m.pipe? id = none

namespace Scope

/-! ### Lists with one entry for every key -/

section Listing

variable {β : Type} {key : β → DeclarationId} {entry : DeclarationId → Option β}
  {S T : DeclarationId → Prop} {xs ys : List β} {x : β} {id : DeclarationId}

/-- The list with an element, unless there is one with the same key. -/
def pushNew (key : β → DeclarationId) (xs : List β) (x : β) : List β :=
  if xs.any fun y => key y == key x then xs else xs ++ [x]

/-- The list holds the entries for the keys in a set, and every key once. -/
structure Listing (key : β → DeclarationId) (entry : DeclarationId → Option β) (S : DeclarationId → Prop)
    (xs : List β) : Prop where
  mem : ∀ {x}, x ∈ xs ↔ entry (key x) = some x ∧ S (key x)
  nodup : (xs.map key).Nodup

theorem Listing.congr (h : Listing key entry S xs) (hST : ∀ id, (entry id).isSome → (S id ↔ T id)) :
    Listing key entry T xs where
  mem := by
    intro x
    rw [h.mem]
    refine and_congr_right fun hx => hST _ ?_
    rw [hx]
    rfl
  nodup := h.nodup

/-- A key without an entry may be put into the set or not. -/
theorem Listing.insert_none (h : Listing key entry S xs) (hid : entry id = none) :
    Listing key entry (fun d => S d ∨ d = id) xs :=
  h.congr fun d hd => by
    have hne : d ≠ id := by
      rintro rfl
      rw [hid] at hd
      cases hd
    simp [hne]

theorem Listing.push (h : Listing key entry S xs) (hx : entry (key x) = some x) :
    Listing key entry (fun d => S d ∨ d = key x) (pushNew key xs x) := by
  unfold pushNew
  split
  · next hany =>
    obtain ⟨y, hy, hyx⟩ := List.any_eq_true.1 hany
    have hS : S (key x) := beq_iff_eq.1 hyx ▸ (h.mem.1 hy).2
    refine h.congr fun d _ => ⟨.inl, ?_⟩
    rintro (hd | rfl)
    · exact hd
    · exact hS
  · next hany =>
    have hnew : key x ∉ xs.map key := by
      rintro hm
      obtain ⟨y, hy, hyx⟩ := List.mem_map.1 hm
      exact hany (List.any_eq_true.2 ⟨y, hy, beq_iff_eq.2 hyx⟩)
    refine ⟨?_, ?_⟩
    · intro y
      rw [List.mem_append, List.mem_singleton, h.mem]
      constructor
      · rintro (⟨hy, hS⟩ | rfl)
        · exact ⟨hy, .inl hS⟩
        · exact ⟨hx, .inr rfl⟩
      · rintro ⟨hy, hS | hk⟩
        · exact .inl ⟨hy, hS⟩
        · rw [hk, hx] at hy
          exact .inr (Option.some.inj hy).symm
    · rw [List.map_append, List.map_singleton, List.nodup_append]
      refine ⟨h.nodup, List.nodup_singleton _, ?_⟩
      rintro a ha b hb rfl
      rw [List.mem_singleton.1 hb] at ha
      exact hnew ha

theorem Listing.pushAll (h : Listing key entry S xs) (hys : ∀ y ∈ ys, entry (key y) = some y) :
    Listing key entry (fun d => S d ∨ ∃ y ∈ ys, key y = d) (ys.foldl (pushNew key) xs) := by
  induction ys generalizing xs S with
  | nil => exact h.congr fun d _ => by simp
  | cons y ys ih =>
    have hy := hys y List.mem_cons_self
    refine (ih (h.push hy) fun z hz => hys z (List.mem_cons_of_mem _ hz)).congr fun d _ => ?_
    rw [or_assoc, List.exists_mem_cons_iff, eq_comm (a := d)]

theorem Listing.merge (hkey : ∀ {id x}, entry id = some x → key x = id) (hx : Listing key entry S xs)
    (hy : Listing key entry T ys) :
    Listing key entry (fun d => S d ∨ T d) (ys.foldl (pushNew key) xs) := by
  refine (hx.pushAll fun y hm => (hy.mem.1 hm).1).congr fun d hd => or_congr_right ?_
  obtain ⟨y, hd⟩ := Option.isSome_iff_exists.1 hd
  constructor
  · rintro ⟨z, hz, rfl⟩
    exact (hy.mem.1 hz).2
  · intro hT
    obtain rfl := hkey hd
    exact ⟨y, hy.mem.2 ⟨hd, hT⟩, rfl⟩

open Classical in
/-- What a list has for a key: one entry if the key is in the set, and nothing otherwise. -/
theorem Listing.filter_eq (hkey : ∀ {id x}, entry id = some x → key x = id) (h : Listing key entry S xs)
    (id : DeclarationId) :
    xs.filter (fun x => key x = id) = if S id then (entry id).toList else [] := by
  have hsub : ∀ {x}, x ∈ xs.filter (fun x => key x = id) ↔ entry id = some x ∧ S id := by
    intro x
    rw [List.mem_filter, h.mem, decide_eq_true_iff]
    constructor
    · rintro ⟨hx, rfl⟩
      exact hx
    · rintro ⟨hx, hS⟩
      obtain rfl := hkey hx
      exact ⟨⟨hx, hS⟩, rfl⟩
  have hnodup : (xs.filter (fun x => key x = id)).Nodup :=
    (List.Nodup.of_map key h.nodup).filter _
  split
  · next hS =>
    cases hid : entry id with
    | none => exact List.eq_nil_iff_forall_not_mem.2 fun x hx => by simp [hsub, hid] at hx
    | some x =>
      refine List.perm_singleton.1 ?_
      refine (List.perm_ext_iff_of_nodup hnodup (List.nodup_singleton x)).2 fun y => ?_
      rw [hsub, hid, Option.some.injEq, List.mem_singleton, eq_comm]
      exact and_iff_left hS
  · next hS => exact List.eq_nil_iff_forall_not_mem.2 fun x hx => hS (hsub.1 hx).2

end Listing

end Scope

/-! ### Scopes -/

/-- The entry of a scope for a directive. -/
def ScopeDirective.of (info : DirectiveInfo) : ScopeDirective :=
  ⟨info.reference, info.selector, info.isComponent⟩

/-- The entry of a scope for a pipe. -/
def ScopePipe.of (info : PipeInfo) : ScopePipe := ⟨info.reference, info.name⟩

namespace Scope

variable {m : Metadata} {s t : Scope} {S T : DeclarationId → Prop}

/-- A scope holds the directives and pipes of a set of declarations, each once. -/
structure Holds (m : Metadata) (s : Scope) (S : DeclarationId → Prop) : Prop where
  directives : Listing (·.reference.id) (fun id => (m.directive? id).map .of) S s.directives
  pipes : Listing (·.reference.id) (fun id => (m.pipe? id).map .of) S s.pipes

theorem pushDirective_eq (s : Scope) (d : ScopeDirective) :
    s.pushDirective d = { s with directives := pushNew (·.reference.id) s.directives d } := by
  unfold pushDirective hasDirective pushNew
  split <;> rfl

theorem pushPipe_eq (s : Scope) (p : ScopePipe) :
    s.pushPipe p = { s with pipes := pushNew (·.reference.id) s.pipes p } := by
  unfold pushPipe hasPipe pushNew
  split <;> rfl

theorem foldl_pushDirective (ds : List ScopeDirective) (s : Scope) :
    ds.foldl pushDirective s =
      { s with directives := ds.foldl (pushNew (·.reference.id)) s.directives } := by
  induction ds generalizing s with
  | nil => rfl
  | cons d ds ih => rw [List.foldl_cons, ih, pushDirective_eq, List.foldl_cons]

theorem foldl_pushPipe (ps : List ScopePipe) (s : Scope) :
    ps.foldl pushPipe s = { s with pipes := ps.foldl (pushNew (·.reference.id)) s.pipes } := by
  induction ps generalizing s with
  | nil => rfl
  | cons p ps ih => rw [List.foldl_cons, ih, pushPipe_eq, List.foldl_cons]

theorem merge_eq (s t : Scope) :
    s.merge t = ⟨t.directives.foldl (pushNew (·.reference.id)) s.directives,
      t.pipes.foldl (pushNew (·.reference.id)) s.pipes⟩ := by
  rw [merge, foldl_pushDirective, foldl_pushPipe]

theorem directive_key (hm : m.Tidy) {id : DeclarationId} {x : ScopeDirective}
    (h : (m.directive? id).map .of = some x) : x.reference.id = id := by
  obtain ⟨info, hinfo, rfl⟩ := Option.map_eq_some_iff.1 h
  exact hm.directive_id hinfo

theorem pipe_key (hm : m.Tidy) {id : DeclarationId} {x : ScopePipe}
    (h : (m.pipe? id).map .of = some x) : x.reference.id = id := by
  obtain ⟨info, hinfo, rfl⟩ := Option.map_eq_some_iff.1 h
  exact hm.pipe_id hinfo

theorem Holds.congr (h : s.Holds m S) (hST : ∀ d, S d ↔ T d) : s.Holds m T :=
  ⟨h.directives.congr fun d _ => hST d, h.pipes.congr fun d _ => hST d⟩

theorem holds_empty (m : Metadata) : Holds m {} fun _ => False :=
  ⟨⟨by simp, List.nodup_nil⟩, ⟨by simp, List.nodup_nil⟩⟩

theorem Holds.merge (hm : m.Tidy) (hs : s.Holds m S) (ht : t.Holds m T) :
    (s.merge t).Holds m fun d => S d ∨ T d := by
  rw [merge_eq]
  exact ⟨.merge (directive_key hm) hs.directives ht.directives, .merge (pipe_key hm) hs.pipes ht.pipes⟩

/-- A declaration that is neither a directive nor a pipe may be put into the set or not. -/
theorem Holds.insert_none (hs : s.Holds m S) {id : DeclarationId} (hd : m.directive? id = none)
    (hp : m.pipe? id = none) : s.Holds m fun d => S d ∨ d = id :=
  ⟨hs.directives.insert_none (by rw [hd]; rfl), hs.pipes.insert_none (by rw [hp]; rfl)⟩

theorem Holds.addDeclarable (hm : m.Tidy) (hs : s.Holds m S) (id : DeclarationId) :
    (s.addDeclarable m id).Holds m fun d => S d ∨ d = id := by
  unfold Scope.addDeclarable
  split
  · next info hd =>
    have hp := (hm.directive_or_pipe id).resolve_left (by simp [hd])
    have hid := hm.directive_id hd
    rw [addDirective, pushDirective_eq]
    refine ⟨?_, hs.pipes.insert_none (by rw [hp]; rfl)⟩
    have := hs.directives.push (x := .of info) (by rw [ScopeDirective.of, hid, hd]; rfl)
    rwa [ScopeDirective.of, hid] at this
  · next info hd hp =>
    have hid := hm.pipe_id hp
    rw [addPipe, pushPipe_eq]
    refine ⟨hs.directives.insert_none (by rw [hd]; rfl), ?_⟩
    have := hs.pipes.push (x := .of info) (by rw [ScopePipe.of, hid, hp]; rfl)
    rwa [ScopePipe.of, hid] at this
  · next hd hp => exact hs.insert_none hd hp

end Scope

end ComponentAtlas
