import ComponentAtlas.Proofs.FileGraph.Dependents
import ComponentAtlas.Proofs.Table.Keys
import Mathlib.Data.Finset.Card

/-!
# A graph after many changes

Dependencies are added one at a time, and now and then all of them are forgotten. Whatever was done
before, the graph shows the dependencies that were added since it was last cleared: in both directions,
in its number of edges, and in the files that a change of a file concerns.

* `FileGraph.Change`, `FileGraph.after`: changes, and the graph after a list of them;
* `FileGraph.Leaves`: the dependencies that a list of changes leaves, said without a graph;
* `FileGraph.Tidy`: what every change keeps; `FileGraph.edges`: the edges, each of them once;
* `FileGraph.after_shows`: what the graph shows after any changes.
-/

namespace ComponentAtlas

open Relation

namespace FileGraph

/-- A change of a graph: one more dependency, or none is left. -/
inductive Change
  | add (source target : String)
  | clear
  deriving DecidableEq

/-- The graph after a change. -/
def Change.apply (g : FileGraph) : Change → FileGraph
  | .add source target => g.add source target
  | .clear => {}

/-- The graph after some changes, which is empty in the beginning. -/
def after (changes : List Change) : FileGraph := changes.foldl Change.apply {}

/-- Some changes leave a dependency: it was added and nothing was cleared since. A file does not depend
on itself. -/
def Leaves (changes : List Change) (source target : String) : Prop :=
  source ≠ target ∧
    ∃ before behind, changes = before ++ Change.add source target :: behind ∧ Change.clear ∉ behind

variable {g : FileGraph} {changes : List Change} {source target x y file : String}

theorem after_concat (changes : List Change) (c : Change) : after (changes ++ [c]) = c.apply (after changes) := by
  rw [after, List.foldl_append]
  rfl

/-! ### Dependencies that are left -/

theorem not_leaves_nil : ¬ Leaves [] x y := by
  rintro ⟨-, before, behind, h, -⟩
  simp at h

/-- What the last change adds is left, and what was left before, unless the last change clears it. -/
theorem leaves_concat (c : Change) : Leaves (changes ++ [c]) x y ↔
    x ≠ y ∧ c = .add x y ∨ c ≠ .clear ∧ Leaves changes x y := by
  constructor
  · rintro ⟨hne, before, behind, heq, hclear⟩
    rcases List.eq_nil_or_concat behind with rfl | ⟨behind, last, rfl⟩
    · obtain ⟨-, hlast⟩ := List.append_inj' heq rfl
      exact .inl ⟨hne, List.singleton_inj.1 hlast⟩
    · rw [List.concat_eq_append, ← List.cons_append, ← List.append_assoc] at heq
      obtain ⟨rfl, hlast⟩ := List.append_inj' heq rfl
      obtain rfl := List.singleton_inj.1 hlast
      rw [List.concat_eq_append, List.mem_append, List.mem_singleton, not_or] at hclear
      exact .inr ⟨Ne.symm hclear.2, hne, before, behind, rfl, hclear.1⟩
  · rintro (⟨hne, rfl⟩ | ⟨hc, hne, before, behind, rfl, hclear⟩)
    · exact ⟨hne, changes, [], rfl, List.not_mem_nil⟩
    · refine ⟨hne, before, behind ++ [c], by simp, ?_⟩
      rw [List.mem_append, List.mem_singleton, not_or]
      exact ⟨hclear, hc.symm⟩

theorem mem_dependencies_after : y ∈ (after changes).dependencies x ↔ Leaves changes x y := by
  induction changes using List.reverseRecOn with
  | nil => simp [after, dependencies, not_leaves_nil]
  | append_singleton changes c ih =>
    rw [after_concat, leaves_concat, ← ih]
    cases c with
    | add source target =>
      rw [Change.apply, mem_dependencies_add]
      grind
    | clear => simp [Change.apply, dependencies]

/-! ### What every change keeps -/

/-- Both directions say the same, and the files on which a file depends are listed once. -/
structure Tidy (g : FileGraph) : Prop where
  inverse : g.Inverse
  keys : (g.forward.map (·.1)).Nodup
  targets : ∀ e ∈ g.forward, e.2.Nodup

theorem tidy_empty : Tidy {} := ⟨inverse_empty, List.nodup_nil, fun _ he => nomatch he⟩

theorem Tidy.add (h : g.Tidy) (source target : String) : (g.add source target).Tidy := by
  refine ⟨h.inverse.add source target, ?_, ?_⟩
  all_goals
    unfold FileGraph.add
    split
  · exact h.keys
  · exact Table.nodup_keys_put h.keys source _
  · exact h.targets
  · refine Table.forall_put h.targets source (nodup_addNew ?_ target)
    cases hold : Table.get? source g.forward with
    | none => exact List.nodup_nil
    | some targets => exact h.targets _ (Table.mem_of_get? hold)

theorem tidy_after (changes : List Change) : (after changes).Tidy := by
  induction changes using List.reverseRecOn with
  | nil => exact tidy_empty
  | append_singleton changes c ih =>
    rw [after_concat]
    cases c with
    | add source target => exact ih.add source target
    | clear => exact tidy_empty

/-! ### Edges -/

/-- The edges of a graph, in the order of the files that depend on others. -/
def edges (g : FileGraph) : List (String × String) :=
  g.forward.flatMap fun e => e.2.map fun target => (e.1, target)

theorem Tidy.mem_edges (h : g.Tidy) : (x, y) ∈ g.edges ↔ y ∈ g.dependencies x := by
  have hentry : (x, y) ∈ g.edges ↔ ∃ targets, (x, targets) ∈ g.forward ∧ y ∈ targets := by
    simp [edges]
  simp only [hentry, Table.mem_iff_get? h.keys, dependencies]
  cases Table.get? x g.forward <;> simp

theorem Tidy.nodup_edges (h : g.Tidy) : g.edges.Nodup := by
  rw [edges, List.nodup_flatMap]
  constructor
  · intro e he
    exact (h.targets e he).map fun _ _ heq => (Prod.mk.inj heq).2
  · refine (List.pairwise_map.1 h.keys).imp fun {d e} hne => ?_
    intro edge hd he
    obtain ⟨_, -, rfl⟩ := List.mem_map.1 hd
    obtain ⟨_, -, heq⟩ := List.mem_map.1 he
    exact hne (Prod.mk.inj heq).1.symm

theorem edgeCount_eq (g : FileGraph) : g.edgeCount = g.edges.length := by
  rw [edgeCount, foldl_length_eq, Nat.zero_add, edges, List.length_flatMap, List.length_flatMap]
  simp only [List.length_map]

/-! ### Files that a change concerns -/

theorem nodup_foldl_addNew {xs out : List String} (h : out.Nodup) : (xs.foldl addNew out).Nodup :=
  List.foldlRecOn xs addNew h fun _ hout x _ => nodup_addNew hout x

theorem nodup_affected (g : FileGraph) (changed : List String) : (g.affected changed).Nodup :=
  List.foldlRecOn changed _ List.nodup_nil fun _ hout file _ => nodup_foldl_addNew (nodup_addNew hout file)

/-- **A graph shows the dependencies that were added since it was last cleared.** They are found in both
directions and counted once; the search for dependents comes to an end, on circles too, and finds the
other files from which a path leads to a file; and a change concerns the changed files and those from
which a path leads to one of them, each once. -/
theorem after_shows (changes : List Change) :
    (∀ x y, (y ∈ (after changes).dependencies x ↔ Leaves changes x y) ∧
      (x ∈ (after changes).dependents y ↔ Leaves changes x y)) ∧
    (∃ pairs : Finset (String × String), (∀ e, e ∈ pairs ↔ Leaves changes e.1 e.2) ∧
      (after changes).edgeCount = pairs.card) ∧
    (∀ file, Search.Ends (after changes) file ⟨[file], []⟩ ((after changes).transitiveDependents file) ∧
      ((after changes).transitiveDependents file).Nodup ∧
      ∀ x, x ∈ (after changes).transitiveDependents file ↔ x ≠ file ∧ TransGen (Leaves changes) x file) ∧
    ∀ changed, ((after changes).affected changed).Nodup ∧
      ∀ x, x ∈ (after changes).affected changed ↔
        x ∈ changed ∨ ∃ y ∈ changed, TransGen (Leaves changes) x y := by
  have htidy := tidy_after changes
  have hleaves : (fun x y => y ∈ (after changes).dependencies x) = Leaves changes :=
    funext fun x => funext fun y => propext mem_dependencies_after
  refine ⟨fun x y => ⟨mem_dependencies_after, ?_⟩, ⟨(after changes).edges.toFinset, ?_, ?_⟩,
    fun file => ⟨?_, ?_, ?_⟩, fun changed => ⟨nodup_affected _ changed, fun x => ?_⟩⟩
  · exact (htidy.inverse x y).symm.trans mem_dependencies_after
  · intro e
    rw [List.mem_toFinset, htidy.mem_edges, mem_dependencies_after]
  · rw [edgeCount_eq, List.toFinset_card_of_nodup htidy.nodup_edges]
  · exact ends_transitiveDependents _ file
  · exact (explores_transitiveDependents _ file).nodup
  · intro x
    rw [mem_transitiveDependents htidy.inverse, hleaves]
  · rw [mem_affected htidy.inverse, hleaves]
    simp only [reflTransGen_iff_eq_or_transGen, and_or_left, exists_or, exists_eq_right]

end FileGraph

end ComponentAtlas
