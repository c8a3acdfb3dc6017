import ComponentAtlas.FileGraph
import Mathlib.Data.List.Perm.Subperm
import Mathlib.Logic.Relation

/-!
# Dependents of files

A graph of files is stored in both directions. The files that a change concerns are found by a search
against the direction of the dependencies, and these are the files from which a path of dependencies
leads to a changed one.

* `FileGraph.Inverse`: the two directions are inverse to each other;
* `FileGraph.mem_dependencies_ofProgram`: the dependencies that a program states;
* `FileGraph.Search.Explores`: what is known about a search; `Explores.step`, `Explores.run`;
* `FileGraph.Search.Ends`: a search without a bound on its steps that comes to an end;
* `FileGraph.mem_transitiveDependents`, `FileGraph.mem_affected`: what a search finds.
-/

namespace ComponentAtlas

open Relation

namespace FileGraph

variable {g : FileGraph} {source target x y start : String}

/-- A property that each step of a fold keeps or makes. -/
theorem foldl_iff {α β : Type} (P : β → Prop) (Q : α → Prop) {step : β → α → β}
    (h : ∀ b a, P (step b a) ↔ P b ∨ Q a) (as : List α) (b : β) :
    P (as.foldl step b) ↔ P b ∨ ∃ a ∈ as, Q a := by
  induction as generalizing b with
  | nil => simp
  | cons a as ih =>
    rw [List.foldl_cons, ih, h, or_assoc]
    simp only [List.mem_cons, exists_eq_or_imp]

/-! ### Neighbours -/

theorem mem_update_addNew (key value x y : String) (t : Table String (List String)) :
    y ∈ (Table.get? x (Table.update key (fun ts => addNew (ts.getD []) value) t)).getD [] ↔
      y ∈ (Table.get? x t).getD [] ∨ x = key ∧ y = value := by
  unfold Table.update
  by_cases hx : x = key
  · subst hx
    simp
  · rw [Table.get?_put_of_ne hx]
    simp [hx]

theorem mem_dependencies_add : y ∈ (g.add source target).dependencies x ↔
    y ∈ g.dependencies x ∨ source ≠ target ∧ x = source ∧ y = target := by
  unfold add
  split
  · next h => simp [h]
  · next h => simpa [dependencies, h] using mem_update_addNew source target x y g.forward

theorem mem_dependents_add : x ∈ (g.add source target).dependents y ↔
    x ∈ g.dependents y ∨ source ≠ target ∧ x = source ∧ y = target := by
  unfold add
  split
  · next h => simp [h]
  · next h => simpa [dependents, h, and_comm] using mem_update_addNew target source y x g.reverse

/-- A file depends on another one exactly if it is listed among the dependents of the other one. -/
def Inverse (g : FileGraph) : Prop := ∀ x y, y ∈ g.dependencies x ↔ x ∈ g.dependents y

theorem inverse_empty : Inverse {} := by
  intro x y
  simp [dependencies, dependents]

theorem Inverse.add (h : g.Inverse) (source target : String) : (g.add source target).Inverse := by
  intro x y
  rw [mem_dependencies_add, mem_dependents_add, h x y]

/-! ### Dependencies of a program -/

section OfProgram

variable {p : Program}

/-- The modules that the imports and exports of a file name. -/
def modulesOf (f : Script.SourceFile) : List String :=
  f.imports.map (·.module) ++ f.exports.filterMap Script.Export.module?

/-- The graph with the dependency that naming a module states. -/
def addModule (p : Program) (path : String) (g : FileGraph) (module : String) : FileGraph :=
  match p.module? path module with
  | some target => g.add path target
  | none => g

theorem ofProgram_eq (p : Program) :
    ofProgram p = p.files.foldl (fun g f => (modulesOf f).foldl (addModule p f.path) g) {} := rfl

theorem mem_dependencies_addModule {path module : String} :
    y ∈ (addModule p path g module).dependencies x ↔
      y ∈ g.dependencies x ∨ p.module? path module = some y ∧ path ≠ y ∧ x = path := by
  unfold addModule
  cases hmodule : p.module? path module with
  | none => simp
  | some target =>
    simp only [mem_dependencies_add, Option.some.injEq]
    constructor
    · rintro (h | ⟨hne, hx, rfl⟩)
      · exact .inl h
      · exact .inr ⟨rfl, hne, hx⟩
    · rintro (h | ⟨rfl, hne, hx⟩)
      · exact .inl h
      · exact .inr ⟨hne, hx, rfl⟩

theorem mem_dependencies_ofProgram : y ∈ (ofProgram p).dependencies x ↔
    ∃ f ∈ p.files, ∃ module ∈ modulesOf f, p.module? f.path module = some y ∧ f.path ≠ y ∧ x = f.path := by
  have hfile : ∀ (g : FileGraph) (f : Script.SourceFile),
      y ∈ ((modulesOf f).foldl (addModule p f.path) g).dependencies x ↔ y ∈ g.dependencies x ∨
        ∃ module ∈ modulesOf f, p.module? f.path module = some y ∧ f.path ≠ y ∧ x = f.path :=
    fun g f => foldl_iff (fun g => y ∈ g.dependencies x)
      (fun module => p.module? f.path module = some y ∧ f.path ≠ y ∧ x = f.path)
      (fun g module => mem_dependencies_addModule) (modulesOf f) g
  have hempty : y ∉ dependencies {} x := by simp [dependencies]
  rw [ofProgram_eq]
  refine (foldl_iff (fun g : FileGraph => y ∈ g.dependencies x) _ hfile p.files {}).trans ?_
  exact or_iff_right hempty

theorem inverse_ofProgram (p : Program) : (ofProgram p).Inverse := by
  have hmodule : ∀ (g : FileGraph) (path module : String), g.Inverse →
      (addModule p path g module).Inverse := by
    intro g path module hg
    unfold addModule
    split
    · exact hg.add _ _
    · exact hg
  rw [ofProgram_eq]
  refine List.foldlRecOn _ _ inverse_empty fun g hg f _ => ?_
  exact List.foldlRecOn _ _ hg fun g hg module _ => hmodule g f.path module hg

end OfProgram

/-! ### Searches for dependents -/

/-- Noting files adds those which are new, each once, both to the stack and to the found files. -/
theorem Search.foldl_note (start : String) (files : List String) (s : Search) :
    ∃ news, files.foldl (note start) s = ⟨news.reverse ++ s.stack, s.found ++ news⟩ ∧ news.Nodup ∧
      ∀ x, x ∈ news ↔ x ∈ files ∧ x ≠ start ∧ x ∉ s.found := by
  induction files generalizing s with
  | nil => exact ⟨[], by simp, List.nodup_nil, by simp⟩
  | cons file files ih =>
    by_cases hold : file = start ∨ file ∈ s.found
    · obtain ⟨news, heq, hnodup, hmem⟩ := ih s
      have hnote : s.note start file = s := by rw [Search.note, if_pos hold]
      refine ⟨news, by rw [List.foldl_cons, hnote, heq], hnodup, fun x => ?_⟩
      rw [hmem, List.mem_cons]
      constructor
      · exact fun ⟨hx, hnew⟩ => ⟨.inr hx, hnew⟩
      · rintro ⟨rfl | hx, hne, hnotMem⟩
        · exact absurd hold (not_or.2 ⟨hne, hnotMem⟩)
        · exact ⟨hx, hne, hnotMem⟩
    · obtain ⟨news, heq, hnodup, hmem⟩ := ih ⟨file :: s.stack, s.found ++ [file]⟩
      obtain ⟨hstart, hfound⟩ := not_or.1 hold
      have hnote : s.note start file = ⟨file :: s.stack, s.found ++ [file]⟩ := by
        rw [Search.note, if_neg hold]
      have hfile : file ∉ news := fun h => ((hmem file).1 h).2.2 (by simp)
      refine ⟨file :: news, by simp [hnote, heq], List.nodup_cons.2 ⟨hfile, hnodup⟩, fun x => ?_⟩
      rw [List.mem_cons, List.mem_cons, hmem]
      by_cases hx : x = file
      · subst hx
        simp [hstart, hfound]
      · simp [hx]

/-- What is known about a search: it has found files from which dependencies lead to the start, and
the dependents of each of them are found as well, or the file is still to be looked at. -/
structure Search.Explores (g : FileGraph) (start : String) (s : Search) : Prop where
  nodup : s.found.Nodup
  ne_start : ∀ x ∈ s.found, x ≠ start
  leads : ∀ x ∈ s.found, TransGen (fun x y => x ∈ g.dependents y) x start
  stack_found : ∀ x ∈ s.stack, x = start ∨ x ∈ s.found
  pending : ∀ x, x = start ∨ x ∈ s.found →
    x ∈ s.stack ∨ ∀ y ∈ g.dependents x, y = start ∨ y ∈ s.found

theorem Search.explores_start (g : FileGraph) (start : String) :
    Explores g start ⟨[start], []⟩ where
  nodup := List.nodup_nil
  ne_start := by simp
  leads := by simp
  stack_found := by simp
  pending := by simp

/-- A file is looked at: its dependents are noted, and nothing that was found is lost. -/
theorem Search.Explores.step {file : String} {stack found : List String}
    (h : Explores g start ⟨file :: stack, found⟩) :
    ∃ news, (g.dependents file).foldl (note start) ⟨stack, found⟩ =
        ⟨news.reverse ++ stack, found ++ news⟩ ∧
      Explores g start ⟨news.reverse ++ stack, found ++ news⟩ := by
  obtain ⟨news, heq, hnodup, hmem⟩ := Search.foldl_note start (g.dependents file) ⟨stack, found⟩
  have hfile : ∀ y ∈ g.dependents file, y = start ∨ y ∈ found ++ news := by
    intro y hy
    by_cases hstart : y = start
    · exact .inl hstart
    · by_cases hfound : y ∈ found
      · exact .inr (List.mem_append_left _ hfound)
      · exact .inr (List.mem_append_right _ ((hmem y).2 ⟨hy, hstart, hfound⟩))
  refine ⟨news, heq, ⟨?_, ?_, ?_, ?_, ?_⟩⟩
  · refine List.nodup_append.2 ⟨h.nodup, hnodup, ?_⟩
    rintro x hx _ hx' rfl
    exact ((hmem x).1 hx').2.2 hx
  · intro x hx
    rcases List.mem_append.1 hx with hx | hx
    · exact h.ne_start x hx
    · exact ((hmem x).1 hx).2.1
  · intro x hx
    rcases List.mem_append.1 hx with hx | hx
    · exact h.leads x hx
    · have hdependent := ((hmem x).1 hx).1
      rcases h.stack_found file List.mem_cons_self with rfl | hfound
      · exact .single hdependent
      · exact .head hdependent (h.leads file hfound)
  · intro x hx
    rcases List.mem_append.1 hx with hx | hx
    · exact .inr (List.mem_append_right _ (List.mem_reverse.1 hx))
    · exact (h.stack_found x (List.mem_cons_of_mem _ hx)).imp_right (List.mem_append_left _)
  · intro x hx
    by_cases hnew : x ∈ news
    · exact .inl (List.mem_append_left _ (List.mem_reverse.2 hnew))
    · have hold : x = start ∨ x ∈ found :=
        hx.imp_right fun hx => (List.mem_append.1 hx).resolve_right hnew
      rcases h.pending x hold with hstack | hdone
      · rcases List.mem_cons.1 hstack with rfl | hstack
        · exact .inr hfile
        · exact .inl (List.mem_append_right _ hstack)
      · exact .inr fun y hy => (hdone y hy).imp_right (List.mem_append_left _)

/-- Counting the files of all entries one after the other. -/
theorem foldl_length_eq (entries : Table String (List String)) (n : ℕ) :
    entries.foldl (fun n e => n + e.2.length) n = n + (entries.flatMap (·.2)).length := by
  induction entries generalizing n with
  | nil => simp
  | cons e entries ih =>
    rw [List.foldl_cons, ih, List.flatMap_cons, List.length_append, Nat.add_assoc]

theorem reverseCount_eq (g : FileGraph) : g.reverseCount = (g.reverse.flatMap (·.2)).length :=
  (foldl_length_eq g.reverse 0).trans (Nat.zero_add _)

theorem mem_entries_of_mem_dependents (h : x ∈ g.dependents y) : x ∈ g.reverse.flatMap (·.2) := by
  unfold dependents at h
  cases hentry : Table.get? y g.reverse with
  | none => simp [hentry] at h
  | some files =>
    rw [hentry, Option.getD_some] at h
    exact List.mem_flatMap.2 ⟨(y, files), Table.mem_of_get? hentry, h⟩

/-- No more files are found than the graph has entries. -/
theorem Search.Explores.length_le {s : Search} (h : s.Explores g start) :
    s.found.length ≤ g.reverseCount := by
  rw [reverseCount_eq]
  refine (List.subperm_of_subset h.nodup fun x hx => ?_).length_le
  obtain ⟨y, hy, -⟩ := TransGen.head'_iff.1 (h.leads x hx)
  exact mem_entries_of_mem_dependents hy

/-- A search that takes files off the stack until none is left ends with these files. -/
inductive Search.Ends (g : FileGraph) (start : String) : Search → List String → Prop
  | done (found : List String) : Ends g start ⟨[], found⟩ found
  | step {file : String} {stack found out : List String}
      (h : Ends g start ((g.dependents file).foldl (note start) ⟨stack, found⟩) out) :
    Ends g start ⟨file :: stack, found⟩ out

/-- A search comes to an end within the bound: a file is on the stack once. -/
theorem Search.Explores.run {s : Search} (h : s.Explores g start) {fuel : ℕ}
    (hfuel : s.stack.length + g.reverseCount ≤ fuel + s.found.length) :
    s.Ends g start (g.search start fuel s) := by
  -- Each step takes one file off the stack and adds as many files to the stack as to what is found.
  induction fuel generalizing s with
  | zero =>
    have hle := h.length_le
    obtain ⟨stack, found⟩ := s
    dsimp only at hle hfuel
    obtain rfl : stack = [] := List.length_eq_zero_iff.1 (by omega)
    exact .done found
  | succ fuel ih =>
    obtain ⟨stack, found⟩ := s
    cases stack with
    | nil => exact .done found
    | cons file stack =>
      obtain ⟨news, heq, hnext⟩ := h.step
      refine .step ?_
      simp only [FileGraph.search]
      rw [heq]
      refine ih hnext ?_
      simp only [List.length_append, List.length_reverse, List.length_cons] at hfuel ⊢
      omega

/-- When a search has come to an end nothing is left to look at. -/
theorem Search.Ends.explores {s : Search} {out : List String} (h : s.Ends g start out)
    (hs : s.Explores g start) : Explores g start ⟨[], out⟩ := by
  induction h with
  | done found => exact hs
  | step _ ih =>
    obtain ⟨news, heq, hnext⟩ := hs.step
    rw [heq] at ih
    exact ih hnext

theorem ends_transitiveDependents (g : FileGraph) (start : String) :
    Search.Ends g start ⟨[start], []⟩ (g.transitiveDependents start) := by
  refine (Search.explores_start g start).run ?_
  simp only [List.length_singleton, List.length_nil]
  omega

theorem explores_transitiveDependents (g : FileGraph) (start : String) :
    Search.Explores g start ⟨[], g.transitiveDependents start⟩ :=
  (ends_transitiveDependents g start).explores (Search.explores_start g start)

/-- The transitive dependents of a file are the other files from which dependencies lead to it. -/
theorem mem_transitiveDependents (h : g.Inverse) : x ∈ g.transitiveDependents y ↔
    x ≠ y ∧ TransGen (fun x y => y ∈ g.dependencies x) x y := by
  have hrelation : (fun x y => y ∈ g.dependencies x) = fun x y => x ∈ g.dependents y :=
    funext fun x => funext fun y => propext (h x y)
  rw [hrelation]
  have hexplores := explores_transitiveDependents g y
  refine ⟨fun hx => ⟨hexplores.ne_start x hx, hexplores.leads x hx⟩, ?_⟩
  rintro ⟨hne, hpath⟩
  have hclosed : ∀ z, z = y ∨ z ∈ g.transitiveDependents y →
      ∀ w ∈ g.dependents z, w = y ∨ w ∈ g.transitiveDependents y :=
    fun z hz => (hexplores.pending z hz).resolve_left List.not_mem_nil
  have hreached : x = y ∨ x ∈ g.transitiveDependents y := by
    clear hne hexplores
    induction hpath using TransGen.head_induction_on with
    | single hstep => exact hclosed y (.inl rfl) _ hstep
    | head hstep _ ih => exact hclosed _ ih _ hstep
  exact hreached.resolve_left hne

theorem mem_foldl_addNew {xs out : List String} : x ∈ xs.foldl addNew out ↔ x ∈ out ∨ x ∈ xs := by
  rw [foldl_iff (x ∈ ·) (x = ·) (fun _ _ => mem_addNew)]
  simp

/-- The files that a change concerns are those from which dependencies lead to a changed file. -/
theorem mem_affected (h : g.Inverse) {changed : List String} : x ∈ g.affected changed ↔
    ∃ y ∈ changed, ReflTransGen (fun x y => y ∈ g.dependencies x) x y := by
  have hstep : ∀ (out : List String) (y : String),
      x ∈ (g.transitiveDependents y).foldl addNew (addNew out y) ↔
        x ∈ out ∨ ReflTransGen (fun x y => y ∈ g.dependencies x) x y := by
    intro out y
    rw [mem_foldl_addNew, mem_addNew, mem_transitiveDependents h, or_assoc,
      reflTransGen_iff_eq_or_transGen]
    by_cases hxy : x = y
    · simp [hxy]
    · simp [hxy, Ne.symm hxy]
  rw [affected, foldl_iff (x ∈ ·) _ hstep]
  simp

end FileGraph

end ComponentAtlas
