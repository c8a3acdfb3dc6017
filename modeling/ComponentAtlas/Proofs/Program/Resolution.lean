import ComponentAtlas.Program.Names
import Mathlib.Data.Finset.Card
import Mathlib.Data.List.Dedup
import Mathlib.Logic.Relation

/-!
# When the search for a name comes to an end

A search through exports visits no file twice, but each name that it looks up inside a file starts a
new search with no visited files. So a search may come back to the name that it started with.

* `Program.Asks`: looking up one name leads to looking up another one;
* `Program.exportedFrom_cases`: what one step of a search through exports can do;
* `Program.Inquiry`: what a search through exports does with the names that it looks up;
* `Program.lookup_eq_none_iff`: a name has no outcome exactly if it leads into a circle;
* `Program.ends_iff_not_circles`: which searches come to an end.
-/

namespace ComponentAtlas

open ComponentAtlas.Script
open Relation

namespace Program

variable {p : Program} {a b : String → String → Search} {q r : String × String}

/-- Looking up the name `q` leads to looking up `r`, if enough names may be looked up. -/
def Asks (p : Program) (q r : String × String) : Prop :=
  ∃ bound, r ∈ (p.nameSearch (p.lookup bound) q.1 q.2).asked

/-- Looking up an exported name leads to looking up `r`, if enough names may be looked up. -/
def ExportAsks (p : Program) (file name : String) (r : String × String) : Prop :=
  ∃ bound, r ∈ (p.exportSearch (p.lookup bound) file name).asked

/-- Looking up the name `q` leads to a name that leads back to itself. -/
def Circles (p : Program) (q : String × String) : Prop :=
  ∃ r, ReflTransGen p.Asks q r ∧ TransGen p.Asks r r

/-- The local names that a file exports, each with the file. -/
def ownNamesOf (f : SourceFile) : List (String × String) :=
  f.exports.filterMap fun
    | .own _ localName => some (localName, f.path)
    | _ => none

/-- The local names that the files of a program export. -/
def ownNames (p : Program) : List (String × String) := p.files.flatMap ownNamesOf

/-- Number of files that have not been visited. -/
def unvisited (p : Program) (visited : List String) : ℕ :=
  ((p.files.map (·.path)).toFinset \ visited.toFinset).card

/-! ### Steps of a search through exports -/

theorem mem_files_of_file? {file : String} {f : SourceFile} (h : p.file? file = some f) :
    f ∈ p.files ∧ f.path = file :=
  ⟨List.mem_of_find?_eq_some h, by simpa using List.find?_some h⟩

theorem mem_ownNames {file name exported localName : String} {f : SourceFile}
    (hf : p.file? file = some f) (hn : namedExport? f name = some (.own exported localName)) :
    (localName, file) ∈ p.ownNames := by
  obtain ⟨hmem, rfl⟩ := mem_files_of_file? hf
  exact List.mem_flatMap.2 ⟨f, hmem, List.mem_filterMap.2 ⟨_, List.mem_of_find?_eq_some hn, rfl⟩⟩

section FirstOf

variable {search : String → List String → Visit} {file : String} {visited : List String}

theorem firstOf_of_nothing (h : (search file visited).outcome = some none) (files : List String) :
    firstOf search (file :: files) visited =
      { firstOf search files (search file visited).visited with
        asked := (search file visited).asked ++
          (firstOf search files (search file visited).visited).asked } := by
  rw [firstOf, h]

theorem firstOf_of_ne (h : (search file visited).outcome ≠ some none) (files : List String) :
    firstOf search (file :: files) visited = search file visited := by
  rw [firstOf]
  split
  · next hnothing => exact absurd hnothing h
  · rfl

theorem firstOf_singleton : firstOf search [file] visited = search file visited := by
  by_cases h : (search file visited).outcome = some none
  · rw [firstOf_of_nothing h, firstOf, List.append_nil, ← h]
  · exact firstOf_of_ne h []

theorem asked_subset_firstOf (files : List String) :
    (search file visited).asked ⊆ (firstOf search (file :: files) visited).asked := by
  by_cases h : (search file visited).outcome = some none
  · rw [firstOf_of_nothing h]
    exact List.subset_append_left _ _
  · rw [firstOf_of_ne h]
    exact List.Subset.refl _

end FirstOf

/-- A step of a search ends the search, looks up a name inside the file, or goes on to other files.
Which of these it does is the same whatever is found for names inside files. -/
theorem exportedFrom_cases (p : Program) (fuel : ℕ) (file name : String) (visited : List String) :
    (∃ found vs, visited ⊆ vs ∧
      ∀ local?, exportedFrom p local? (fuel + 1) file name visited = ⟨some found, vs, []⟩) ∨
    (∃ localName, (localName, file) ∈ p.ownNames ∧
      ∀ local?, exportedFrom p local? (fuel + 1) file name visited =
        ⟨local? localName file, file :: visited, [(localName, file)]⟩) ∨
    (∃ targets name', file ∉ visited ∧ file ∈ p.files.map (·.path) ∧
      ∀ local?, exportedFrom p local? (fuel + 1) file name visited =
        firstOf (fun target visited => exportedFrom p local? fuel target name' visited)
          targets (file :: visited)) := by
  have hgrow : visited ⊆ file :: visited := List.subset_cons_self file visited
  by_cases hvisited : file ∈ visited
  · exact .inl ⟨none, visited, List.Subset.refl _, fun local? => by simp [exportedFrom, hvisited]⟩
  cases hf : p.file? file with
  | none =>
    exact .inl ⟨none, file :: visited, hgrow, fun local? => by simp [exportedFrom, hvisited, hf]⟩
  | some f =>
    have hfile : file ∈ p.files.map (·.path) := by
      obtain ⟨hmem, hpath⟩ := mem_files_of_file? hf
      exact List.mem_map.2 ⟨f, hmem, hpath⟩
    rcases hn : namedExport? f name with
      _ | ⟨exported, localName⟩ | ⟨exported, imported, module⟩ | module
    · exact .inr (.inr ⟨p.starTargets f file, name, hvisited, hfile, fun local? => by
        simp [exportedFrom, hvisited, hf, hn]⟩)
    · exact .inr (.inl ⟨localName, mem_ownNames hf hn, fun local? => by
        simp [exportedFrom, hvisited, hf, hn]⟩)
    · cases hm : p.module? file module with
      | none =>
        exact .inl ⟨some (.external module imported), file :: visited, hgrow, fun local? => by
          simp [exportedFrom, hvisited, hf, hn, hm]⟩
      | some target =>
        refine .inr (.inr ⟨[target], imported, hvisited, hfile, fun local? => ?_⟩)
        rw [firstOf_singleton]
        simp [exportedFrom, hvisited, hf, hn, hm]
    · exact .inr (.inr ⟨p.starTargets f file, name, hvisited, hfile, fun local? => by
        simp [exportedFrom, hvisited, hf, hn]⟩)

/-! ### Searches that are given up -/

/-- What `a` finds for a name, `b` finds as well. -/
def Refines (a b : String → String → Search) : Prop :=
  ∀ {name file found}, a name file = some found → b name file = some found

/-- The search `v` is the search `w`, or was given up after a part of it. -/
def Visit.Begins (v w : Visit) : Prop := v = w ∨ v.outcome = none ∧ v.asked ⊆ w.asked

theorem Visit.Begins.firstOf {search search' : String → List String → Visit}
    (h : ∀ file visited, (search file visited).Begins (search' file visited))
    (files visited : List String) :
    (firstOf search files visited).Begins (firstOf search' files visited) := by
  induction files generalizing visited with
  | nil => exact .inl rfl
  | cons file files ih =>
    rcases h file visited with heq | ⟨hnone, hasked⟩
    · by_cases hnothing : (search file visited).outcome = some none
      · have hnothing' := hnothing
        rw [heq] at hnothing'
        rw [firstOf_of_nothing hnothing, firstOf_of_nothing hnothing', ← heq]
        rcases ih (search file visited).visited with heq' | ⟨hnone', hasked'⟩
        · exact .inl (by rw [heq'])
        · refine .inr ⟨hnone', List.append_subset.2 ⟨List.subset_append_left _ _, ?_⟩⟩
          exact List.Subset.trans hasked' (List.subset_append_right _ _)
      · have hnothing' := hnothing
        rw [heq] at hnothing'
        rw [firstOf_of_ne hnothing, firstOf_of_ne hnothing']
        exact .inl heq
    · refine .inr ?_
      rw [firstOf_of_ne (by simp [hnone])]
      exact ⟨hnone, List.Subset.trans hasked (asked_subset_firstOf files)⟩

theorem exportedFrom_begins (h : Refines a b) (fuel : ℕ) (file name : String)
    (visited : List String) :
    (exportedFrom p a fuel file name visited).Begins (exportedFrom p b fuel file name visited) := by
  induction fuel generalizing file name visited with
  | zero => exact .inl rfl
  | succ fuel ih =>
    rcases exportedFrom_cases p fuel file name visited with
      ⟨found, vs, -, he⟩ | ⟨localName, -, he⟩ | ⟨targets, name', -, -, he⟩
    · rw [he, he]
      exact .inl rfl
    · rw [he, he]
      cases ha : a localName file with
      | none => exact .inr ⟨rfl, List.Subset.refl _⟩
      | some found =>
        rw [h ha]
        exact .inl rfl
    · rw [he, he]
      exact Visit.Begins.firstOf (fun target visited => ih target name' visited) targets _

/-! ### Names that a search looks up -/

theorem unvisited_le {visited vs : List String} (h : visited ⊆ vs) :
    p.unvisited vs ≤ p.unvisited visited := by
  refine Finset.card_le_card (Finset.sdiff_subset_sdiff (Finset.Subset.refl _) ?_)
  intro file hfile
  exact List.mem_toFinset.2 (h (List.mem_toFinset.1 hfile))

theorem unvisited_cons_lt {file : String} {visited : List String}
    (hfile : file ∈ p.files.map (·.path)) (hvisited : file ∉ visited) :
    p.unvisited (file :: visited) < p.unvisited visited := by
  refine Finset.card_lt_card (Finset.ssubset_iff_of_subset ?_ |>.2 ⟨file, ?_, ?_⟩)
  · intro other hother
    simp only [Finset.mem_sdiff, List.mem_toFinset, List.mem_cons, not_or] at hother ⊢
    exact ⟨hother.1, hother.2.2⟩
  · simpa using ⟨by simpa using hfile, hvisited⟩
  · simp

theorem unvisited_lt_exportBound (p : Program) (visited : List String) :
    p.unvisited visited < p.exportBound := by
  have hcard : p.unvisited visited ≤ p.files.length := by
    calc p.unvisited visited
      _ ≤ (p.files.map (·.path)).toFinset.card := Finset.card_le_card Finset.sdiff_subset
      _ ≤ (p.files.map (·.path)).length := List.toFinset_card_le _
      _ = p.files.length := List.length_map _
  unfold exportBound
  omega

/-- What a search has done that started with some visited files: it is given up only for a name
without outcome. -/
structure Visit.Faithful (p : Program) (local? : String → String → Search) (visited : List String)
    (v : Visit) : Prop where
  grows : visited ⊆ v.visited
  own : v.asked ⊆ p.ownNames
  none_iff : v.outcome = none ↔ ∃ q ∈ v.asked, local? q.1 q.2 = none

theorem Visit.Faithful.firstOf {local? : String → String → Search}
    {search : String → List String → Visit} {visited : List String}
    (h : ∀ file vs, visited ⊆ vs → (search file vs).Faithful p local? vs) (files : List String) :
    (firstOf search files visited).Faithful p local? visited := by
  induction files generalizing visited with
  | nil => exact ⟨List.Subset.refl _, List.nil_subset _, by simp [Program.firstOf]⟩
  | cons file files ih =>
    obtain ⟨hgrows, hown, hnone⟩ := h file visited (List.Subset.refl _)
    by_cases hnothing : (search file visited).outcome = some none
    · obtain ⟨hgrows', hown', hnone'⟩ :=
        ih fun other vs hvs => h other vs (List.Subset.trans hgrows hvs)
      have hanswered : ¬ ∃ q ∈ (search file visited).asked, local? q.1 q.2 = none := by
        rw [← hnone, hnothing]
        simp
      rw [firstOf_of_nothing hnothing]
      refine ⟨List.Subset.trans hgrows hgrows', List.append_subset.2 ⟨hown, hown'⟩, hnone'.trans ?_⟩
      simp only [List.mem_append, or_and_right, exists_or]
      exact ⟨.inr, fun h => h.resolve_left hanswered⟩
    · rw [firstOf_of_ne hnothing]
      exact ⟨hgrows, hown, hnone⟩

theorem exportedFrom_faithful (local? : String → String → Search) {fuel : ℕ} {visited : List String}
    (hfuel : p.unvisited visited < fuel) (file name : String) :
    (exportedFrom p local? fuel file name visited).Faithful p local? visited := by
  induction fuel generalizing file name visited with
  | zero => exact absurd hfuel (Nat.not_lt_zero _)
  | succ fuel ih =>
    rcases exportedFrom_cases p fuel file name visited with
      ⟨found, vs, hvs, he⟩ | ⟨localName, hown, he⟩ | ⟨targets, name', hvisited, hfile, he⟩
    · rw [he]
      exact ⟨hvs, List.nil_subset _, by simp⟩
    · rw [he]
      exact ⟨List.subset_cons_self _ _, by simpa using hown, by simp⟩
    · -- the file itself is visited now, so one file less is left for the other files
      have hless := unvisited_cons_lt hfile hvisited
      have hrest : ∀ target vs, file :: visited ⊆ vs →
          (exportedFrom p local? fuel target name' vs).Faithful p local? vs := by
        intro target vs hvs
        have hleft : p.unvisited vs ≤ p.unvisited (file :: visited) := unvisited_le hvs
        exact ih (by omega) target name'
      have hfaithful := Visit.Faithful.firstOf hrest targets
      rw [he]
      have hgrows := List.Subset.trans (List.subset_cons_self file visited) hfaithful.grows
      exact ⟨hgrows, hfaithful.own, hfaithful.none_iff⟩

/-- A search that looks up names inside files. It goes on in the same way when more is found for
these names, and it is given up exactly if nothing can be told about one of them. -/
structure Inquiry (p : Program) (ask : (String → String → Search) → Visit) : Prop where
  begins : ∀ {a b}, Refines a b → (ask a).Begins (ask b)
  own : ∀ local?, (ask local?).asked ⊆ p.ownNames
  none_iff : ∀ local?, (ask local?).outcome = none ↔ ∃ q ∈ (ask local?).asked, local? q.1 q.2 = none

theorem exportSearch_inquiry (p : Program) (file name : String) :
    p.Inquiry fun local? => p.exportSearch local? file name where
  begins h := exportedFrom_begins h p.exportBound file name []
  own local? := (exportedFrom_faithful local? (unvisited_lt_exportBound p []) file name).own
  none_iff local? := (exportedFrom_faithful local? (unvisited_lt_exportBound p []) file name).none_iff

theorem inquiry_of_found (p : Program) (found : Option Target) :
    p.Inquiry fun _ => ⟨some found, [], []⟩ where
  begins _ := .inl rfl
  own _ := List.nil_subset _
  none_iff _ := by simp

theorem nameSearch_inquiry (p : Program) (name file : String) :
    p.Inquiry fun local? => p.nameSearch local? name file := by
  unfold nameSearch
  split
  · exact inquiry_of_found p none
  · split
    · exact inquiry_of_found p _
    · split
      · exact inquiry_of_found p none
      · split
        · exact inquiry_of_found p _
        · exact exportSearch_inquiry p _ _
        · exact exportSearch_inquiry p _ _
        · exact inquiry_of_found p _
        · exact inquiry_of_found p _
        · exact inquiry_of_found p _

/-! ### Circles -/

theorem lookup_refines_succ (p : Program) (n : ℕ) : Refines (p.lookup n) (p.lookup (n + 1)) := by
  induction n with
  | zero => exact fun h => nomatch h
  | succ n ih =>
    intro name file found h
    rcases (nameSearch_inquiry p name file).begins ih with heq | ⟨hnone, -⟩
    · rw [lookup, ← heq]
      exact h
    · rw [lookup, hnone] at h
      cases h

theorem lookup_refines {m n : ℕ} (h : m ≤ n) : Refines (p.lookup m) (p.lookup n) := by
  induction n, h using Nat.le_induction with
  | base => exact id
  | succ n _ ih => exact fun h => lookup_refines_succ p n (ih h)

/-- The names that a search looks up, with whatever bound, all have an outcome if the search has
one. -/
theorem Inquiry.exists_found {ask : (String → String → Search) → Visit} (h : p.Inquiry ask) {m n : ℕ}
    (hn : (ask (p.lookup n)).outcome ≠ none) (hr : r ∈ (ask (p.lookup m)).asked) :
    ∃ found, p.lookup n r.1 r.2 = some found := by
  have hmem : r ∈ (ask (p.lookup n)).asked := by
    rcases Nat.le_total m n with hle | hle
    · rcases h.begins (lookup_refines hle) with heq | ⟨-, hasked⟩
      · rwa [← heq]
      · exact hasked hr
    · rcases h.begins (lookup_refines hle) with heq | ⟨hnone, -⟩
      · rwa [heq]
      · exact absurd hnone hn
  rw [← Option.ne_none_iff_exists']
  exact fun hnone => hn ((h.none_iff _).2 ⟨r, hmem, hnone⟩)

/-- A name that leads into a circle asks for one that does. -/
theorem Circles.exists_asks (h : p.Circles q) : ∃ r, p.Asks q r ∧ p.Circles r := by
  obtain ⟨s, hqs, hss⟩ := h
  rcases hqs.cases_head with rfl | ⟨r, hqr, hrs⟩
  · obtain ⟨r, hqr, hrq⟩ := TransGen.head'_iff.1 hss
    exact ⟨r, hqr, q, hrq, hss⟩
  · exact ⟨r, hqr, s, hrs, hss⟩

theorem not_circles_of_lookup {n : ℕ} {found : Option Target} (h : p.lookup n q.1 q.2 = some found) :
    ¬ p.Circles q := by
  induction n generalizing q found with
  | zero => cases h
  | succ n ih =>
    intro hq
    obtain ⟨r, ⟨m, hr⟩, hcircle⟩ := hq.exists_asks
    have hend : (p.nameSearch (p.lookup n) q.1 q.2).outcome ≠ none := by
      rw [lookup] at h
      simp [h]
    obtain ⟨found', hfound⟩ := (nameSearch_inquiry p q.1 q.2).exists_found hend hr
    exact ih hfound hcircle

theorem Inquiry.not_circles {ask : (String → String → Search) → Visit} (h : p.Inquiry ask) {m n : ℕ}
    (hn : (ask (p.lookup n)).outcome ≠ none) (hr : r ∈ (ask (p.lookup m)).asked) : ¬ p.Circles r := by
  obtain ⟨found, hfound⟩ := h.exists_found hn hr
  exact not_circles_of_lookup hfound

/-- A name that is still without outcome leads into a circle, if more names could be looked up than
there are. The names on the way to it are all different. -/
theorem circles_of_trail {n : ℕ} {trail : List (String × String)} (h : p.lookup n q.1 q.2 = none)
    (hbound : p.ownNames.length < n + trail.length) (hnodup : trail.Nodup)
    (hown : trail ⊆ p.ownNames) (hlead : ∀ t ∈ trail, ReflTransGen p.Asks t q) : p.Circles q := by
  induction n generalizing q trail with
  | zero =>
    have hle : trail.length ≤ p.ownNames.length := (List.subperm_of_subset hnodup hown).length_le
    omega
  | succ n ih =>
    rw [lookup] at h
    obtain ⟨r, hr, hnone⟩ := ((nameSearch_inquiry p q.1 q.2).none_iff _).1 h
    have hasks : p.Asks q r := ⟨n, hr⟩
    by_cases hmem : r ∈ trail
    · -- the search has come back to a name on its way
      exact ⟨r, .single hasks, TransGen.tail' (hlead r hmem) hasks⟩
    · have hr_own := (nameSearch_inquiry p q.1 q.2).own _ hr
      have hlead' : ∀ t ∈ r :: trail, ReflTransGen p.Asks t r := by
        intro t ht
        rcases List.mem_cons.1 ht with rfl | ht
        · exact .refl
        · exact (hlead t ht).tail hasks
      obtain ⟨s, hrs, hss⟩ := ih hnone (by rw [List.length_cons]; omega)
        (List.nodup_cons.2 ⟨hmem, hnodup⟩) (List.cons_subset.2 ⟨hr_own, hown⟩) hlead'
      exact ⟨s, .head hasks hrs, hss⟩

theorem lookup_eq_none_iff {n : ℕ} (hn : p.ownNames.length < n) :
    p.lookup n q.1 q.2 = none ↔ p.Circles q := by
  constructor
  · intro h
    exact circles_of_trail h (by simpa using hn) List.nodup_nil (List.nil_subset _) (by simp)
  · intro hq
    by_contra hsome
    obtain ⟨found, hfound⟩ := Option.ne_none_iff_exists'.1 hsome
    exact not_circles_of_lookup hfound hq

theorem length_ownNamesOf_le (f : SourceFile) : (ownNamesOf f).length ≤ f.exports.length :=
  List.length_filterMap_le _ _

theorem length_ownNames_lt (p : Program) : p.ownNames.length < p.lookupBound := by
  have hfold : ∀ (files : List SourceFile) (k : ℕ),
      (files.flatMap ownNamesOf).length + k ≤ files.foldl (fun n f => n + f.exports.length + 1) k := by
    intro files
    induction files with
    | nil => simp
    | cons f files ih =>
      intro k
      have hf := length_ownNamesOf_le f
      have hfiles := ih (k + f.exports.length + 1)
      rw [List.flatMap_cons, List.length_append, List.foldl_cons]
      omega
  have hown := hfold p.files 2
  unfold ownNames lookupBound
  omega

/-! ### Searches that come to an end -/

/-- The bound is large enough for each name whose search comes to an end. -/
theorem lookup_lookupBound {n : ℕ} {found : Option Target} (h : p.lookup n q.1 q.2 = some found) :
    p.lookup p.lookupBound q.1 q.2 = some found := by
  rcases Nat.le_total n p.lookupBound with hle | hle
  · exact lookup_refines hle h
  · cases hbound : p.lookup p.lookupBound q.1 q.2 with
    | none =>
      have hcircle := (lookup_eq_none_iff (length_ownNames_lt p)).1 hbound
      exact absurd hcircle (not_circles_of_lookup h)
    | some found' => rw [← h, lookup_refines hle hbound]

theorem Inquiry.exists_circles {ask : (String → String → Search) → Visit} (h : p.Inquiry ask)
    (hnone : (ask (p.lookup p.lookupBound)).outcome = none) :
    ∃ r ∈ (ask (p.lookup p.lookupBound)).asked, p.Circles r := by
  obtain ⟨r, hr, hr_none⟩ := (h.none_iff _).1 hnone
  exact ⟨r, hr, (lookup_eq_none_iff (length_ownNames_lt p)).1 hr_none⟩

theorem Inquiry.outcome_lookupBound {ask : (String → String → Search) → Visit} (h : p.Inquiry ask)
    {n : ℕ} {found : Option Target} (hn : (ask (p.lookup n)).outcome = some found) :
    (ask (p.lookup p.lookupBound)).outcome = some found := by
  have hend : (ask (p.lookup n)).outcome ≠ none := by simp [hn]
  rcases Nat.le_total n p.lookupBound with hle | hle
  · rcases h.begins (lookup_refines hle) with heq | ⟨hnone, -⟩
    · rw [← heq, hn]
    · exact absurd hnone hend
  · rcases h.begins (lookup_refines hle) with heq | ⟨hnone, -⟩
    · rw [heq, hn]
    · obtain ⟨r, hr, hcircle⟩ := h.exists_circles hnone
      exact absurd hcircle (h.not_circles hend hr)

/-- The search for a name comes to an end exactly if the name does not lead into a circle, and the
search for an exported name exactly if none of the names that it looks up does. What is found in the
end does not depend on the bound. -/
theorem ends_iff_not_circles (p : Program) (name file : String) :
    ((∃ bound, (p.lookup bound name file).isSome) ↔ ¬ p.Circles (name, file)) ∧
    ((∃ bound, (p.exported bound file name).isSome) ↔ ∀ r, p.ExportAsks file name r → ¬ p.Circles r) ∧
    (∀ bound found, p.lookup bound name file = some found → p.identifier? name file = found) ∧
    (∀ bound found, p.exported bound file name = some found → p.export? file name = found) := by
  have hexport := exportSearch_inquiry p file name
  refine ⟨⟨?_, ?_⟩, ⟨?_, ?_⟩, ?_, ?_⟩
  · rintro ⟨bound, hbound⟩
    obtain ⟨found, hfound⟩ := Option.isSome_iff_exists.1 hbound
    exact not_circles_of_lookup hfound
  · intro hcircle
    refine ⟨p.lookupBound, Option.isSome_iff_ne_none.2 fun hnone => hcircle ?_⟩
    exact (lookup_eq_none_iff (length_ownNames_lt p)).1 hnone
  · rintro ⟨bound, hbound⟩ r ⟨m, hr⟩
    exact hexport.not_circles (Option.isSome_iff_ne_none.1 hbound) hr
  · intro hcircles
    refine ⟨p.lookupBound, Option.isSome_iff_ne_none.2 fun hnone => ?_⟩
    obtain ⟨r, hr, hcircle⟩ := hexport.exists_circles hnone
    exact hcircles r ⟨p.lookupBound, hr⟩ hcircle
  · intro bound found hfound
    rw [identifier?, lookup_lookupBound (q := (name, file)) hfound]
    rfl
  · intro bound found hfound
    rw [export?, exported, hexport.outcome_lookupBound hfound]
    rfl

/-- Two files that import a name from each other and export it again. -/
def circularHost : Host :=
  .ofList [("/a.ts", "import { x } from './b'; export { x };"),
    ("/b.ts", "import { x } from './a'; export { x };")]

/-- The program of these files. -/
def circularNames : Program := ((Program.load circularHost ["/a.ts", "/b.ts"] {}).toOption).getD {}

theorem circularNames_asks : circularNames.Asks ("x", "/a.ts") ("x", "/b.ts") ∧
    circularNames.Asks ("x", "/b.ts") ("x", "/a.ts") ∧
    circularNames.ExportAsks "/a.ts" "x" ("x", "/a.ts") :=
  ⟨⟨0, by decide +kernel⟩, ⟨0, by decide +kernel⟩, ⟨0, by decide +kernel⟩⟩

/-- The search for such a name does not come to an end. -/
theorem circularNames_endless :
    (Program.load circularHost ["/a.ts", "/b.ts"] {}).toOption = some circularNames ∧
    (¬ ∃ bound, (circularNames.lookup bound "x" "/a.ts").isSome) ∧
    ¬ ∃ bound, (circularNames.exported bound "/a.ts" "x").isSome := by
  have hload : (Program.load circularHost ["/a.ts", "/b.ts"] {}).toOption.isSome := by decide +kernel
  obtain ⟨hab, hba, hexport⟩ := circularNames_asks
  have hcircle : circularNames.Circles ("x", "/a.ts") := ⟨_, .refl, .tail (.single hab) hba⟩
  refine ⟨?_, ?_, ?_⟩
  · obtain ⟨p, hp⟩ := Option.isSome_iff_exists.1 hload
    rw [circularNames, hp]
    rfl
  · rintro ⟨bound, hbound⟩
    obtain ⟨found, hfound⟩ := Option.isSome_iff_exists.1 hbound
    exact not_circles_of_lookup hfound hcircle
  · rintro ⟨bound, hbound⟩
    obtain ⟨m, hr⟩ := hexport
    have hend := Option.isSome_iff_ne_none.1 hbound
    exact (exportSearch_inquiry circularNames "/a.ts" "x").not_circles hend hr hcircle

end Program

end ComponentAtlas
