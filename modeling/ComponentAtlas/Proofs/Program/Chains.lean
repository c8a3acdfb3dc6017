import ComponentAtlas.Proofs.Program.Resolution
import Mathlib.Data.List.Lex
import Mathlib.Order.Defs.LinearOrder

/-!
# Chains of exports

An exported name leads over further exports and imports to what it refers to in the end. The search
for it follows these chains, one `export *` after the other, and goes into no file twice.

* `Program.localLead?`, `Program.exportStep`: where a name of a file, and an exported name, leads to;
* `Program.Leads`: a chain of exports from an exported name to its end;
* `Program.Chain`, `Program.FirstChain`: chains with the choices they make among `export *`, and the
  first of them;
* `Program.Exhausted`: what is known about the names that a search has visited without result;
* `Program.exportedFrom_chain`: what a search finds, in files that are reached by one name each;
* `Program.export_chains`: what an exported name refers to.
-/

namespace ComponentAtlas

open ComponentAtlas.Script
open Relation

namespace Program

/-- Where a name leads to: its end, or a name exported by another file. -/
inductive Lead
  | found (target : Target)
  | exported (file name : String)
  deriving DecidableEq, Repr

/-- Where a name of a file leads to: its declaration, or what its import names. -/
def localLead? (p : Program) (name file : String) : Option Lead :=
  match p.file? file with
  | none => none
  | some f =>
    match f.declarations.find? fun id => ((p.declaration? id).map (·.name)) == some name with
    | some id => some (.found (.declaration id))
    | none =>
      match f.importOf? name with
      | none => none
      | some i =>
        match p.module? file i.module, i.imported with
        | some target, .whole => some (.found (.whole target))
        | some target, .named imported => some (.exported target imported)
        | some target, .default => some (.exported target "default")
        | none, .named imported => some (.found (.external i.module imported))
        | none, .default => some (.found (.external i.module "default"))
        | none, .whole => some (.found (.external i.module "*"))

/-- Where an exported name leads to: its end, a name inside the file, or a name exported by other
files, which are tried in order. -/
inductive Step
  | found (target : Target)
  | own (localName : String)
  | onward (name : String) (files : List String)
  deriving DecidableEq, Repr

/-- Where a name exported by a file leads to. Its first export with the name counts, and each
`export *` if there is none. -/
def exportStep (p : Program) (file name : String) : Step :=
  match p.file? file with
  | none => .onward name []
  | some f =>
    match namedExport? f name with
    | some (.own _ localName) => .own localName
    | some (.reexport _ imported module) =>
      match p.module? file module with
      | some target => .onward imported [target]
      | none => .found (.external module imported)
    | _ => .onward name (p.starTargets f file)

variable {p : Program} {local? : String → String → Search} {q r s : String × String} {t : Target}

theorem nameSearch_eq (p : Program) (local? : String → String → Search) (name file : String) :
    p.nameSearch local? name file =
      match p.localLead? name file with
      | none => ⟨some none, [], []⟩
      | some (.found target) => ⟨some (some target), [], []⟩
      | some (.exported file name) => p.exportSearch local? file name := by
  unfold nameSearch localLead?
  cases p.file? file with
  | none => rfl
  | some f =>
    dsimp only
    generalize List.find? _ f.declarations = declared
    cases declared with
    | some id => rfl
    | none =>
      cases f.importOf? name with
      | none => rfl
      | some i =>
        dsimp only
        cases p.module? file i.module <;> cases i.imported <;> rfl

theorem exportedFrom_of_mem {fuel : ℕ} {file name : String} {visited : List String}
    (h : file ∈ visited) :
    exportedFrom p local? (fuel + 1) file name visited = ⟨some none, visited, []⟩ := by
  simp [exportedFrom, h]

theorem exportedFrom_of_notMem {fuel : ℕ} {file name : String} {visited : List String}
    (h : file ∉ visited) :
    exportedFrom p local? (fuel + 1) file name visited =
      match p.exportStep file name with
      | .found target => ⟨some (some target), file :: visited, []⟩
      | .own localName => ⟨local? localName file, file :: visited, [(localName, file)]⟩
      | .onward name files =>
        firstOf (fun target visited => exportedFrom p local? fuel target name visited)
          files (file :: visited) := by
  rw [exportedFrom, if_neg (by simpa using h), exportStep]
  cases hf : p.file? file with
  | none => rfl
  | some f =>
    dsimp only
    rcases hn : namedExport? f name with
      _ | ⟨exported, localName⟩ | ⟨exported, imported, module⟩ | module
    · rfl
    · rfl
    · dsimp only
      cases p.module? file module with
      | none => rfl
      | some target => exact firstOf_singleton.symm
    · rfl

/-! ### Chains -/

/-- An exported name leads to a name exported by another file, over an export of its file. -/
def Links (p : Program) (q r : String × String) : Prop :=
  ∃ files, p.exportStep q.1 q.2 = .onward r.2 files ∧ r.1 ∈ files

/-- An exported name leads to a name exported by another file, over an import of its file. -/
def Enters (p : Program) (q r : String × String) : Prop :=
  ∃ localName, p.exportStep q.1 q.2 = .own localName ∧
    p.localLead? localName q.1 = some (.exported r.1 r.2)

/-- An exported name leads to its end. -/
def Ends (p : Program) (q : String × String) (t : Target) : Prop :=
  p.exportStep q.1 q.2 = .found t ∨ ∃ localName, p.exportStep q.1 q.2 = .own localName ∧
    p.localLead? localName q.1 = some (.found t)

/-- An exported name leads to a name exported by another file. -/
def Continues (p : Program) (q r : String × String) : Prop := p.Links q r ∨ p.Enters q r

/-- There is a chain from an exported name to an end. -/
def Leads (p : Program) (q : String × String) (t : Target) : Prop :=
  ∃ r, ReflTransGen p.Continues q r ∧ p.Ends r t

/-- A chain from an exported name to an end. It does not come back to a name of the trail, and, as
long as it does not follow an import, to none of its own names. The numbers are the places of the
exports that it follows among those which could be followed. -/
inductive Chain (p : Program) :
    List (String × String) → String × String → List ℕ → Target → Prop
  | ends {trail q t} (hq : q ∉ trail) (h : p.Ends q t) : Chain p trail q [] t
  | enters {trail q r choices t} (hq : q ∉ trail) (h : p.Enters q r) (hr : Chain p [] r choices t) :
    Chain p trail q choices t
  | links {trail q name files i file choices t} (hq : q ∉ trail)
    (h : p.exportStep q.1 q.2 = .onward name files) (hi : files[i]? = some file)
    (hr : Chain p (q :: trail) (file, name) choices t) : Chain p trail q (i :: choices) t

/-- A chain that comes before all others, in the order of the exports that could be followed. -/
def FirstChain (p : Program) (trail : List (String × String)) (q : String × String) (choices : List ℕ)
    (t : Target) : Prop :=
  p.Chain trail q choices t ∧ ∀ choices' t', p.Chain trail q choices' t' → ¬ choices' < choices

theorem Ends.leads (h : p.Ends q t) : p.Leads q t := ⟨q, .refl, h⟩

theorem Continues.leads (h : p.Continues q r) (hr : p.Leads r t) : p.Leads q t := by
  obtain ⟨s, hrs, hs⟩ := hr
  exact ⟨s, .head h hrs, hs⟩

theorem continues_of_links (h : ReflTransGen p.Links q r) : ReflTransGen p.Continues q r :=
  ReflTransGen.mono (fun _ _ => Or.inl) _ _ h

theorem leads_own_iff {localName : String} (hq : p.exportStep q.1 q.2 = .own localName) :
    p.Leads q t ↔ p.localLead? localName q.1 = some (.found t) ∨
      ∃ r : String × String, p.localLead? localName q.1 = some (.exported r.1 r.2) ∧ p.Leads r t := by
  constructor
  · rintro ⟨s, hqs, hs⟩
    rcases hqs.cases_head with rfl | ⟨r, ⟨files, h, -⟩ | ⟨localName', h, hlead⟩, hrs⟩
    · rcases hs with h | ⟨localName', h, hlead⟩
      · cases hq.symm.trans h
      · cases hq.symm.trans h
        exact .inl hlead
    · cases hq.symm.trans h
    · cases hq.symm.trans h
      exact .inr ⟨r, hlead, s, hrs, hs⟩
  · rintro (hlead | ⟨r, hlead, hr⟩)
    · exact Ends.leads (.inr ⟨localName, hq, hlead⟩)
    · exact Continues.leads (.inr ⟨localName, hq, hlead⟩) hr

theorem links_of_getElem? {name file : String} {files : List String} {i : ℕ}
    (h : p.exportStep q.1 q.2 = .onward name files) (hi : files[i]? = some file) :
    p.Links q (file, name) :=
  ⟨files, h, List.mem_of_getElem? hi⟩

theorem Chain.leads {trail : List (String × String)} {choices : List ℕ}
    (h : p.Chain trail q choices t) : p.Leads q t := by
  induction h with
  | ends hq h => exact h.leads
  | enters hq h _ ih => exact Continues.leads (.inr h) ih
  | links hq h hi _ ih => exact Continues.leads (.inl (links_of_getElem? h hi)) ih

section Inversion

variable {trail : List (String × String)} {choices : List ℕ}

theorem Chain.of_found {t' : Target} (h : p.Chain trail q choices t)
    (hq : p.exportStep q.1 q.2 = .found t') : choices = [] ∧ t = t' := by
  cases h with
  | ends _ h =>
    rcases h with h | ⟨localName, h, -⟩
    · cases hq.symm.trans h
      exact ⟨rfl, rfl⟩
    · cases hq.symm.trans h
  | enters _ h _ =>
    obtain ⟨localName, h, -⟩ := h
    cases hq.symm.trans h
  | links _ h _ _ => cases hq.symm.trans h

theorem chain_own_iff {localName : String} (hq : p.exportStep q.1 q.2 = .own localName) :
    p.Chain trail q choices t ↔ q ∉ trail ∧
      (p.localLead? localName q.1 = some (.found t) ∧ choices = [] ∨
        ∃ r : String × String, p.localLead? localName q.1 = some (.exported r.1 r.2) ∧
          p.Chain [] r choices t) := by
  constructor
  · intro h
    cases h with
    | ends hnot h =>
      rcases h with h | ⟨localName', h, hlead⟩
      · cases hq.symm.trans h
      · cases hq.symm.trans h
        exact ⟨hnot, .inl ⟨hlead, rfl⟩⟩
    | enters hnot h hr =>
      obtain ⟨localName', h, hlead⟩ := h
      cases hq.symm.trans h
      exact ⟨hnot, .inr ⟨_, hlead, hr⟩⟩
    | links _ h _ _ => cases hq.symm.trans h
  · rintro ⟨hnot, ⟨hlead, rfl⟩ | ⟨r, hlead, hr⟩⟩
    · exact .ends hnot (.inr ⟨localName, hq, hlead⟩)
    · exact .enters hnot ⟨localName, hq, hlead⟩ hr

theorem Chain.of_onward {name : String} {files : List String} (h : p.Chain trail q choices t)
    (hq : p.exportStep q.1 q.2 = .onward name files) :
    ∃ i file rest, choices = i :: rest ∧ files[i]? = some file ∧
      p.Chain (q :: trail) (file, name) rest t := by
  cases h with
  | ends _ h =>
    rcases h with h | ⟨localName, h, -⟩ <;> cases hq.symm.trans h
  | enters _ h _ =>
    obtain ⟨localName, h, -⟩ := h
    cases hq.symm.trans h
  | links _ h hi hr =>
    cases hq.symm.trans h
    exact ⟨_, _, _, rfl, hi, hr⟩

end Inversion

/-- A chain is determined by its choices. -/
theorem Chain.unique {trail : List (String × String)} {choices : List ℕ} {t' : Target}
    (h : p.Chain trail q choices t) (h' : p.Chain trail q choices t') : t = t' := by
  induction h generalizing t' with
  | ends hq h =>
    rcases h with h | ⟨localName, h, hlead⟩
    · exact (h'.of_found h).2.symm
    · rcases ((chain_own_iff h).1 h').2 with ⟨hlead', -⟩ | ⟨r, hlead', -⟩
      · cases hlead.symm.trans hlead'
        rfl
      · cases hlead.symm.trans hlead'
  | enters hq h _ ih =>
    obtain ⟨localName, h, hlead⟩ := h
    rcases ((chain_own_iff h).1 h').2 with ⟨hlead', -⟩ | ⟨⟨file, name⟩, hlead', hr⟩
    · cases hlead.symm.trans hlead'
    · obtain ⟨rfl, rfl⟩ : file = _ ∧ name = _ := by simpa using hlead'.symm.trans hlead
      exact ih hr
  | links hq h hi _ ih =>
    obtain ⟨i, file, rest, heq, hi', hr⟩ := h'.of_onward h
    cases heq
    cases hi.symm.trans hi'
    exact ih hr

theorem FirstChain.unique {trail : List (String × String)} {choices choices' : List ℕ} {t' : Target}
    (h : p.FirstChain trail q choices t) (h' : p.FirstChain trail q choices' t') : t = t' := by
  rcases lt_trichotomy choices choices' with hlt | rfl | hlt
  · exact absurd hlt (h'.2 _ _ h.1)
  · exact h.1.unique h'.1
  · exact absurd hlt (h.2 _ _ h'.1)

/-- The first chain from a name is the first one from the first file that has one. -/
theorem FirstChain.links {trail : List (String × String)} {name file : String} {files : List String}
    {i : ℕ} {choices : List ℕ} (hq : q ∉ trail) (h : p.exportStep q.1 q.2 = .onward name files)
    (hi : files[i]? = some file) (hfirst : p.FirstChain (q :: trail) (file, name) choices t)
    (hnone : ∀ j < i, ∀ file', files[j]? = some file' →
      ∀ choices' t', ¬ p.Chain (q :: trail) (file', name) choices' t') :
    p.FirstChain trail q (i :: choices) t := by
  refine ⟨.links hq h hi hfirst.1, fun choices' t' h' hlt => ?_⟩
  obtain ⟨j, file', rest, rfl, hj, hr⟩ := h'.of_onward h
  rcases List.cons_lt_cons_iff.1 hlt with hji | ⟨rfl, hrest⟩
  · exact hnone j hji file' hj rest t' hr
  · cases hi.symm.trans hj
    exact hfirst.2 rest t' hr hrest

/-- A chain that goes into the file of its first name only has to keep off the trail there. -/
theorem FirstChain.keepOff {trail : List (String × String)} {localName : String} {choices : List ℕ}
    (h : p.FirstChain [] q choices t) (hq : p.exportStep q.1 q.2 = .own localName) (hnot : q ∉ trail) :
    p.FirstChain trail q choices t := by
  refine ⟨(chain_own_iff hq).2 ⟨hnot, ((chain_own_iff hq).1 h.1).2⟩, fun choices' t' h' => ?_⟩
  exact h.2 choices' t' ((chain_own_iff hq).2 ⟨List.not_mem_nil, ((chain_own_iff hq).1 h').2⟩)

/-! ### Names that were visited without result -/

/-- A name that has no end itself. -/
def Barren (p : Program) (q : String × String) : Prop :=
  (∃ localName, p.exportStep q.1 q.2 = .own localName ∧ ∀ t, ¬ p.Leads q t) ∨
    ∃ name files, p.exportStep q.1 q.2 = .onward name files

/-- The names that a search has visited, without those of the trail that it is on, have no end
themselves, and all that they lead to over exports was visited as well. -/
def Exhausted (p : Program) (visited trail : List (String × String)) : Prop :=
  ∀ q ∈ visited, q ∉ trail → p.Barren q ∧ ∀ r, p.Links q r → r ∈ visited

theorem Exhausted.cons {visited trail : List (String × String)} (h : p.Exhausted visited trail)
    (q : String × String) : p.Exhausted visited (q :: trail) :=
  fun r hr hnot => h r hr fun hmem => hnot (List.mem_cons_of_mem q hmem)

theorem Exhausted.visit {visited trail : List (String × String)} (h : p.Exhausted visited trail)
    (q : String × String) : p.Exhausted (q :: visited) (q :: trail) := by
  intro r hr hnot
  obtain ⟨hne, hnot⟩ := not_or.1 (List.mem_cons.not.1 hnot)
  obtain ⟨hbarren, hlinks⟩ := h r (List.mem_of_ne_of_mem hne hr) hnot
  exact ⟨hbarren, fun s hs => List.mem_cons_of_mem q (hlinks s hs)⟩

/-- A name that is done with can be taken from the trail. -/
theorem Exhausted.leave {visited trail : List (String × String)}
    (h : p.Exhausted visited (q :: trail)) (hq : p.Barren q)
    (hlinks : ∀ r, p.Links q r → r ∈ visited) : p.Exhausted visited trail := by
  intro r hr hnot
  by_cases hrq : r = q
  · subst hrq
    exact ⟨hq, hlinks⟩
  · exact h r hr (List.not_mem_cons_of_ne_of_not_mem hrq hnot)

theorem Barren.not_ends (h : p.Barren q) : ¬ p.Ends q t := by
  intro hends
  rcases h with ⟨localName, -, hnone⟩ | ⟨name, files, h⟩
  · exact hnone t hends.leads
  · rcases hends with h' | ⟨localName, h', -⟩ <;> cases h.symm.trans h'

theorem Barren.not_enters (h : p.Barren q) (henters : p.Enters q r) : ¬ p.Leads r t := by
  intro hleads
  rcases h with ⟨localName, -, hnone⟩ | ⟨name, files, h⟩
  · exact hnone t (Continues.leads (.inr henters) hleads)
  · obtain ⟨localName, h', -⟩ := henters
    cases h.symm.trans h'

/-- No chain that keeps off the trail goes through a visited name. -/
theorem Exhausted.not_chain {visited trail : List (String × String)} {choices : List ℕ}
    (h : p.Exhausted visited trail) (hq : q ∈ visited) : ¬ p.Chain trail q choices t := by
  intro hchain
  induction hchain with
  | ends hnot hends => exact (h _ hq hnot).1.not_ends hends
  | enters hnot henters hr _ => exact (h _ hq hnot).1.not_enters henters hr.leads
  | links hnot hstep hi _ ih => exact ih (h.cons _) ((h _ hq hnot).2 _ (links_of_getElem? hstep hi))

theorem Exhausted.not_leads {visited : List (String × String)} (h : p.Exhausted visited [])
    (hq : q ∈ visited) : ¬ p.Leads q t := by
  rintro ⟨r, hqr, hr⟩
  induction hqr using ReflTransGen.head_induction_on with
  | refl => exact (h _ hq List.not_mem_nil).1.not_ends hr
  | head hstep hrest ih =>
    obtain ⟨hbarren, hlinks⟩ := h _ hq List.not_mem_nil
    rcases hstep with hlink | henters
    · exact ih (hlinks _ hlink)
    · exact hbarren.not_enters henters ⟨r, hrest, hr⟩

/-! ### What a search finds -/

/-- No file can be reached from `q` over exports by two different names. -/
def OneName (p : Program) (q : String × String) : Prop :=
  ∀ r s, ReflTransGen p.Links q r → ReflTransGen p.Links q s → r.1 = s.1 → r = s

/-- What a search finds inside the file of an exported name is the end of the first chain, and it
finds nothing only if there is no chain. -/
def LooksUp (p : Program) (local? : String → String → Search) (q : String × String) : Prop :=
  ∀ localName, p.exportStep q.1 q.2 = .own localName →
    (∀ t, local? localName q.1 = some (some t) → ∃ choices, p.FirstChain [] q choices t) ∧
    (local? localName q.1 = some none → ∀ t, ¬ p.Leads q t)

/-- What is known about the names visited by a search that came from `start` over `trail`. -/
structure Visited (p : Program) (start : String × String) (trail visited : List (String × String)) :
    Prop where
  trail_subset : trail ⊆ visited
  reached : ∀ r ∈ visited, ReflTransGen p.Links start r
  exhausted : p.Exhausted visited trail

/-- What is known about a search that has ended: it has found the first end, or it has visited more
names without result, among them those that were sought. -/
structure Searched (p : Program) (start : String × String) (trail visited : List (String × String))
    (sought : String × String → Prop) (first : Target → Prop) (v : Visit) : Prop where
  found : ∀ t, v.outcome = some (some t) → first t
  nothing : v.outcome = some none → ∃ visited' : List (String × String),
    v.visited = visited'.map Prod.fst ∧ visited ⊆ visited' ∧ (∀ r, sought r → r ∈ visited') ∧
      p.Visited start trail visited'

section Search

variable {start : String × String} {trail visited : List (String × String)}

theorem Visited.visit (h : p.Visited start trail visited) (hq : ReflTransGen p.Links start q) :
    p.Visited start (q :: trail) (q :: visited) where
  trail_subset := List.cons_subset_cons q h.trail_subset
  reached := List.forall_mem_cons.2 ⟨hq, h.reached⟩
  exhausted := h.exhausted.visit q

theorem Visited.leave (h : p.Visited start (q :: trail) visited) (hq : p.Barren q)
    (hlinks : ∀ r, p.Links q r → r ∈ visited) : p.Visited start trail visited where
  trail_subset := (List.cons_subset.1 h.trail_subset).2
  reached := h.reached
  exhausted := h.exhausted.leave hq hlinks

/-- Files are searched one after the other. Those that come before the file with a result have no
chain. -/
theorem firstOf_searched (search : String → List String → Visit) {name : String} (files : List String)
    (hvisited : p.Visited start trail visited)
    (hsearch : ∀ file ∈ files, ∀ visited, p.Visited start trail visited →
      p.Searched start trail visited (· = (file, name))
        (fun t => ∃ choices, p.FirstChain trail (file, name) choices t)
        (search file (visited.map Prod.fst))) :
    p.Searched start trail visited (fun r => r.1 ∈ files ∧ r.2 = name)
      (fun t => ∃ (i : ℕ) (file : String) (choices : List ℕ), files[i]? = some file ∧
        p.FirstChain trail (file, name) choices t ∧
        ∀ j < i, ∀ file', files[j]? = some file' →
          ∀ choices' t', ¬ p.Chain trail (file', name) choices' t')
      (firstOf search files (visited.map Prod.fst)) := by
  induction files generalizing visited with
  | nil =>
    exact ⟨nofun, fun _ => ⟨visited, rfl, List.Subset.refl _, by simp, hvisited⟩⟩
  | cons file files ih =>
    obtain ⟨hfound, hnothing⟩ := hsearch file List.mem_cons_self visited hvisited
    by_cases hnone : (search file (visited.map Prod.fst)).outcome = some none
    · obtain ⟨visited₁, hmap, hgrow, hfile, hvisited₁⟩ := hnothing hnone
      obtain ⟨hfound', hnothing'⟩ := ih hvisited₁ fun file' hfile' =>
        hsearch file' (List.mem_cons_of_mem file hfile')
      rw [firstOf_of_nothing hnone, hmap]
      refine ⟨fun t ht => ?_, fun ht => ?_⟩
      · obtain ⟨i, file', choices, hi, hfirst, hearlier⟩ := hfound' t ht
        refine ⟨i + 1, file', choices, hi, hfirst, fun j hj file'' hfile'' => ?_⟩
        cases j with
        | zero =>
          cases hfile''
          exact fun _ _ => hvisited₁.exhausted.not_chain (hfile _ rfl)
        | succ j => exact hearlier j (by omega) file'' hfile''
      · obtain ⟨visited₂, hmap₂, hgrow₂, hfiles, hvisited₂⟩ := hnothing' ht
        refine ⟨visited₂, hmap₂, List.Subset.trans hgrow hgrow₂, fun r ⟨hr, hname⟩ => ?_, hvisited₂⟩
        rcases List.mem_cons.1 hr with hr | hr
        · exact hgrow₂ (hfile r (Prod.ext hr hname))
        · exact hfiles r ⟨hr, hname⟩
    · rw [firstOf_of_ne hnone]
      refine ⟨fun t ht => ?_, fun ht => absurd ht hnone⟩
      obtain ⟨choices, hfirst⟩ := hfound t ht
      exact ⟨0, file, choices, rfl, hfirst, fun j hj => absurd hj (Nat.not_lt_zero j)⟩

/-- A search finds the end of the first chain that keeps off its trail, if each file is reached by one
name only. -/
theorem exportedFrom_chain (hone : p.OneName start)
    (hlocal : ∀ q, ReflTransGen p.Links start q → p.LooksUp local? q) (fuel : ℕ)
    (hvisited : p.Visited start trail visited) (hq : ReflTransGen p.Links start q) :
    p.Searched start trail visited (· = q) (fun t => ∃ choices, p.FirstChain trail q choices t)
      (exportedFrom p local? fuel q.1 q.2 (visited.map Prod.fst)) := by
  induction fuel generalizing q trail visited with
  | zero => exact ⟨nofun, nofun⟩
  | succ fuel ih =>
    by_cases hmem : q.1 ∈ visited.map Prod.fst
    · -- the file was visited, so it was visited for this name
      obtain ⟨r, hr, hfile⟩ := List.mem_map.1 hmem
      have hqr : r = q := hone r q (hvisited.reached r hr) hq hfile
      rw [exportedFrom_of_mem hmem]
      refine ⟨nofun, fun _ => ⟨visited, rfl, List.Subset.refl _, ?_, hvisited⟩⟩
      rintro _ rfl
      exact hqr ▸ hr
    · have hnot : q ∉ trail := fun h => hmem (List.mem_map_of_mem (hvisited.trail_subset h))
      have hgrow : visited ⊆ q :: visited := List.subset_cons_self q visited
      have hvisit := hvisited.visit hq
      rw [exportedFrom_of_notMem hmem]
      cases hstep : p.exportStep q.1 q.2 with
      | found target =>
        refine ⟨fun t ht => ⟨[], .ends hnot (.inl ?_), fun _ _ _ => List.not_lt_nil _⟩, nofun⟩
        cases ht
        exact hstep
      | own localName =>
        obtain ⟨hfirst, hnone⟩ := hlocal q hq localName hstep
        refine ⟨fun t ht => ?_, fun ht => ?_⟩
        · obtain ⟨choices, hchain⟩ := hfirst t ht
          exact ⟨choices, hchain.keepOff hstep hnot⟩
        · refine ⟨q :: visited, rfl, hgrow, by simp, hvisit.leave ?_ ?_⟩
          · exact .inl ⟨localName, hstep, hnone ht⟩
          · rintro r ⟨files, h, -⟩
            cases hstep.symm.trans h
      | onward name files =>
        have hlink : ∀ file ∈ files, ReflTransGen p.Links start (file, name) := fun file hfile =>
          hq.tail ⟨files, hstep, hfile⟩
        obtain ⟨hfound, hnothing⟩ := firstOf_searched
          (fun target visited => exportedFrom p local? fuel target name visited) files hvisit
          fun file hfile visited hvisited => ih hvisited (hlink file hfile)
        refine ⟨fun t ht => ?_, fun ht => ?_⟩
        · obtain ⟨i, file, choices, hi, hfirst, hearlier⟩ := hfound t ht
          exact ⟨i :: choices, .links hnot hstep hi hfirst hearlier⟩
        · obtain ⟨visited', hmap, hgrow', hfiles, hvisited'⟩ := hnothing ht
          refine ⟨visited', hmap, List.Subset.trans hgrow hgrow', ?_, hvisited'.leave ?_ ?_⟩
          · rintro _ rfl
            exact hgrow' List.mem_cons_self
          · exact .inr ⟨name, files, hstep⟩
          · rintro r ⟨files', h, hr⟩
            cases hstep.symm.trans h
            exact hfiles r ⟨hr, rfl⟩

end Search

/-! ### What an exported name refers to -/

/-- In none of the searches that start from `q` a file can be reached by two different names. -/
def Plain (p : Program) (q : String × String) : Prop :=
  ∀ r, ReflTransGen p.Continues q r → p.OneName r

theorem Plain.of_continues (h : p.Plain q) (hqr : ReflTransGen p.Continues q r) : p.Plain r :=
  fun s hrs => h s (hqr.trans hrs)

theorem visited_nil (p : Program) (start : String × String) : p.Visited start [] [] :=
  ⟨List.Subset.refl _, by simp, fun r hr => absurd hr List.not_mem_nil⟩

theorem exported_first {bound : ℕ} {found : Option Target} (hone : p.OneName q)
    (hlocal : ∀ r, ReflTransGen p.Links q r → p.LooksUp (p.lookup bound) r)
    (h : p.exported bound q.1 q.2 = some found) :
    (∀ t, found = some t → ∃ choices, p.FirstChain [] q choices t) ∧
      (found = none → ∀ t, ¬ p.Leads q t) := by
  have hsearched := exportedFrom_chain hone hlocal p.exportBound (visited_nil p q) .refl
  refine ⟨?_, ?_⟩
  · rintro t rfl
    exact hsearched.found t h
  · rintro rfl t
    obtain ⟨visited, -, -, hq, hvisited⟩ := hsearched.nothing h
    exact hvisited.exhausted.not_leads (hq q rfl)

/-- What is looked up inside files on the way starts searches of the same kind. -/
theorem lookup_looksUp (bound : ℕ) (hplain : p.Plain q) : p.LooksUp (p.lookup bound) q := by
  induction bound generalizing q with
  | zero => refine fun localName _ => ⟨fun t ht => ?_, fun ht => ?_⟩ <;> cases ht
  | succ bound ih =>
    intro localName hstep
    rw [lookup, nameSearch_eq]
    cases hlead : p.localLead? localName q.1 with
    | none =>
      refine ⟨fun t ht => (by cases ht), fun _ t hleads => ?_⟩
      rcases (leads_own_iff hstep).1 hleads with h | ⟨r, h, -⟩ <;> cases hlead.symm.trans h
    | some lead =>
      cases lead with
      | found target =>
        refine ⟨fun t ht => ⟨[], ?_, fun _ _ _ => List.not_lt_nil _⟩, fun ht => by cases ht⟩
        cases ht
        exact (chain_own_iff hstep).2 ⟨List.not_mem_nil, .inl ⟨hlead, rfl⟩⟩
      | exported file name =>
        have henters : p.Continues q (file, name) := .inr ⟨localName, hstep, hlead⟩
        have hplain' := hplain.of_continues (.single henters)
        have hlocal : ∀ r, ReflTransGen p.Links (file, name) r → p.LooksUp (p.lookup bound) r :=
          fun r hr => ih (hplain'.of_continues (continues_of_links hr))
        have hone := hplain' (file, name) .refl
        refine ⟨fun t ht => ?_, fun hnone t hleads => ?_⟩
        · obtain ⟨choices, hchain, hleast⟩ := (exported_first hone hlocal ht).1 t rfl
          refine ⟨choices, (chain_own_iff hstep).2 ⟨List.not_mem_nil, .inr ⟨_, hlead, hchain⟩⟩, ?_⟩
          intro choices' t' h'
          rcases ((chain_own_iff hstep).1 h').2 with ⟨hlead', -⟩ | ⟨⟨file', name'⟩, hlead', hr⟩
          · cases hlead.symm.trans hlead'
          · cases hlead.symm.trans hlead'
            exact hleast choices' t' hr
        · rcases (leads_own_iff hstep).1 hleads with hlead' | ⟨⟨file', name'⟩, hlead', hr⟩
          · cases hlead.symm.trans hlead'
          · cases hlead.symm.trans hlead'
            exact (exported_first hone hlocal hnone).2 rfl t hr

theorem exists_of_firstOf {search : String → List String → Visit} {files visited : List String}
    (h : (firstOf search files visited).outcome = some (some t)) :
    ∃ file ∈ files, ∃ vs, (search file vs).outcome = some (some t) := by
  induction files generalizing visited with
  | nil => cases h
  | cons file files ih =>
    by_cases hnone : (search file visited).outcome = some none
    · rw [firstOf_of_nothing hnone] at h
      obtain ⟨file', hfile', hvs⟩ := ih h
      exact ⟨file', List.mem_cons_of_mem file hfile', hvs⟩
    · rw [firstOf_of_ne hnone] at h
      exact ⟨file, List.mem_cons_self, visited, h⟩

/-- Whatever a search through exports finds is the end of a chain. -/
theorem exportedFrom_leads
    (hlocal : ∀ q localName t, p.exportStep q.1 q.2 = .own localName →
      local? localName q.1 = some (some t) → p.Leads q t)
    {fuel : ℕ} {visited : List String}
    (h : (exportedFrom p local? fuel q.1 q.2 visited).outcome = some (some t)) : p.Leads q t := by
  induction fuel generalizing q visited with
  | zero => cases h
  | succ fuel ih =>
    by_cases hmem : q.1 ∈ visited
    · rw [exportedFrom_of_mem hmem] at h
      cases h
    · rw [exportedFrom_of_notMem hmem] at h
      cases hstep : p.exportStep q.1 q.2 with
      | found target =>
        rw [hstep] at h
        cases h
        exact Ends.leads (.inl hstep)
      | own localName =>
        rw [hstep] at h
        exact hlocal q localName t hstep h
      | onward name files =>
        rw [hstep] at h
        obtain ⟨file, hfile, vs, hvs⟩ := exists_of_firstOf h
        exact Continues.leads (.inl ⟨files, hstep, hfile⟩) (ih (q := (file, name)) hvs)

theorem lookup_leads (bound : ℕ) (q : String × String) (localName : String) (t : Target)
    (hstep : p.exportStep q.1 q.2 = .own localName)
    (h : p.lookup bound localName q.1 = some (some t)) : p.Leads q t := by
  induction bound generalizing q localName t with
  | zero => cases h
  | succ bound ih =>
    rw [lookup, nameSearch_eq] at h
    refine (leads_own_iff hstep).2 ?_
    cases hlead : p.localLead? localName q.1 with
    | none =>
      rw [hlead] at h
      cases h
    | some lead =>
      rw [hlead] at h
      cases lead with
      | found target =>
        cases h
        exact .inl rfl
      | exported file name => exact .inr ⟨(file, name), rfl, exportedFrom_leads ih h⟩

/-- **Exported names.** What an exported name refers to is the end of a chain of exports. If the search
comes to an end, and no file can be reached by two different names on its way, then it is the end of
the first chain, and the name refers to nothing only if there is no chain. -/
theorem export_chains (p : Program) (file name : String) :
    (∀ t, p.export? file name = some t → p.Leads (file, name) t) ∧
    ((∃ bound, (p.exported bound file name).isSome) → p.Plain (file, name) →
      (p.export? file name = none ↔ ∀ t, ¬ p.Leads (file, name) t) ∧
      ∀ t, p.export? file name = some t ↔ ∃ choices, p.FirstChain [] (file, name) choices t) := by
  refine ⟨fun t h => ?_, ?_⟩
  · have hsome : p.exported p.lookupBound file name = some (some t) := Option.join_eq_some_iff.1 h
    exact exportedFrom_leads (q := (file, name)) (lookup_leads p.lookupBound) hsome
  · rintro ⟨bound, hends⟩ hplain
    obtain ⟨found, hfound⟩ := Option.isSome_iff_exists.1 hends
    have hexport : p.export? file name = found := by
      rw [export?, exported, (exportSearch_inquiry p file name).outcome_lookupBound hfound]
      rfl
    have hlocal : ∀ r, ReflTransGen p.Links (file, name) r → p.LooksUp (p.lookup bound) r :=
      fun r hr => lookup_looksUp bound (hplain.of_continues (continues_of_links hr))
    obtain ⟨hfirst, hnone⟩ := exported_first (hplain _ .refl) hlocal hfound
    rw [hexport]
    cases found with
    | none =>
      have hleads := hnone rfl
      refine ⟨iff_of_true rfl hleads, fun t => iff_of_false (Option.some_ne_none t).symm ?_⟩
      rintro ⟨choices, hchain, -⟩
      exact hleads t hchain.leads
    | some t =>
      obtain ⟨choices, hchain⟩ := hfirst t rfl
      refine ⟨iff_of_false (Option.some_ne_none t) fun h => h t hchain.1.leads, fun t' => ⟨?_, ?_⟩⟩
      · rintro ⟨⟩
        exact ⟨choices, hchain⟩
      · rintro ⟨choices', hchain'⟩
        rw [hchain.unique hchain']

/-- Names among which no file occurs twice, and from which exports and imports lead to each other only,
are plain. -/
theorem plain_of_closed (names : List (String × String)) (hq : q ∈ names)
    (hclosed : ∀ r ∈ names, ∀ s, p.Continues r s → s ∈ names)
    (hone : ∀ r ∈ names, ∀ s ∈ names, r.1 = s.1 → r = s) : p.Plain q := by
  have hmem : ∀ {r s}, ReflTransGen p.Continues r s → r ∈ names → s ∈ names := by
    intro r s hrs hr
    induction hrs with
    | refl => exact hr
    | tail _ hstep ih => exact hclosed _ ih _ hstep
  intro r hqr s s' hs hs'
  have hlinks : ∀ {s}, ReflTransGen p.Links r s → s ∈ names := fun hs =>
    hmem (continues_of_links hs) (hmem hqr hq)
  exact hone s (hlinks hs) s' (hlinks hs')

/-- Files that export all names of each other, and a class. -/
def barrelHost : Host :=
  .ofList [("/a.ts", "export * from './b'; export * from './c';"), ("/b.ts", "export * from './a';"),
    ("/c.ts", "class X {} export { X as x };")]

/-- The program of these files. -/
def barrels : Program := ((Program.load barrelHost ["/a.ts"] {}).toOption).getD {}

theorem barrels_steps : barrels.exportStep "/a.ts" "x" = .onward "x" ["/b.ts", "/c.ts"] ∧
    barrels.exportStep "/b.ts" "x" = .onward "x" ["/a.ts"] ∧
    barrels.exportStep "/c.ts" "x" = .own "X" ∧
    barrels.localLead? "X" "/c.ts" = some (.found (.declaration 0)) := by
  refine ⟨?_, ?_, ?_, ?_⟩ <;> decide +kernel

theorem barrels_plain : barrels.Plain ("/a.ts", "x") := by
  obtain ⟨ha, hb, hc, hX⟩ := barrels_steps
  refine plain_of_closed [("/a.ts", "x"), ("/b.ts", "x"), ("/c.ts", "x")] (by decide) ?_ (by decide)
  rintro r hr ⟨file, name⟩ (⟨files, h, hmem⟩ | ⟨localName, h, hlead⟩)
  · simp only [List.mem_cons, List.not_mem_nil, or_false] at hr
    rcases hr with rfl | rfl | rfl <;> grind
  · simp only [List.mem_cons, List.not_mem_nil, or_false] at hr
    rcases hr with rfl | rfl | rfl <;> grind

/-- The search goes through the circle of the first two files and finds the class of the third. -/
theorem export_chains_barrels : (∃ bound, (barrels.exported bound "/a.ts" "x").isSome) ∧
    barrels.Plain ("/a.ts", "x") ∧ barrels.export? "/a.ts" "x" = some (.declaration 0) ∧
    ∃ choices, barrels.FirstChain [] ("/a.ts", "x") choices (.declaration 0) := by
  have hends : ∃ bound, (barrels.exported bound "/a.ts" "x").isSome := ⟨1, by decide +kernel⟩
  have hfound : barrels.export? "/a.ts" "x" = some (.declaration 0) := by decide +kernel
  obtain ⟨-, hfirst⟩ := (export_chains barrels "/a.ts" "x").2 hends barrels_plain
  exact ⟨hends, barrels_plain, hfound, (hfirst _).1 hfound⟩

/-- Two files that export names of each other by other names. -/
def renamingHost : Host :=
  .ofList [("/a.ts", "export { y as x } from './b'; export class z {}"),
    ("/b.ts", "export { z as y } from './a';")]

/-- The program of these files. -/
def renamings : Program := ((Program.load renamingHost ["/a.ts", "/b.ts"] {}).toOption).getD {}

/-- A chain that goes through one file by two names is not found. -/
theorem renamings_missed :
    (Program.load renamingHost ["/a.ts", "/b.ts"] {}).toOption = some renamings ∧
    renamings.Leads ("/a.ts", "x") (.declaration 0) ∧ renamings.export? "/a.ts" "x" = none := by
  have hload : (Program.load renamingHost ["/a.ts", "/b.ts"] {}).toOption.isSome := by decide +kernel
  refine ⟨?_, ?_, by decide +kernel⟩
  · obtain ⟨p, hp⟩ := Option.isSome_iff_exists.1 hload
    rw [renamings, hp]
    rfl
  · have hx : renamings.Links ("/a.ts", "x") ("/b.ts", "y") := ⟨["/b.ts"], by decide +kernel, by decide⟩
    have hy : renamings.Links ("/b.ts", "y") ("/a.ts", "z") := ⟨["/a.ts"], by decide +kernel, by decide⟩
    have hz : renamings.Ends ("/a.ts", "z") (.declaration 0) :=
      .inr ⟨"z", by decide +kernel, by decide +kernel⟩
    exact Continues.leads (.inl hx) (Continues.leads (.inl hy) hz.leads)

end Program

end ComponentAtlas
