import ComponentAtlas.Selector.Matcher
import Mathlib.Data.List.Basic
import Mathlib.Data.List.Induction

/-!
# The indexes of a matcher hide nothing

A matcher tests only those selectors against a node that its indexes suggest. Here it is compared with
the search that tests all registered selectors one after the other.

* `Registration`: a call that registers a selector or a list of selectors; `Matcher.ofCalls`;
* `Matcher.firstMatches`: the search without indexes;
* `Matcher.Indexed`: every selector is found under each of its keys, or among the universal ones;
  `Matcher.Indexed.mem_suggested`: a selector that a node satisfies is suggested for it;
* `Matcher.report_ofCalls`: both searches report the same.
-/

namespace ComponentAtlas

/-- A call that registers selectors with a value. -/
inductive Registration (α : Type)
  | single (selector : Selector) (value : α)
  | list (selectors : List Selector) (value : α)

namespace Registration

variable {α : Type}

/-- The selectors of a call. -/
def selectors : Registration α → List Selector
  | .single s _ => [s]
  | .list ss _ => ss

/-- The value of a call. -/
def value : Registration α → α
  | .single _ v => v
  | .list _ v => v

end Registration

namespace Matcher

variable {α β : Type} {m : Matcher α} {node s : Selector} {e : Entry} {id : ℕ}

/-- The matcher after one more call. -/
def register (m : Matcher α) : Registration α → Matcher α
  | .single s value => m.insert s value
  | .list ss value => m.insertAll ss value

/-- The matcher after some calls. -/
def ofCalls (calls : List (Registration α)) : Matcher α := calls.foldl register {}

/-- The search without indexes: the first satisfied selector of each list that has one, in order of
registration. -/
def firstMatches (calls : List (Registration α)) (node : Selector) : List (Selector × α) :=
  calls.filterMap fun c => (c.selectors.find? node.satisfies).map fun p => (p, c.value)

theorem register_eq (m : Matcher α) (c : Registration α) :
    m.register c = m.insertAll c.selectors c.value := by
  cases c <;> rfl

/-! ### Indexes -/

theorem mem_lookup {index : List (String × ℕ)} {key : String} :
    id ∈ lookup index key ↔ (key, id) ∈ index := by
  rw [lookup, List.mem_filterMap]
  constructor
  · rintro ⟨⟨k, i⟩, hm, hk⟩
    simp only [beq_iff_eq, Option.ite_none_right_eq_some, Option.some.injEq] at hk
    obtain ⟨rfl, rfl⟩ := hk
    exact hm
  · intro hm
    exact ⟨(key, id), hm, by simp⟩

/-- The indexes name a selector under its element name, its classes and the names of its attributes,
and the universal list has it if there is none of these. -/
structure IndexedAt (m : Matcher α) (id : ℕ) (s : Selector) : Prop where
  element : ∀ {name}, s.element = some name → s.hasElement → (name, id) ∈ m.byElement
  classes : ∀ {c}, c ∈ s.classes → (c, id) ∈ m.byClass
  attrs : ∀ {a}, a ∈ s.attrs → (a.1, id) ∈ m.byAttr
  universal : s.hasElement = false → s.classes = [] → s.attrs = [] → id ∈ m.universal

/-- The indexes name every registered selector. -/
def Indexed (m : Matcher α) : Prop := ∀ id e, m.entries[id]? = some e → m.IndexedAt id e.selector

theorem IndexedAt.insertEntry (h : m.IndexedAt id s) (list : ℕ) (t : Selector) :
    (m.insertEntry list t).IndexedAt id s where
  element he hs := List.mem_append_left _ (h.element he hs)
  classes hc := List.mem_append_left _ (h.classes hc)
  attrs ha := List.mem_append_left _ (h.attrs ha)
  universal he hc ha := by
    have hid := h.universal he hc ha
    simp only [Matcher.insertEntry]
    split
    · exact List.mem_append_left _ hid
    · exact hid

theorem indexedAt_insertEntry_self (m : Matcher α) (list : ℕ) (s : Selector) :
    (m.insertEntry list s).IndexedAt m.entries.length s where
  element he hs := List.mem_append_right _ (by simp [he, hs])
  classes hc := List.mem_append_right _ (List.mem_map.2 ⟨_, hc, rfl⟩)
  attrs ha := List.mem_append_right _ (List.mem_map.2 ⟨_, ha, rfl⟩)
  universal he hc ha := by simp [Matcher.insertEntry, he, hc, ha]

theorem Indexed.insertEntry (h : m.Indexed) (list : ℕ) (s : Selector) :
    (m.insertEntry list s).Indexed := by
  intro id e he
  rcases Nat.lt_or_ge id m.entries.length with hlt | hge
  · rw [show (m.insertEntry list s).entries = m.entries ++ [⟨s, list⟩] from rfl,
      List.getElem?_append_left hlt] at he
    exact (h id e he).insertEntry list s
  · rw [show (m.insertEntry list s).entries = m.entries ++ [⟨s, list⟩] from rfl,
      List.getElem?_append_right hge, List.getElem?_singleton] at he
    split at he
    · next h0 =>
      cases he
      obtain rfl : id = m.entries.length := by omega
      exact indexedAt_insertEntry_self m list s
    · cases he

/-- A selector that a node satisfies is suggested for it, under the first of its keys. -/
theorem IndexedAt.mem_suggested (h : m.IndexedAt id s) (hs : node.satisfies s) :
    id ∈ m.suggested node := by
  obtain ⟨element, classes, attrs, nots⟩ := s
  simp only [Selector.satisfies, Bool.and_eq_true] at hs
  obtain ⟨⟨⟨he, hc⟩, ha⟩, -⟩ := hs
  simp only [suggested, List.mem_append]
  cases hel : (⟨element, classes, attrs, nots⟩ : Selector).hasElement with
  | true =>
    cases element with
    | none => cases hel
    | some name =>
      have hne : name ≠ "*" := by simpa [Selector.hasElement] using hel
      have hnode : node.element = some name := by simpa [Selector.elementFits, hne] using he
      rw [hnode]
      exact .inl (.inl (.inl (mem_lookup.2 (h.element rfl hel))))
  | false =>
    rcases classes with _ | ⟨c, classes⟩
    · rcases attrs with _ | ⟨a, attrs⟩
      · exact .inr (h.universal hel rfl rfl)
      · obtain ⟨⟨name, value⟩, hm, hname⟩ :=
          List.any_eq_true.1 (List.all_eq_true.1 ha a List.mem_cons_self)
        have hname : name = a.1 := by
          simp only [Bool.and_eq_true, beq_iff_eq] at hname
          exact hname.1
        refine .inl (.inr (List.mem_flatMap.2 ⟨(name, value), hm, mem_lookup.2 ?_⟩))
        rw [hname]
        exact h.attrs (a := a) List.mem_cons_self
    · have hmem : c ∈ node.classes := by
        simpa using List.all_eq_true.1 hc c List.mem_cons_self
      refine .inl (.inl (.inr (List.mem_flatMap.2 ⟨c, hmem, ?_⟩)))
      exact mem_lookup.2 (h.classes List.mem_cons_self)

/-! ### Candidates -/

/-- Leaving out selectors that the node does not satisfy makes no difference. -/
theorem collect_filter (node : Selector) (seen : List ℕ) (entryAt : ℕ → Option Entry) (keep : ℕ → Bool)
    (ids : List ℕ) (hkeep : ∀ id e, entryAt id = some e → node.satisfies e.selector → keep id) :
    collect node seen ((ids.filter keep).filterMap entryAt) =
      collect node seen (ids.filterMap entryAt) := by
  induction ids generalizing seen with
  | nil => rfl
  | cons id ids ih =>
    cases he : entryAt id with
    | none => cases hk : keep id <;> simp [he, hk, ih]
    | some e =>
      cases hk : keep id with
      | true => simp [he, hk, collect, ih]
      | false =>
        have hnot : node.satisfies e.selector = false := by
          by_contra hsat
          rw [hkeep id e he (by simpa using hsat)] at hk
          cases hk
        simp [he, hk, collect, hnot, ih]

theorem filterMap_range_getElem? {γ : Type} (xs : List γ) :
    (List.range xs.length).filterMap (fun i => xs[i]?) = xs := by
  induction xs with
  | nil => rfl
  | cons x xs ih =>
    rw [List.length_cons, List.range_succ_eq_map, List.filterMap_cons, List.getElem?_cons_zero]
    simpa [List.filterMap_map, Function.comp_def] using ih

/-- The indexes make no difference. -/
theorem Indexed.collect_candidates (h : m.Indexed) (node : Selector) :
    collect node [] ((m.candidates node).filterMap fun id => m.entries[id]?) =
      collect node [] m.entries := by
  have hkeep : ∀ id e, m.entries[id]? = some e → node.satisfies e.selector →
      (m.suggested node).contains id := fun id e he hs =>
    List.contains_iff_mem.2 ((h id e he).mem_suggested hs)
  rw [candidates, collect_filter node [] _ _ _ hkeep, filterMap_range_getElem?]

/-! ### Lists of selectors -/

/-- The registered selectors of some calls, the first of which has the given number. -/
def numbered : ℕ → List (Registration α) → List Entry
  | _, [] => []
  | i, c :: calls => c.selectors.map (⟨·, i⟩) ++ numbered (i + 1) calls

theorem numbered_append (i : ℕ) (calls calls' : List (Registration α)) :
    numbered i (calls ++ calls') = numbered i calls ++ numbered (i + calls.length) calls' := by
  induction calls generalizing i with
  | nil => rfl
  | cons c calls ih =>
    rw [List.cons_append, numbered, ih, numbered, List.append_assoc, List.length_cons,
      show i + 1 + calls.length = i + (calls.length + 1) by omega]

/-- Of a list that has matched already nothing is taken. -/
theorem collect_seen {seen : List ℕ} {i : ℕ} (hi : i ∈ seen) (ss : List Selector) (rest : List Entry) :
    collect node seen (ss.map (⟨·, i⟩) ++ rest) = collect node seen rest := by
  induction ss with
  | nil => rfl
  | cons s ss ih => simp [collect, hi, ih]

/-- Of a list that has not matched yet the first satisfied selector is taken. -/
theorem collect_list {seen : List ℕ} {i : ℕ} (hi : i ∉ seen) (ss : List Selector) (rest : List Entry) :
    collect node seen (ss.map (⟨·, i⟩) ++ rest) =
      match ss.find? node.satisfies with
      | some p => ⟨p, i⟩ :: collect node (i :: seen) rest
      | none => collect node seen rest := by
  induction ss with
  | nil => rfl
  | cons s ss ih =>
    by_cases hs : node.satisfies s
    · have hseen : i ∈ i :: seen := List.mem_cons_self
      simp [collect, hi, hs, collect_seen hseen]
    · simp [collect, hs, ih]

/-- All selectors of some calls: one list after the other. The lists that matched before have smaller
numbers. -/
theorem collect_numbered (calls : List (Registration α)) {seen : List ℕ} {i : ℕ}
    (hseen : ∀ j ∈ seen, j < i) {values : List α}
    (hvalues : ∀ k, values[i + k]? = calls[k]?.map (·.value)) :
    ((collect node seen (numbered i calls)).filterMap fun e =>
      values[e.list]?.map fun v => (e.selector, v)) = firstMatches calls node := by
  induction calls generalizing seen i with
  | nil => rfl
  | cons c calls ih =>
    have hi : i ∉ seen := fun h => Nat.lt_irrefl i (hseen i h)
    have hvalue : values[i]? = some c.value := by simpa using hvalues 0
    have hrest : ∀ k, values[i + 1 + k]? = calls[k]?.map (·.value) := fun k => by
      rw [show i + 1 + k = i + (k + 1) by omega, hvalues, List.getElem?_cons_succ]
    rw [numbered, collect_list hi, firstMatches, List.filterMap_cons]
    cases hfind : c.selectors.find? node.satisfies with
    | none => exact ih (fun j hj => Nat.lt_succ_of_lt (hseen j hj)) hrest
    | some p =>
      have hnext : ∀ j ∈ i :: seen, j < i + 1 := by
        intro j hj
        rcases List.mem_cons.1 hj with rfl | hj
        · exact Nat.lt_succ_self j
        · exact Nat.lt_succ_of_lt (hseen j hj)
      rw [List.filterMap_cons, hvalue]
      exact congrArg ((p, c.value) :: ·) (ih hnext hrest)

/-! ### Matchers from calls -/

/-- What a matcher holds after some calls. -/
structure Describes (m : Matcher α) (calls : List (Registration α)) : Prop where
  values : m.values = calls.map (·.value)
  entries : m.entries = numbered 0 calls
  indexed : m.Indexed

/-- Registering the selectors of one list, after its value. -/
theorem Indexed.insertEntries (h : m.Indexed) (ss : List Selector) {m' : Matcher α}
    (hm' : m' = ss.foldl (fun m s => m.insertEntry (m.values.length - 1) s) m) :
    m'.values = m.values ∧ m'.entries = m.entries ++ ss.map (⟨·, m.values.length - 1⟩) ∧
      m'.Indexed := by
  subst hm'
  induction ss generalizing m with
  | nil => exact ⟨rfl, (List.append_nil _).symm, h⟩
  | cons s ss ih =>
    obtain ⟨hv, he, hi⟩ := ih (h.insertEntry (m.values.length - 1) s)
    refine ⟨hv, ?_, hi⟩
    rw [List.foldl_cons, he]
    simp [Matcher.insertEntry]

theorem Describes.register {calls : List (Registration α)} (h : m.Describes calls)
    (c : Registration α) : (m.register c).Describes (calls ++ [c]) := by
  have hindexed : ({ m with values := m.values ++ [c.value] } : Matcher α).Indexed := by
    intro id e he
    obtain ⟨helement, hclasses, hattrs, huniversal⟩ := h.indexed id e he
    exact ⟨helement, hclasses, hattrs, huniversal⟩
  obtain ⟨hvalues, hentries, hindexed⟩ := hindexed.insertEntries c.selectors (register_eq m c)
  refine ⟨?_, ?_, hindexed⟩
  · rw [hvalues, h.values, List.map_append, List.map_singleton]
  · have hnumber : (m.values ++ [c.value]).length - 1 = 0 + calls.length := by simp [h.values]
    rw [hentries, hnumber, h.entries, numbered_append, numbered, numbered, List.append_nil]

theorem describes_ofCalls (calls : List (Registration α)) : (ofCalls calls).Describes calls := by
  induction calls using List.reverseRecOn with
  | nil => exact ⟨rfl, rfl, fun _ _ he => nomatch he⟩
  | append_singleton calls c ih =>
    rw [ofCalls, List.foldl_append]
    exact ih.register c

theorem found_ofCalls (calls : List (Registration α)) (node : Selector) :
    (ofCalls calls).found node = firstMatches calls node := by
  have h := describes_ofCalls calls
  rw [found, h.indexed.collect_candidates, h.entries, h.values]
  refine collect_numbered calls (fun _ hj => absurd hj List.not_mem_nil) fun k => ?_
  rw [Nat.zero_add, List.getElem?_map]

theorem firstMatches_eq_nil {calls : List (Registration α)} :
    firstMatches calls node = [] ↔ ∀ c ∈ calls, ∀ p ∈ c.selectors, ¬ node.satisfies p := by
  simp [firstMatches, List.filterMap_eq_nil_iff]

/-- The indexed search calls back for the same selectors and values, in the same order, as the search
that tests every selector. It tells whether some list has a satisfied selector. -/
theorem report_ofCalls (calls : List (Registration α)) (node : Selector) :
    (∀ (callback : β → Selector → α → β) (b : β),
      ((ofCalls calls).report node callback b).2 =
        (firstMatches calls node).foldl (fun b x => callback b x.1 x.2) b ∧
      (((ofCalls calls).report node callback b).1 = true ↔
        ∃ c ∈ calls, ∃ p ∈ c.selectors, node.satisfies p)) ∧
    (ofCalls calls).valuesFor node = (firstMatches calls node).map (·.2) := by
  refine ⟨fun callback b => ⟨?_, ?_⟩, ?_⟩
  · rw [report, found_ofCalls]
  · have hempty :
        ((ofCalls calls).report node callback b).1 = true ↔ ¬ firstMatches calls node = [] := by
      simp [report, found_ofCalls]
    rw [hempty, firstMatches_eq_nil]
    push Not
    rfl
  · rw [valuesFor, report, found_ofCalls, List.foldl_append_eq_append, List.nil_append,
      ← List.flatMap_def, List.map_eq_flatMap]

end Matcher

end ComponentAtlas
