import ComponentAtlas.Provider
import Mathlib.Data.List.Basic

/-!
# Flattening lists of providers

A value is a tree: arrays are its inner nodes, and every value in an array that is no array itself is a
leaf. The place of a leaf is the list of the indices that lead to it, so there are as many arrays around
a leaf as its place is long. A list of providers is read leaf by leaf, from left to right; each leaf
gives at most one entry, whatever the others give.

* `Value.at?`, `Value.put`: what stands at a place, and the value with something else there;
* `Value.leaves`: the leaves from left to right; `mem_leaves`, `leaves_sorted`: which they are;
* `Value.leaves_put`: the leaves after something was replaced;
* `ProviderEntry.Stands`: the entry that a leaf stands for;
* `Flattened.entries_ofValue`: the entries of a value are those of its leaves within the limit;
* `Flattened.entries_leafwise`: so no leaf has an effect on the entries of others.
-/

namespace ComponentAtlas

/-! ### Places in a value -/

namespace Value

/-- What stands at a place; every index enters an array. -/
def at? : List Nat → Value → Option Value
  | [], v => some v
  | i :: place, .array items => items[i]?.bind (at? place)
  | _ :: _, _ => none

/-- The value with `x` at a place; nothing changes if there is no such place. -/
def put : List Nat → Value → (x : Value) → Value
  | [], _, x => x
  | i :: place, .array items, x => .array (items.modify i fun w => put place w x)
  | _ :: _, v, _ => v

mutual

/-- The leaves of a value with their places, from left to right. -/
def leaves : Value → List (List Nat × Value)
  | .array items => leavesFrom 0 items
  | v => [([], v)]

/-- The leaves of several values with their places, if the first of the values has an index. -/
def leavesFrom (i : Nat) : List Value → List (List Nat × Value)
  | [] => []
  | v :: vs => (leaves v).map (fun l => (i :: l.1, l.2)) ++ leavesFrom (i + 1) vs

end

variable {v w l x : Value} {place : List Nat} {items : List Value} {i k : Nat}

theorem array_or_leaf (v : Value) : (∃ items, v = .array items) ∨ v.asArray? = none := by
  cases v with
  | array items => exact .inl ⟨items, rfl⟩
  | _ => exact .inr rfl

theorem leaves_of_leaf (h : v.asArray? = none) : v.leaves = [([], v)] := by
  cases v with
  | array items => cases h
  | _ => rfl

theorem at?_of_leaf (h : v.asArray? = none) (i : Nat) (place : List Nat) : v.at? (i :: place) = none := by
  cases v with
  | array items => cases h
  | _ => rfl

theorem mem_leavesFrom : (place, l) ∈ leavesFrom k items ↔
    ∃ i inner w, place = (k + i) :: inner ∧ items[i]? = some w ∧ (inner, l) ∈ w.leaves := by
  induction items generalizing k with
  | nil => simp [leavesFrom]
  | cons v vs ih =>
    rw [leavesFrom, List.mem_append, ih]
    constructor
    · rintro (hfirst | ⟨i, inner, w, rfl, hw, hmem⟩)
      · obtain ⟨⟨inner, leaf⟩, hmem, heq⟩ := List.mem_map.1 hfirst
        cases heq
        exact ⟨0, inner, v, rfl, rfl, hmem⟩
      · exact ⟨i + 1, inner, w, by rw [Nat.add_right_comm, Nat.add_assoc], hw, hmem⟩
    · rintro ⟨i, inner, w, rfl, hw, hmem⟩
      cases i with
      | zero =>
        cases hw
        exact .inl (List.mem_map.2 ⟨(inner, l), hmem, rfl⟩)
      | succ i => exact .inr ⟨i, inner, w, by rw [Nat.add_right_comm, Nat.add_assoc], hw, hmem⟩

/-- The leaves of a value are what stands in its arrays and is no array. -/
theorem mem_leaves : (place, l) ∈ v.leaves ↔ v.at? place = some l ∧ l.asArray? = none := by
  induction place generalizing v with
  | nil =>
    show ([], l) ∈ v.leaves ↔ some v = some l ∧ l.asArray? = none
    rcases v.array_or_leaf with ⟨items, rfl⟩ | hleaf
    · rw [leaves, mem_leavesFrom]
      constructor
      · rintro ⟨i, inner, w, hnil, -, -⟩
        cases hnil
      · rintro ⟨heq, hleaf⟩
        cases heq
        cases hleaf
    · rw [leaves_of_leaf hleaf, List.mem_singleton]
      constructor
      · intro heq
        cases heq
        exact ⟨rfl, hleaf⟩
      · rintro ⟨heq, -⟩
        cases heq
        rfl
  | cons i place ih =>
    rcases v.array_or_leaf with ⟨items, rfl⟩ | hleaf
    · rw [leaves, mem_leavesFrom, at?, Option.bind_eq_some_iff]
      constructor
      · rintro ⟨j, inner, w, heq, hw, hmem⟩
        obtain ⟨rfl, rfl⟩ := List.cons.inj heq
        obtain ⟨hat, hleaf⟩ := ih.1 hmem
        exact ⟨⟨w, by rwa [Nat.zero_add], hat⟩, hleaf⟩
      · rintro ⟨⟨w, hw, hat⟩, hleaf⟩
        exact ⟨i, place, w, by rw [Nat.zero_add], hw, ih.2 ⟨hat, hleaf⟩⟩
    · rw [leaves_of_leaf hleaf, at?_of_leaf hleaf]
      simp

theorem leavesFrom_sorted (h : ∀ v ∈ items, v.leaves.Pairwise fun a b => a.1 < b.1) :
    (leavesFrom k items).Pairwise fun a b => a.1 < b.1 := by
  induction items generalizing k with
  | nil => exact .nil
  | cons v vs ih =>
    obtain ⟨hv, hvs⟩ := List.forall_mem_cons.1 h
    rw [leavesFrom, List.pairwise_append, List.pairwise_map]
    refine ⟨?_, ih hvs, ?_⟩
    · apply hv.imp
      intro a b hab
      exact List.cons_lt_cons_iff.2 (.inr ⟨rfl, hab⟩)
    · rintro a ha ⟨place, l⟩ hb
      obtain ⟨c, -, rfl⟩ := List.mem_map.1 ha
      obtain ⟨i, inner, w, rfl, -, -⟩ := mem_leavesFrom.1 hb
      apply List.cons_lt_cons_iff.2
      left
      omega

/-- The leaves stand from left to right. -/
theorem leaves_sorted : ∀ v : Value, v.leaves.Pairwise fun a b => a.1 < b.1 := by
  intro v
  rcases v.array_or_leaf with ⟨items, rfl⟩ | hleaf
  · rw [leaves]
    exact leavesFrom_sorted fun w _ => leaves_sorted w
  · rw [leaves_of_leaf hleaf]
    exact List.pairwise_singleton _ _
termination_by v => sizeOf v
decreasing_by
  subst_vars
  have hlt := List.sizeOf_lt_of_mem ‹w ∈ items›
  simp only [array.sizeOf_spec]
  omega

/-! ### Replacing what stands at a place -/

theorem leavesFrom_append (vs ws : List Value) :
    leavesFrom k (vs ++ ws) = leavesFrom k vs ++ leavesFrom (k + vs.length) ws := by
  induction vs generalizing k with
  | nil => rfl
  | cons v vs ih =>
    rw [List.cons_append, leavesFrom, leavesFrom, ih, List.append_assoc, List.length_cons, Nat.add_right_comm,
      Nat.add_assoc]

/-- What stands at a place can be put there again. -/
theorem put_at? (h : v.at? place = some l) : v.put place l = v := by
  induction place generalizing v with
  | nil => exact (Option.some.inj h).symm
  | cons i place ih =>
    rcases v.array_or_leaf with ⟨items, rfl⟩ | hleaf
    · obtain ⟨w, hw, hat⟩ := Option.bind_eq_some_iff.1 h
      obtain ⟨hi, rfl⟩ := List.getElem?_eq_some_iff.1 hw
      rw [put, List.modify_eq_take_cons_drop hi, ih hat, List.getElem_cons_drop, List.take_append_drop]
    · rw [at?_of_leaf hleaf] at h
      cases h

/-- If something stands at a place, its leaves can be exchanged for those of another value; all other
leaves keep their places. -/
theorem leaves_put (h : v.at? place = some l) :
    ∃ before after, ∀ x, (v.put place x).leaves =
      before ++ x.leaves.map (fun a => (place ++ a.1, a.2)) ++ after := by
  induction place generalizing v with
  | nil => exact ⟨[], [], fun x => by simp [put]⟩
  | cons i place ih =>
    rcases v.array_or_leaf with ⟨items, rfl⟩ | hleaf
    · obtain ⟨w, hw, hat⟩ := Option.bind_eq_some_iff.1 h
      obtain ⟨hi, rfl⟩ := List.getElem?_eq_some_iff.1 hw
      obtain ⟨before, after, hput⟩ := ih hat
      refine ⟨leavesFrom 0 (items.take i) ++ before.map (fun a => (i :: a.1, a.2)),
        after.map (fun a => (i :: a.1, a.2)) ++ leavesFrom (i + 1) (items.drop (i + 1)), fun x => ?_⟩
      have hlength : 0 + (items.take i).length = i := by rw [Nat.zero_add, List.length_take_of_le (Nat.le_of_lt hi)]
      rw [put, leaves, List.modify_eq_take_cons_drop hi, leavesFrom_append, leavesFrom, hlength, hput]
      simp only [List.map_append, List.map_map, List.append_assoc]
      rfl
    · rw [at?_of_leaf hleaf] at h
      cases h

end Value

/-! ### What leaves stand for -/

namespace ProviderEntry

/-- Among the keys of an object that say how something is provided, there is one only. -/
structure OnlyUse (entries : List (String × Value)) (use : UseKind) (value : Value) : Prop where
  found : Table.get? use.key entries = some value
  only : ∀ other, other ≠ use → Table.get? other.key entries = none

/-- The entry that a leaf stands for: a reference stands for its class, and an object with a token and one
way to provide it for that provider; what is provided as a class is a reference. -/
inductive Stands : Value → ProviderEntry → Prop
  | reference (r : Reference) : Stands (.reference r) (.cls none r)
  | useClass {entries : List (String × Value)} {provide : Value} {r : Reference}
    (htoken : Table.get? "provide" entries = some provide) (huse : OnlyUse entries .cls (.reference r)) :
    Stands (.map entries) (.cls (some provide) r)
  | provider {entries : List (String × Value)} {p : Provider}
    (htoken : Table.get? "provide" entries = some p.provide) (huse : OnlyUse entries p.use p.value)
    (hclass : p.use ≠ .cls) (hmulti : p.multi = true ↔ Table.get? "multi" entries = some (.boolean true)) :
    Stands (.map entries) (.provider p)

/-- The entry that a leaf stands for, if it stands for one. -/
def ofLeaf? : Value → Option ProviderEntry
  | .reference r => some (.cls none r)
  | .map entries => ofMap? entries
  | _ => none

variable {entries : List (String × Value)} {use : UseKind} {value : Value} {e : ProviderEntry}

/-- The ways in which an object provides something. -/
def uses (entries : List (String × Value)) : List (UseKind × Value) :=
  UseKind.all.filterMap fun kind => (Table.get? kind.key entries).map (kind, ·)

theorem mem_uses : (use, value) ∈ uses entries ↔ Table.get? use.key entries = some value := by
  rw [uses, List.mem_filterMap]
  constructor
  · rintro ⟨kind, -, hkind⟩
    obtain ⟨v, hv, heq⟩ := Option.map_eq_some_iff.1 hkind
    cases heq
    exact hv
  · intro hvalue
    refine ⟨use, by cases use <;> decide, ?_⟩
    rw [hvalue]
    rfl

theorem uses_eq_singleton_iff : uses entries = [(use, value)] ↔ OnlyUse entries use value := by
  constructor
  · intro huses
    refine ⟨mem_uses.1 (by simp [huses]), fun other hother => ?_⟩
    cases hvalue : Table.get? other.key entries with
    | none => rfl
    | some v =>
      have hmem : (other, v) ∈ uses entries := mem_uses.2 hvalue
      rw [huses, List.mem_singleton] at hmem
      exact absurd (Prod.mk.inj hmem).1 hother
  · rintro ⟨hfound, honly⟩
    -- the other three kinds are passed over
    cases use with
    | value =>
      simp [uses, UseKind.all, hfound, honly .factory (by decide), honly .existing (by decide),
        honly .cls (by decide)]
    | factory =>
      simp [uses, UseKind.all, hfound, honly .value (by decide), honly .existing (by decide),
        honly .cls (by decide)]
    | existing =>
      simp [uses, UseKind.all, hfound, honly .value (by decide), honly .factory (by decide),
        honly .cls (by decide)]
    | cls =>
      simp [uses, UseKind.all, hfound, honly .value (by decide), honly .factory (by decide),
        honly .existing (by decide)]

theorem ofMap?_useClass {provide : Value} (htoken : Table.get? "provide" entries = some provide)
    (huse : OnlyUse entries .cls value) :
    ofMap? entries = value.asReference?.map fun r => .cls (some provide) r := by
  have huses := uses_eq_singleton_iff.2 huse
  unfold uses at huses
  rw [ofMap?, htoken, huses]
  cases value <;> rfl

theorem ofMap?_provider {provide : Value} (htoken : Table.get? "provide" entries = some provide)
    (huse : OnlyUse entries use value) (hclass : use ≠ .cls) :
    ofMap? entries = some
      (.provider ⟨provide, use, value, ((Table.get? "multi" entries).bind Value.asBool?).getD false⟩) := by
  have huses := uses_eq_singleton_iff.2 huse
  unfold uses at huses
  rw [ofMap?, htoken, huses]
  cases use with
  | cls => exact absurd rfl hclass
  | _ => rfl

theorem exists_use_of_ofMap? (h : ofMap? entries = some e) :
    ∃ provide use value, Table.get? "provide" entries = some provide ∧ OnlyUse entries use value := by
  unfold ofMap? at h
  obtain ⟨provide, htoken, h⟩ := Option.bind_eq_some_iff.1 h
  dsimp only at h
  split at h
  · next v huses => exact ⟨provide, .cls, v, htoken, uses_eq_singleton_iff.1 huses⟩
  · next use v _ huses => exact ⟨provide, use, v, htoken, uses_eq_singleton_iff.1 huses⟩
  · cases h

theorem multi_iff : ((Table.get? "multi" entries).bind Value.asBool?).getD false = true ↔
    Table.get? "multi" entries = some (.boolean true) := by
  cases Table.get? "multi" entries with
  | none => simp
  | some v => cases v <;> simp [Value.asBool?]

theorem asReference?_eq_some_iff {v : Value} {r : Reference} : v.asReference? = some r ↔ v = .reference r := by
  cases v <;> simp [Value.asReference?]

theorem ofMap?_eq_some_iff : ofMap? entries = some e ↔ Stands (.map entries) e := by
  constructor
  · intro h
    obtain ⟨provide, use, value, htoken, huse⟩ := exists_use_of_ofMap? h
    by_cases hclass : use = .cls
    · subst hclass
      rw [ofMap?_useClass htoken huse] at h
      obtain ⟨r, hr, rfl⟩ := Option.map_eq_some_iff.1 h
      rw [asReference?_eq_some_iff] at hr
      subst hr
      exact .useClass htoken huse
    · rw [ofMap?_provider htoken huse hclass] at h
      obtain rfl := Option.some.inj h
      exact .provider htoken huse hclass multi_iff
  · intro h
    cases h with
    | useClass htoken huse => exact ofMap?_useClass htoken huse
    | @provider _ p htoken huse hclass hmulti =>
      have hflag : ((Table.get? "multi" entries).bind Value.asBool?).getD false = p.multi :=
        Bool.eq_iff_iff.2 (multi_iff.trans hmulti.symm)
      rw [ofMap?_provider htoken huse hclass, hflag]

theorem ofLeaf?_eq_some_iff {v : Value} : ofLeaf? v = some e ↔ Stands v e := by
  cases v with
  | map entries => exact ofMap?_eq_some_iff
  | reference r =>
    constructor
    · intro h
      obtain rfl := Option.some.inj h
      exact .reference r
    · intro h
      cases h
      rfl
  | _ =>
    constructor
    · intro h
      cases h
    · intro h
      cases h

end ProviderEntry

/-! ### Reading leaf by leaf -/

namespace Flattened

open Value ProviderEntry

variable {v l x : Value} {place : List Nat} {limit : Nat}

/-- The leaves of a value under at most `limit` arrays, with their places. -/
def within (limit : Nat) (v : Value) : List (List Nat × Value) := v.leaves.filter fun l => l.1.length ≤ limit

/-- The entries of leaves. -/
def entriesOf (leaves : List (List Nat × Value)) : List ProviderEntry := leaves.filterMap fun l => ofLeaf? l.2

theorem entriesOf_append (as bs : List (List Nat × Value)) : entriesOf (as ++ bs) = entriesOf as ++ entriesOf bs :=
  List.filterMap_append

theorem entries_ofLeaf (v : Value) : (ofLeaf v).entries = (ofLeaf? v).toList := by
  cases v with
  | map entries =>
    rw [ofLeaf, ofLeaf?]
    cases ofMap? entries <;> rfl
  | _ => rfl

theorem entries_foldl (fs : List Flattened) (start : Flattened) :
    (fs.foldl append start).entries = start.entries ++ fs.flatMap (·.entries) := by
  induction fs generalizing start with
  | nil => simp
  | cons f fs ih =>
    rw [List.foldl_cons, ih, append, List.flatMap_cons, List.append_assoc]

theorem entriesOf_leavesFrom (k room : Nat) (items : List Value) :
    entriesOf ((leavesFrom k items).filter fun l => l.1.length < room + 1) =
      items.flatMap fun v => entriesOf (v.leaves.filter fun l => l.1.length < room) := by
  induction items generalizing k with
  | nil => rfl
  | cons v vs ih =>
    rw [leavesFrom, List.filter_append, entriesOf_append, ih, List.flatMap_cons]
    congr 1
    simp [entriesOf, List.filter_map, List.filterMap_map, Function.comp_def]

/-- What lies under arrays is read as long as there is room for them. -/
theorem entries_walk (limit room : Nat) (v : Value) :
    (walk limit room v).entries = entriesOf (v.leaves.filter fun l => l.1.length < room) := by
  induction room generalizing v with
  | zero => simp [walk, entriesOf]
  | succ room ih =>
    rcases v.array_or_leaf with ⟨items, rfl⟩ | hleaf
    · rw [walk, entries_foldl, leaves, entriesOf_leavesFrom]
      simp [List.flatMap_map, ih]
    · have hwalk : walk limit (room + 1) v = ofLeaf v := by
        cases v with
        | array items => cases hleaf
        | _ => rfl
      rw [hwalk, entries_ofLeaf, leaves_of_leaf hleaf]
      cases h : ofLeaf? v <;> simp [entriesOf, h]

theorem entries_ofValue (limit : Nat) (v : Value) : (ofValue limit v).entries = entriesOf (within limit v) := by
  rw [ofValue, entries_walk, within]
  simp only [Nat.lt_succ_iff]

/-- Nothing in a value stands for an entry. -/
def Unusable (v : Value) : Prop := ∀ place l, v.at? place = some l → ∀ e, ¬ Stands l e

theorem unusable_iff : Unusable v ↔ ∀ a ∈ v.leaves, ofLeaf? a.2 = none := by
  constructor
  · rintro h ⟨place, l⟩ ha
    apply Option.eq_none_iff_forall_ne_some.2
    intro e he
    exact h place l (mem_leaves.1 ha).1 e (ofLeaf?_eq_some_iff.1 he)
  · intro h place l hat e he
    rcases l.array_or_leaf with ⟨items, rfl⟩ | hleaf
    · cases he
    · have hnone := h (place, l) (mem_leaves.2 ⟨hat, hleaf⟩)
      rw [ofLeaf?_eq_some_iff.2 he] at hnone
      cases hnone

/-- The leaves of an unusable value give no entry, wherever they are put. -/
theorem entriesOf_unusable (h : Unusable x) (place : List Nat) (p : List Nat × Value → Bool) :
    entriesOf ((x.leaves.map fun a => (place ++ a.1, a.2)).filter p) = [] := by
  apply List.filterMap_eq_nil_iff.2
  intro a ha
  obtain ⟨b, hb, rfl⟩ := List.mem_map.1 (List.mem_filter.1 ha).1
  exact unusable_iff.1 h b hb

/-- The leaves other than the one at a place. -/
theorem exists_others (hat : v.at? place = some l) (hleaf : l.asArray? = none) :
    ∃ before after, v.leaves.filter (fun a => a.1 ≠ place) = before ++ after ∧
      ∀ x, (v.put place x).leaves = before ++ x.leaves.map (fun a => (place ++ a.1, a.2)) ++ after := by
  obtain ⟨before, after, hput⟩ := leaves_put hat
  refine ⟨before, after, ?_, hput⟩
  have hv : v.leaves = before ++ (place, l) :: after := by
    simpa [put_at? hat, leaves_of_leaf hleaf] using hput l
  have hsorted := leaves_sorted v
  -- no other leaf stands at the place, since the places are in strict order
  rw [hv, List.pairwise_append, List.pairwise_cons] at hsorted
  obtain ⟨-, ⟨hafter, -⟩, hbefore⟩ := hsorted
  have hne_before : ∀ a ∈ before, a.1 ≠ place := by
    intro a ha heq
    have hlt : a.1 < place := hbefore a ha _ List.mem_cons_self
    exact List.lt_irrefl place (heq ▸ hlt)
  have hne_after : ∀ a ∈ after, a.1 ≠ place := by
    intro a ha heq
    have hlt : place < a.1 := hafter a ha
    exact List.lt_irrefl place (heq ▸ hlt)
  rw [hv, List.filter_append, List.filter_cons_of_neg (by simp),
    List.filter_eq_self.2 fun a ha => by simpa using hne_before a ha,
    List.filter_eq_self.2 fun a ha => by simpa using hne_after a ha]

/-- Where a leaf makes way for something unusable, the entries of all other leaves stay. -/
theorem entries_put_unusable (hat : v.at? place = some l) (hleaf : l.asArray? = none) (hx : Unusable x) :
    (ofValue limit (v.put place x)).entries = entriesOf ((within limit v).filter fun a => a.1 ≠ place) := by
  obtain ⟨before, after, hothers, hput⟩ := exists_others hat hleaf
  have hcomm : (within limit v).filter (fun a => a.1 ≠ place) =
      (before ++ after).filter fun a => a.1.length ≤ limit := by
    rw [within, ← hothers, List.filter_filter, List.filter_filter]
    simp only [Bool.and_comm]
  rw [entries_ofValue, hcomm, within, hput, List.filter_append, List.filter_append, entriesOf_append,
    entriesOf_append, entriesOf_unusable hx, List.append_nil, List.filter_append, entriesOf_append]

/-- **A list of providers is read leaf by leaf.** The entries of a value are those of its leaves under at
most `limit` arrays, from left to right. A leaf has one entry if it stands for one and none otherwise. So
nothing but its own entry is lost with a leaf that makes way for something unusable, and it does not
matter in which arrays the leaves within the limit stand. -/
theorem entries_leafwise (limit : Nat) (v : Value) :
    (ofValue limit v).entries =
      (v.leaves.filter fun a => a.1.length ≤ limit).filterMap (fun a => ofLeaf? a.2) ∧
    (∀ l e, ofLeaf? l = some e ↔ Stands l e) ∧
    (v.leaves.Pairwise fun a b => a.1 < b.1) ∧
    (∀ place l, (place, l) ∈ v.leaves ↔ v.at? place = some l ∧ l.asArray? = none) ∧
    (∀ place l x, v.at? place = some l → l.asArray? = none → Unusable x →
      (ofValue limit (v.put place x)).entries =
        ((within limit v).filter fun a => a.1 ≠ place).filterMap fun a => ofLeaf? a.2) ∧
    ∀ w, (within limit w).map (·.2) = (within limit v).map (·.2) →
      (ofValue limit w).entries = (ofValue limit v).entries := by
  refine ⟨entries_ofValue limit v, fun l e => ofLeaf?_eq_some_iff, leaves_sorted v, fun place l => mem_leaves,
    fun place l x hat hleaf hx => entries_put_unusable hat hleaf hx, ?_⟩
  intro w h
  have hvalues : ∀ as : List (List Nat × Value), entriesOf as = (as.map (·.2)).filterMap ofLeaf? := by
    intro as
    rw [entriesOf, List.filterMap_map]
    rfl
  rw [entries_ofValue, entries_ofValue, hvalues, hvalues, h]

/-- Two classes, the second one under three arrays, and a provider. -/
def shelves : Value :=
  .array [.reference ⟨0, "A", "/a.ts"⟩,
    .array [.array [.reference ⟨1, "B", "/a.ts"⟩], .map [("provide", .string "t"), ("useValue", .null)]]]

/-- At a limit of two arrays, a class makes way for something unusable, and the leaves are put into other
arrays. -/
theorem entries_leafwise_shelves :
    (shelves.at? [0] = some (.reference ⟨0, "A", "/a.ts"⟩) ∧ Unusable (.array [.null]) ∧
      (ofValue 2 (shelves.put [0] (.array [.null]))).entries =
        [.provider ⟨.string "t", .value, .null, false⟩]) ∧
    (ofValue 2 (.array [.array [.reference ⟨0, "A", "/a.ts"⟩],
      .map [("provide", .string "t"), ("useValue", .null)]])).entries = (ofValue 2 shelves).entries := by
  obtain ⟨-, -, -, -, hput, hnest⟩ := entries_leafwise 2 shelves
  have hunusable : Unusable (.array [.null]) := by
    apply unusable_iff.2
    simp [leaves, leavesFrom, ofLeaf?]
  refine ⟨⟨rfl, hunusable, ?_⟩, hnest _ rfl⟩
  rw [hput [0] _ _ rfl rfl hunusable]
  rfl

end Flattened

end ComponentAtlas
