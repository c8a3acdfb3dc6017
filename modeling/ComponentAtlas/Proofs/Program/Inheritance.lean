import ComponentAtlas.Program.Classes
import Mathlib.Data.List.Perm.Subperm

/-!
# Inherited constructors

A class without a constructor has that of the class it extends. To find it, the classes above a class are
gone through one by one; this ends because no class is gone through twice, so a bound on the number of
steps is never reached.

* `Program.Extends`: a class extends another class of the program; `base?_eq_some_iff`;
* `Program.above?`: the classes above a class;
* `Program.Climb`: how the search for a constructor goes; `climb_iff`: it comes to an end;
* `Program.Nearest`, `Program.Constructorless`: the nearest constructor, and where there is none;
* `constructor?_eq_some_iff`, `constructor?_eq_none_iff`: what is found.
-/

namespace ComponentAtlas.Program

open ComponentAtlas.Script

variable {p : Program} {id a b : DeclarationId} {visited : List DeclarationId} {k m n : ℕ}

/-! ### The classes above a class -/

/-- A class extends another one: what stands behind `extends`, read in the file of the class, is a class
of the program. -/
def Extends (p : Program) (a b : DeclarationId) : Prop :=
  ∃ heritage d, p.baseExpr? a = some heritage ∧ p.declaration? a = some d ∧
    p.entity? heritage.render d.file = some (.declaration b) ∧ (p.cls? b).isSome

theorem base?_eq_some_iff : p.base? a = some b ↔ p.Extends a b := by
  unfold base? Extends
  simp only [Option.bind_eq_bind, Option.bind_eq_some_iff]
  constructor
  · rintro ⟨heritage, hheritage, d, hd, h⟩
    split at h
    · next base hname =>
      split at h
      · next hclass =>
        obtain rfl := Option.some.inj h
        exact ⟨heritage, d, hheritage, hd, hname, hclass⟩
      · cases h
    · cases h
  · rintro ⟨heritage, d, hheritage, hd, hname, hclass⟩
    refine ⟨heritage, hheritage, d, hd, ?_⟩
    simp only [hname, hclass, if_true]

theorem lt_of_isSome_cls? (h : (p.cls? a).isSome) : a < p.declarations.length := by
  obtain ⟨body, hbody⟩ := Option.isSome_iff_exists.1 h
  obtain ⟨d, hd, -⟩ := Option.bind_eq_some_iff.1 hbody
  exact (List.getElem?_eq_some_iff.1 hd).1

theorem Extends.isSome_cls? (h : p.Extends a b) : (p.cls? a).isSome := by
  obtain ⟨heritage, -, hheritage, -⟩ := h
  obtain ⟨body, hbody, -⟩ := Option.bind_eq_some_iff.1 hheritage
  rw [hbody]
  rfl

/-- The class that is reached from a class by going to the base a number of times. -/
def above? (p : Program) (id : DeclarationId) : ℕ → Option DeclarationId
  | 0 => some id
  | n + 1 => (above? p id n).bind p.base?

theorem above?_succ (h : p.above? id n = some a) : p.above? id (n + 1) = p.base? a := by
  rw [above?, h]
  rfl

theorem exists_above?_of_le (h : p.above? id n = some a) (hle : k ≤ n) : ∃ b, p.above? id k = some b := by
  induction n generalizing a with
  | zero => exact ⟨a, by rwa [Nat.le_zero.1 hle]⟩
  | succ n ih =>
    rcases Nat.le_succ_iff.1 hle with hle | rfl
    · obtain ⟨c, hc, -⟩ := Option.bind_eq_some_iff.1 h
      exact ih hc hle
    · exact ⟨a, h⟩

/-- Classes above a class that come back to one of them go round in a circle. -/
theorem exists_le_of_circle (h : p.above? id (n + 1) = p.above? id k) (hk : k ≤ n) (m : ℕ) :
    ∃ j ≤ n, p.above? id m = p.above? id j := by
  induction m with
  | zero => exact ⟨0, Nat.zero_le n, rfl⟩
  | succ m ih =>
    obtain ⟨j, hj, hm⟩ := ih
    have hnext : p.above? id (m + 1) = p.above? id (j + 1) := by rw [above?, above?, hm]
    rcases Nat.lt_or_eq_of_le hj with hlt | rfl
    · exact ⟨j + 1, hlt, hnext⟩
    · exact ⟨k, hk, hnext.trans h⟩

/-! ### The search for a constructor -/

/-- The parameters of the constructor that a class declares itself. -/
def own? (p : Program) (id : DeclarationId) : Option (List Parameter) := (p.cls? id).bind (·.constructor?)

/-- How the search for a constructor goes on from a class, if it has come through the visited classes: it
ends at a constructor, where there is no base, and where it comes back to a class. -/
inductive Climb (p : Program) : List DeclarationId → DeclarationId → Option Constructor → Prop
  | found {visited : List DeclarationId} {id : DeclarationId} {params : List Parameter}
    (hown : p.own? id = some params) : Climb p visited id (some ⟨id, params⟩)
  | top {visited : List DeclarationId} {id : DeclarationId} (hown : p.own? id = none)
    (hbase : ∀ b, ¬ p.Extends id b) : Climb p visited id none
  | circle {visited : List DeclarationId} {id b : DeclarationId} (hown : p.own? id = none)
    (hbase : p.Extends id b) (hback : b ∈ id :: visited) : Climb p visited id none
  | up {visited : List DeclarationId} {id b : DeclarationId} {r : Option Constructor}
    (hown : p.own? id = none) (hbase : p.Extends id b) (hnew : b ∉ id :: visited)
    (hrest : Climb p (id :: visited) b r) : Climb p visited id r

theorem Extends.unique {c : DeclarationId} (hb : p.Extends a b) (hc : p.Extends a c) : b = c :=
  Option.some.inj ((base?_eq_some_iff.2 hb).symm.trans (base?_eq_some_iff.2 hc))

theorem Climb.unique {r r' : Option Constructor} (h : p.Climb visited id r) (h' : p.Climb visited id r') :
    r = r' := by
  induction h with
  | found hown =>
    cases h' with
    | found hown' =>
      obtain rfl := Option.some.inj (hown.symm.trans hown')
      rfl
    | top hown' _ | circle hown' _ _ | up hown' _ _ _ => cases hown.symm.trans hown'
  | top hown hbase =>
    cases h' with
    | found hown' => cases hown.symm.trans hown'
    | top _ _ => rfl
    | circle _ hbase' _ | up _ hbase' _ _ => exact absurd hbase' (hbase _)
  | circle hown hbase hback =>
    cases h' with
    | found hown' => cases hown.symm.trans hown'
    | top _ _ | circle _ _ _ => rfl
    | up _ hbase' hnew _ => exact absurd (hbase.unique hbase' ▸ hback) hnew
  | up hown hbase hnew _ ih =>
    cases h' with
    | found hown' => cases hown.symm.trans hown'
    | top _ hbase' => exact absurd hbase (hbase' _)
    | circle _ hbase' hback => exact absurd (hbase.unique hbase' ▸ hback) hnew
    | up _ hbase' _ hrest' =>
      obtain rfl := hbase.unique hbase'
      exact ih hrest'

theorem length_le_of_nodup (hnodup : visited.Nodup) (hclasses : ∀ v ∈ visited, v < n) : visited.length ≤ n := by
  have hsub : visited ⊆ List.range n := fun v hv => List.mem_range.2 (hclasses v hv)
  simpa using (List.subperm_of_subset hnodup hsub).length_le

/-- The bound is large enough if it counts the classes that can still be visited: each step but the last
one visits a new class. -/
theorem climb_constructorFrom {fuel : ℕ} (hnodup : (id :: visited).Nodup)
    (hclasses : ∀ v ∈ visited, v < p.declarations.length) (hfuel : p.declarations.length < fuel + visited.length) :
    p.Climb visited id (p.constructorFrom fuel visited id) := by
  induction fuel generalizing visited id with
  | zero =>
    -- more classes would have been visited than there are
    have hle := length_le_of_nodup (List.nodup_cons.1 hnodup).2 hclasses
    omega
  | succ fuel ih =>
    have hbase_none : p.base? id = none → ∀ b, ¬ p.Extends id b := by
      intro hbase b hb
      cases hbase.symm.trans (base?_eq_some_iff.2 hb)
    rw [constructorFrom]
    cases hclass : p.cls? id with
    | none =>
      have hown : p.own? id = none := by rw [own?, hclass]; rfl
      exact .top hown fun b hb => by simpa [hclass] using hb.isSome_cls?
    | some c =>
      dsimp only
      cases hctor : c.constructor? with
      | some params => exact .found (by rw [own?, hclass]; exact hctor)
      | none =>
        have hown : p.own? id = none := by rw [own?, hclass]; exact hctor
        cases hbase : p.base? id with
        | none => exact .top hown (hbase_none hbase)
        | some b =>
          have hextends := base?_eq_some_iff.1 hbase
          dsimp only
          by_cases hback : b ∈ id :: visited
          · rw [if_pos hback]
            exact .circle hown hextends hback
          · rw [if_neg hback]
            refine .up hown hextends hback (ih (List.nodup_cons.2 ⟨hback, hnodup⟩) ?_ ?_)
            · exact List.forall_mem_cons.2 ⟨lt_of_isSome_cls? hextends.isSome_cls?, hclasses⟩
            · rw [List.length_cons]
              omega

/-- The search for the constructor of a class comes to an end, with what is found. -/
theorem climb_iff {r : Option Constructor} : p.Climb [] id r ↔ p.constructor? id = r := by
  have hclimb : p.Climb [] id (p.constructor? id) :=
    climb_constructorFrom (by simp) (by simp) (by simp)
  constructor
  · exact hclimb.unique
  · rintro rfl
    exact hclimb

/-! ### What is found -/

/-- None of the first classes above a class, the class included, declares a constructor. -/
def Bare (p : Program) (id : DeclarationId) (n : ℕ) : Prop :=
  ∀ k < n, ∀ a, p.above? id k = some a → p.own? a = none

/-- The constructor is that of the nearest class that declares one. -/
def Nearest (p : Program) (id : DeclarationId) (c : Constructor) : Prop :=
  ∃ n, p.above? id n = some c.owner ∧ p.own? c.owner = some c.params ∧ p.Bare id n

/-- The classes above a class end, or come back to one of them, before one declares a constructor. -/
def Constructorless (p : Program) (id : DeclarationId) : Prop :=
  ∃ n a, p.above? id n = some a ∧ p.Bare id (n + 1) ∧
    ((∀ b, ¬ p.Extends a b) ∨ ∃ b, p.Extends a b ∧ ∃ k ≤ n, p.above? id k = some b)

theorem Bare.succ (h : p.Bare id n) (ha : p.above? id n = some a) (hown : p.own? a = none) : p.Bare id (n + 1) := by
  intro k hk b hb
  rcases Nat.lt_succ_iff_lt_or_eq.1 hk with hlt | rfl
  · exact h k hlt b hb
  · obtain rfl := Option.some.inj (ha.symm.trans hb)
    exact hown

theorem Nearest.unique {c c' : Constructor} (h : p.Nearest id c) (h' : p.Nearest id c') : c = c' := by
  obtain ⟨n, howner, hown, hbare⟩ := h
  obtain ⟨n', howner', hown', hbare'⟩ := h'
  rcases Nat.lt_trichotomy n n' with hlt | rfl | hlt
  · cases (hbare' n hlt _ howner).symm.trans hown
  · obtain ⟨owner, params⟩ := c
    obtain ⟨owner', params'⟩ := c'
    obtain rfl : owner = owner' := Option.some.inj (howner.symm.trans howner')
    obtain rfl : params = params' := Option.some.inj (hown.symm.trans hown')
    rfl
  · cases (hbare n' hlt _ howner').symm.trans hown'

theorem Constructorless.not_nearest {c : Constructor} (h : p.Constructorless id) : ¬ p.Nearest id c := by
  obtain ⟨n, a, ha, hbare, hend⟩ := h
  rintro ⟨m, howner, hown, -⟩
  -- there are no other classes than the first ones: they end, or they come back
  have hreach : ∃ j ≤ n, p.above? id m = p.above? id j := by
    rcases hend with htop | ⟨b, hb, k, hk, hback⟩
    · by_contra hnone
      have hlt : n < m := by
        by_contra hle
        exact hnone ⟨m, Nat.not_lt.1 hle, rfl⟩
      obtain ⟨b, hb⟩ := exists_above?_of_le howner hlt
      rw [above?_succ ha] at hb
      exact htop b (base?_eq_some_iff.1 hb)
    · apply exists_le_of_circle _ hk
      rw [above?_succ ha, hback]
      exact base?_eq_some_iff.2 hb
  obtain ⟨j, hj, hm⟩ := hreach
  cases (hbare j (Nat.lt_succ_of_le hj) c.owner (hm ▸ howner)).symm.trans hown

/-- A search that has come through the first classes above a class finds the nearest constructor. -/
theorem Climb.finds {start : DeclarationId} {r : Option Constructor} (h : p.Climb visited id r)
    (hid : p.above? start n = some id) (hbare : p.Bare start n)
    (hvisited : ∀ b ∈ visited, ∃ k < n, p.above? start k = some b) :
    (∃ c, r = some c ∧ p.Nearest start c) ∨ r = none ∧ p.Constructorless start := by
  induction h generalizing n with
  | found hown => exact .inl ⟨_, rfl, n, hid, hown, hbare⟩
  | top hown hbase => exact .inr ⟨rfl, n, _, hid, hbare.succ hid hown, .inl hbase⟩
  | circle hown hbase hback =>
    refine .inr ⟨rfl, n, _, hid, hbare.succ hid hown, .inr ⟨_, hbase, ?_⟩⟩
    rcases List.mem_cons.1 hback with rfl | hback
    · exact ⟨n, Nat.le_refl n, hid⟩
    · obtain ⟨k, hk, hb⟩ := hvisited _ hback
      exact ⟨k, Nat.le_of_lt hk, hb⟩
  | up hown hbase _ _ ih =>
    apply ih ((above?_succ hid).trans (base?_eq_some_iff.2 hbase)) (hbare.succ hid hown)
    intro b hb
    rcases List.mem_cons.1 hb with rfl | hb
    · exact ⟨n, Nat.lt_succ_self n, hid⟩
    · obtain ⟨k, hk, hk'⟩ := hvisited b hb
      exact ⟨k, Nat.lt_succ_of_lt hk, hk'⟩

theorem constructor?_cases (p : Program) (id : DeclarationId) :
    (∃ c, p.constructor? id = some c ∧ p.Nearest id c) ∨ p.constructor? id = none ∧ p.Constructorless id :=
  (climb_iff.2 rfl).finds (n := 0) rfl (by intro k hk; cases hk) (by simp)

/-- What is found is the nearest constructor. -/
theorem constructor?_eq_some_iff {c : Constructor} : p.constructor? id = some c ↔ p.Nearest id c := by
  rcases constructor?_cases p id with ⟨c', hfound, hnearest⟩ | ⟨hnone, hless⟩
  · rw [hfound, Option.some.injEq]
    constructor
    · rintro rfl
      exact hnearest
    · exact hnearest.unique
  · rw [hnone]
    constructor
    · intro h
      cases h
    · intro h
      exact absurd h hless.not_nearest

/-- Nothing is found exactly if there is no constructor before the classes end or come back. -/
theorem constructor?_eq_none_iff : p.constructor? id = none ↔ p.Constructorless id := by
  rcases constructor?_cases p id with ⟨c, hfound, hnearest⟩ | ⟨hnone, hless⟩
  · rw [hfound]
    constructor
    · intro h
      cases h
    · intro h
      exact absurd hnearest h.not_nearest
  · exact ⟨fun _ => hless, fun _ => hnone⟩

end ComponentAtlas.Program
