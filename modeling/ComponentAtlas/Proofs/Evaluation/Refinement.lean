import ComponentAtlas.Proofs.Evaluation.Quietness

/-!
# Evaluation that knows more

Two evaluations are compared of which the second knows more: it goes deeper, or it knows values for names
without meaning. Where the first one finds a dynamic value, the second may find anything.

* `Value.isKnown`: whether no part of a value is dynamic;
* `Value.Refines`: a value with unknown parts beside a value in which more is known;
* `Relates`: two computations that have related results;
* `Place.Refines`: a place beside one in which more is known.
-/

namespace ComponentAtlas

open ComponentAtlas.Script

/-- Whether a dynamic value is a function that can be called. -/
def Dynamic.isCallable (d : Dynamic) : Bool :=
  match d.reason with
  | .functionValue =>
    match d.node.shape with
    | .function _ (some _) => true
    | _ => false
  | _ => false

namespace Value

mutual

/-- Whether no part of a value is dynamic. -/
def isKnown : Value → Bool
  | .array items => allKnown items
  | .map entries => allKnownEntries entries
  | .dynamic _ => false
  | _ => true

/-- Whether several values are known. -/
def allKnown : List Value → Bool
  | [] => true
  | v :: vs => v.isKnown && allKnown vs

/-- Whether the values of several entries are known. -/
def allKnownEntries : List (String × Value) → Bool
  | [] => true
  | (_, v) :: es => v.isKnown && allKnownEntries es

end

mutual

/-- The second value is the first one, except that dynamic parts which are no functions may have become
anything. -/
inductive Refines : Value → Value → Prop
  | refl (v : Value) : Refines v v
  | unknown {d : Dynamic} (hd : d.isCallable = false) (v : Value) : Refines (.dynamic d) v
  | array {items items' : List Value} (h : RefinesItems items items') :
    Refines (.array items) (.array items')
  | map {entries entries' : Table String Value} (h : RefinesEntries entries entries') :
    Refines (.map entries) (.map entries')

/-- Items that are refined one by one. -/
inductive RefinesItems : List Value → List Value → Prop
  | nil : RefinesItems [] []
  | cons {v w : Value} {vs ws : List Value} (h : Refines v w) (hs : RefinesItems vs ws) :
    RefinesItems (v :: vs) (w :: ws)

/-- Entries under the same keys that are refined one by one. -/
inductive RefinesEntries : List (String × Value) → List (String × Value) → Prop
  | nil : RefinesEntries [] []
  | cons {v w : Value} {vs ws : List (String × Value)} (key : String) (h : Refines v w)
    (hs : RefinesEntries vs ws) : RefinesEntries ((key, v) :: vs) ((key, w) :: ws)

end

mutual

/-- A known value has no other refinement. -/
theorem Refines.eq_of_isKnown {v w : Value} : v.Refines w → v.isKnown → w = v
  | .refl _, _ => rfl
  | .array h, hv => congrArg Value.array (h.eq_of_allKnown (by simpa [isKnown] using hv))
  | .map h, hv => congrArg Value.map (h.eq_of_allKnown (by simpa [isKnown] using hv))

theorem RefinesItems.eq_of_allKnown {vs ws : List Value} : RefinesItems vs ws → allKnown vs → ws = vs
  | .nil, _ => rfl
  | .cons h hs, hv => by
    rw [allKnown, Bool.and_eq_true] at hv
    rw [h.eq_of_isKnown hv.1, hs.eq_of_allKnown hv.2]

theorem RefinesEntries.eq_of_allKnown {vs ws : List (String × Value)} :
    RefinesEntries vs ws → allKnownEntries vs → ws = vs
  | .nil, _ => rfl
  | .cons _ h hs, hv => by
    rw [allKnownEntries, Bool.and_eq_true] at hv
    rw [h.eq_of_isKnown hv.1, hs.eq_of_allKnown hv.2]

end

theorem RefinesItems.refl (vs : List Value) : RefinesItems vs vs := by
  induction vs with
  | nil => exact .nil
  | cons v vs ih => exact .cons (.refl v) ih

theorem RefinesEntries.refl (es : List (String × Value)) : RefinesEntries es es := by
  induction es with
  | nil => exact .nil
  | cons e es ih => exact .cons e.1 (.refl e.2) ih

theorem RefinesItems.length_eq {vs ws : List Value} (h : RefinesItems vs ws) :
    vs.length = ws.length := by
  induction vs generalizing ws with
  | nil =>
    cases h
    rfl
  | cons v vs ih =>
    cases h with
    | cons _ hs => exact congrArg (· + 1) (ih hs)

theorem RefinesItems.append {vs ws vs' ws' : List Value} (h : RefinesItems vs ws)
    (h' : RefinesItems vs' ws') : RefinesItems (vs ++ vs') (ws ++ ws') := by
  induction vs generalizing ws with
  | nil =>
    cases h
    exact h'
  | cons v vs ih =>
    cases h with
    | cons h hs => exact .cons h (ih hs)

/-- An item that is missing is missing in both lists. -/
theorem RefinesItems.getD {vs ws : List Value} (h : RefinesItems vs ws) (n : Nat) (v : Value) :
    ((vs[n]?).getD v).Refines ((ws[n]?).getD v) := by
  induction vs generalizing ws n with
  | nil =>
    cases h
    exact .refl _
  | cons u vs ih =>
    cases h with
    | cons h hs =>
      cases n with
      | zero => exact h
      | succ n => simpa using ih hs n

/-- What is found under a key is refined. -/
inductive RefinesOption : Option Value → Option Value → Prop
  | none : RefinesOption none none
  | some {v w : Value} (h : v.Refines w) : RefinesOption (some v) (some w)

theorem RefinesOption.refl (v : Option Value) : RefinesOption v v := by
  cases v with
  | none => exact .none
  | some v => exact .some (.refl v)

theorem RefinesOption.getD {v w : Option Value} (h : RefinesOption v w) (u : Value) :
    (v.getD u).Refines (w.getD u) := by
  cases h with
  | none => exact .refl u
  | some h => exact h

theorem RefinesEntries.get? {vs ws : List (String × Value)} (h : RefinesEntries vs ws) (key : String) :
    RefinesOption (Table.get? key vs) (Table.get? key ws) := by
  induction vs generalizing ws with
  | nil =>
    cases h
    exact .none
  | cons e vs ih =>
    cases h with
    | cons k h hs =>
      simp only [Table.get?]
      split
      · exact .some h
      · exact ih hs

theorem RefinesEntries.put {vs ws : List (String × Value)} {v w : Value} (h : RefinesEntries vs ws)
    (key : String) (hvw : v.Refines w) : RefinesEntries (Table.put key v vs) (Table.put key w ws) := by
  induction vs generalizing ws with
  | nil =>
    cases h
    exact .cons key hvw .nil
  | cons e vs ih =>
    cases h with
    | cons k h hs =>
      simp only [Table.put]
      split
      · exact .cons k hvw hs
      · exact .cons k h (ih hs)

theorem RefinesEntries.extend {vs ws vs' ws' : List (String × Value)} (h : RefinesEntries vs ws)
    (h' : RefinesEntries vs' ws') : RefinesEntries (Table.extend vs vs') (Table.extend ws ws') := by
  induction vs' generalizing vs ws ws' with
  | nil =>
    cases h'
    exact h
  | cons e vs' ih =>
    cases h' with
    | cons k hvw hs =>
      have hrest := ih (h.put k hvw) hs
      exact hrest

end Value

namespace Evaluation

open Value

/-! ### Computations with related results -/

/-- The results of two computations are related, while the same variables and calls are being
evaluated. -/
def Relates {α β : Type} (s : Stacks) (R : α → β → Prop) (x : Eval α) (y : Eval β) : Prop :=
  ∀ a b : Activity, a.stacks = s → b.stacks = s → R (x a).1 (y b).1

section Relates

variable {α β γ δ : Type} {s : Stacks} {R : α → β → Prop} {S : γ → δ → Prop} {x : Eval α} {y : Eval β}
  {f : α → Eval γ} {g : β → Eval δ}

theorem Relates.bind (hx : Quiet x) (hy : Quiet y) (h : Relates s R x y)
    (hf : ∀ w, R (resultAt s x) w → Relates s S (f (resultAt s x)) (g w)) :
    Relates s S (x >>= f) (y >>= g) := by
  intro a b ha hb
  have hvalue : (x a).1 = resultAt s x := ha ▸ hx.eq_resultAt a
  have hrest := hf (y b).1 (hvalue ▸ h a b ha hb) (x a).2 (y b).2
    ((hx a a rfl).2.trans ha) ((hy b b rfl).2.trans hb)
  rw [← hvalue] at hrest
  exact hrest

end Relates

/-! ### Places -/

/-- A name that has no meaning in a file as long as it is not bound. -/
def Meaningless (p : Program) (file name : String) : Prop :=
  name ≠ "undefined" ∧ name ≠ "forwardRef" ∧ p.identifier? name file = none

/-- The second place is the first one, with refined values of the parameters, and perhaps with values
for names without meaning. -/
structure Place.Refines (p : Program) (place place' : Place) : Prop where
  file_eq : place'.file = place.file
  scope : ∀ name, RefinesOption (Table.get? name place.scope) (Table.get? name place'.scope) ∨
    Table.get? name place.scope = none ∧ Meaningless p place.file name

theorem Place.Refines.refl (p : Program) (place : Place) : place.Refines p place where
  file_eq := rfl
  scope _ := .inl (.refl _)

end Evaluation

end ComponentAtlas
