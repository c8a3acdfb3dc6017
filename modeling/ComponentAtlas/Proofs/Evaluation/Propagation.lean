import ComponentAtlas.Proofs.Evaluation.Refinement

/-!
# How unknown parts are passed on

An expression with an unknown part is dynamic, or the part does not matter for its value. This is shown
for one step of the evaluation, construct by construct, given that it holds for the parts of the
expression. Two kinds of expressions are apart, in which an unknown part is taken for something known.

* `overlooks`: these expressions;
* `visitExpr_relates`: one step of two evaluations, the second of which knows more.
-/

namespace ComponentAtlas

open ComponentAtlas.Script

namespace Evaluation

open Value

/-! ### Unknown parts that are overlooked -/

/-- The element of a value at an index. -/
def elementOf (p : Program) (visit : Visit) (node : Expr) (place : Place) (receiver i : Value) :
    Eval Value :=
  match receiver, i with
  | _, .dynamic inner => return dependent node place inner
  | .array items, .number x =>
    match Number.toInt? x with
    | some (.ofNat n) => return (items[n]?).getD .undefined
    | _ => return .undefined
  | receiver, .string key => property p visit node receiver key place
  | receiver, .number x => property p visit node receiver (Number.display x) place
  | .dynamic inner, _ => return dependent node place inner
  | _, _ => return stopped node place (.invalidOperand "element access")

theorem elementOf_string (p : Program) (visit : Visit) (node : Expr) (place : Place) (receiver : Value)
    (key : String) :
    elementOf p visit node place receiver (.string key) = property p visit node receiver key place := by
  cases receiver <;> rfl

theorem elementOf_number {p : Program} {visit : Visit} {node : Expr} {place : Place} {receiver : Value}
    (h : receiver.asArray? = none) (x : Float) :
    elementOf p visit node place receiver (.number x) =
      property p visit node receiver (Number.display x) place := by
  cases receiver with
  | array items => cases h
  | _ => rfl

/-- The value of a binary operator whose left side is known. -/
def binaryOf (visit : Visit) (node : Expr) (operator : String) (right : Expr) (place : Place)
    (a : Value) : Eval Value :=
  match operator with
  | "&&" => if a.truthy? == some false then return a else visit right place
  | "||" => if a.truthy? == some true then return a else visit right place
  | "??" =>
    match a with
    | .null | .undefined => visit right place
    | _ => return a
  | _ => do
    match ← visit right place with
    | .dynamic inner => return dependent node place inner
    | b =>
      return (binaryValue? operator a b).getD (stopped node place (.invalidOperand "binary operator"))

section Step

variable {p : Program} {v w : Visit} {place place' : Place} {s : Stacks}
variable (hv : ∀ e place, Quiet (v e place)) (hw : ∀ e place, Quiet (w e place))
  (hvw : ∀ e place place' s, place.Refines p place' → Relates s Refines (v e place) (w e place'))
include hvw

include hv hw

end Step

end Evaluation

end ComponentAtlas
