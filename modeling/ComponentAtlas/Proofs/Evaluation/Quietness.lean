import ComponentAtlas.Evaluation.Interpreter

/-!
# What evaluation leaves unchanged

While an expression is evaluated, variables and calls are noted as being evaluated, and dependencies
between files are written down. In the end the same variables and calls are being evaluated as in the
beginning, and the value does not depend on the dependencies.

* `Activity.stacks`: the variables and calls that are being evaluated;
* `resultAt`: the result of a computation while some variables and calls are being evaluated;
* `Quiet`: the computation leaves the stacks as they are, and its result depends on nothing else;
* `quiet_visitExpr`: one step of the evaluation;
* `quiet_visit`: evaluation up to any depth.
-/

namespace ComponentAtlas.Evaluation

open ComponentAtlas.Script

/-- Variables and calls that are being evaluated. -/
abbrev Stacks := List DeclarationId × List (DeclarationId × String)

/-- The variables and the calls that are being evaluated. -/
def Activity.stacks (a : Activity) : Stacks := (a.bindings, a.calls)

/-- The result of a computation depends on the stacks only, and these are in the end as they were. -/
def Quiet {α : Type} (x : Eval α) : Prop :=
  ∀ a b : Activity, a.stacks = b.stacks → (x a).1 = (x b).1 ∧ (x a).2.stacks = a.stacks

/-- The result of a computation while some variables and calls are being evaluated. -/
def resultAt {α : Type} (s : Stacks) (x : Eval α) : α :=
  (x { bindings := s.1, calls := s.2 }).1

variable {α β : Type} {p : Program} {visit : Visit}

theorem bind_apply (x : Eval α) (f : α → Eval β) (a : Activity) : (x >>= f) a = f (x a).1 (x a).2 := rfl

theorem Quiet.eq_resultAt {x : Eval α} (hx : Quiet x) (a : Activity) : (x a).1 = resultAt a.stacks x :=
  (hx a { bindings := a.bindings, calls := a.calls } rfl).1

theorem quiet_pure (v : α) : Quiet (pure v) := fun _ _ _ => ⟨rfl, rfl⟩

theorem Quiet.bind {x : Eval α} {f : α → Eval β} (hx : Quiet x) (hf : ∀ v, Quiet (f v)) :
    Quiet (x >>= f) := by
  intro a b hab
  obtain ⟨hvalue, hstacks⟩ := hx a b hab
  have hstacks' := (hx b a hab.symm).2
  obtain ⟨hvalue', hrest⟩ := hf (x a).1 (x a).2 (x b).2 (by rw [hstacks, hstacks', hab])
  refine ⟨?_, hrest.trans hstacks⟩
  have hright : ((x >>= f) b).1 = (f (x b).1 (x b).2).1 := rfl
  rw [hright, ← hvalue]
  exact hvalue'

theorem quiet_note (source target : String) :
    Quiet (modify fun a : Activity => { a with edges := (source, target) :: a.edges }) :=
  fun _ _ _ => ⟨rfl, rfl⟩

/-- A computation that looks at the stacks first. -/
theorem quiet_get_bind {f : Activity → Eval α} (hsame : ∀ a b, a.stacks = b.stacks → f a = f b)
    (hf : ∀ a, Quiet (f a)) : Quiet (get >>= f) := by
  intro a b hab
  have h := hf a a b hab
  have hright : ((get >>= f : Eval α) b).1 = (f b b).1 := rfl
  rw [hright, ← hsame a b hab]
  exact h

/-- A computation with one more variable that is being evaluated. -/
theorem quiet_binding {x : Eval α} (hx : Quiet x) (id : DeclarationId) :
    Quiet (do
      modify fun a : Activity => { a with bindings := id :: a.bindings }
      let v ← x
      modify fun a : Activity => { a with bindings := a.bindings.tail }
      return v) := by
  intro a b hab
  obtain ⟨hbindings, hcalls⟩ := Prod.mk.inj hab
  obtain ⟨hvalue, hstacks⟩ := hx { a with bindings := id :: a.bindings }
    { b with bindings := id :: b.bindings } (by simp only [Activity.stacks, hbindings, hcalls])
  refine ⟨hvalue, ?_⟩
  obtain ⟨hbindings', hcalls'⟩ := Prod.mk.inj hstacks
  exact Prod.ext (congrArg List.tail hbindings') hcalls'

/-- A computation with one more call that is being evaluated. -/
theorem quiet_calling {x : Eval α} (hx : Quiet x) (call : DeclarationId × String) :
    Quiet (do
      modify fun a : Activity => { a with calls := call :: a.calls }
      let v ← x
      modify fun a : Activity => { a with calls := a.calls.tail }
      return v) := by
  intro a b hab
  obtain ⟨hbindings, hcalls⟩ := Prod.mk.inj hab
  obtain ⟨hvalue, hstacks⟩ := hx { a with calls := call :: a.calls }
    { b with calls := call :: b.calls } (by simp only [Activity.stacks, hbindings, hcalls])
  refine ⟨hvalue, ?_⟩
  obtain ⟨hbindings', hcalls'⟩ := Prod.mk.inj hstacks
  exact Prod.ext hbindings' (congrArg List.tail hcalls')

/-- The initializer whose value a variable has. -/
def initializer? : DeclarationKind → Option Expr
  | .binding (some (.node (.new _ _) _)) _ => none
  | .binding (some init) _ => some init
  | _ => none

theorem visitDeclaration_eq (p : Program) (visit : Visit) (node : Expr) (id : DeclarationId)
    (place : Place) :
    visitDeclaration p visit node id place =
      match p.declaration? id with
      | none => pure (stopped node place (.unknownIdentifier ""))
      | some d => do
        modify fun a => { a with edges := (place.file, d.file) :: a.edges }
        match initializer? d.kind with
        | none => return .reference (.ofDeclaration d)
        | some init => do
          let a ← get
          if id ∈ a.bindings then return stopped node place (.circular d.name)
          else
            modify fun a => { a with bindings := id :: a.bindings }
            let value ← visit init { file := d.file }
            modify fun a => { a with bindings := a.bindings.tail }
            return value := by
  unfold visitDeclaration
  cases p.declaration? id with
  | none => rfl
  | some d =>
    refine congrArg (_ >>= ·) (funext fun _ => ?_)
    cases d.kind with
    | binding init type =>
      rcases init with _ | ⟨shape, range⟩
      · rfl
      · cases shape <;> rfl
    | _ => rfl

/-- The value of the next member of an enumeration. -/
def enumValue (visit : Visit) (place : Place) (next : Float) (m : EnumMember) : Eval Value :=
  match m.value with
  | some e => visit e place
  | none => pure (.number next)

/-- The number that the next member without value has. -/
def counted (next : Float) : Value → Float
  | .number x => x + 1
  | _ => next

theorem visitEnum_cons (visit : Visit) (property : String) (place : Place) (m : EnumMember)
    (members : List EnumMember) (next : Float) :
    visitEnum visit property place (m :: members) next = (do
      let value ← enumValue visit place next m
      if m.name == property then return value
      else visitEnum visit property place members (counted next value)) := by
  rw [visitEnum, enumValue]
  cases m.value <;> rfl

/-- The items for which a spread value stands. -/
def spreadItems (e : Expr) (place : Place) : Value → List Value
  | .array items => items
  | .dynamic d => [.dynamic d]
  | _ => [stopped e place (.invalidOperand "spread")]

theorem visitElements_spread (visit : Visit) (place : Place) (e : Expr) (es : List Element) :
    visitElements visit place (.spread e :: es) = (do
      let v ← visit e place
      let vs ← visitElements visit place es
      return spreadItems e place v ++ vs) := by
  refine congrArg (visit e place >>= ·) (funext fun v => ?_)
  cases v <;> rfl

section Step

variable (hvisit : ∀ e place, Quiet (visit e place))
include hvisit

theorem quiet_visitDeclaration (node : Expr) (id : DeclarationId) (place : Place) :
    Quiet (visitDeclaration p visit node id place) := by
  rw [visitDeclaration_eq]
  split
  · exact quiet_pure _
  · refine (quiet_note _ _).bind fun _ => ?_
    split
    · exact quiet_pure _
    · refine quiet_get_bind (fun a b hab => ?_) fun a => ?_
      · rw [(Prod.mk.inj hab).1]
      · split
        · exact quiet_pure _
        · exact quiet_binding (hvisit _ _) id

theorem quiet_visitTarget (node : Expr) (target : Target) (place : Place) :
    Quiet (visitTarget p visit node target place) := by
  cases target with
  | declaration id => exact quiet_visitDeclaration hvisit node id place
  | whole file => exact quiet_pure _
  | external module name => exact quiet_pure _

theorem quiet_visitIdent (node : Expr) (name : String) (place : Place) :
    Quiet (visitIdent p visit node name place) := by
  unfold visitIdent
  split
  · exact quiet_pure _
  · split
    · exact quiet_pure _
    · split
      · exact quiet_visitTarget hvisit _ _ _
      · exact quiet_pure _

theorem quiet_visitEnum (property : String) (place : Place) (members : List EnumMember) (next : Float) :
    Quiet (visitEnum visit property place members next) := by
  induction members generalizing next with
  | nil => exact quiet_pure _
  | cons m members ih =>
    have hvalue : Quiet (enumValue visit place next m) := by
      unfold enumValue
      split
      · exact hvisit _ _
      · exact quiet_pure _
    rw [visitEnum_cons]
    refine hvalue.bind fun value => ?_
    split
    · exact quiet_pure _
    · exact ih _

theorem quiet_visitMember (node : Expr) (r : Reference) (property : String) (place : Place) :
    Quiet (visitMember p visit node r property place) := by
  unfold visitMember
  split
  · exact quiet_pure _
  · split
    · split
      · split
        · exact quiet_pure _
        · split
          · exact hvisit _ _
          · exact quiet_pure _
      · exact quiet_pure _
    · exact quiet_visitEnum hvisit _ _ _ _
    · exact quiet_pure _

theorem quiet_property (node : Expr) (receiver : Value) (name : String) (place : Place) :
    Quiet (property p visit node receiver name place) := by
  unfold property
  split
  case h_4 => exact quiet_visitMember hvisit _ _ _ _
  all_goals exact quiet_pure _

theorem quiet_visitProperty (node object : Expr) (name : String) (place : Place) :
    Quiet (visitProperty p visit node object name place) := by
  unfold visitProperty
  split
  · split
    · exact quiet_visitTarget hvisit _ _ _
    · exact quiet_pure _
  · exact (hvisit _ _).bind fun receiver => quiet_property hvisit _ _ _ _

theorem quiet_visitElement (node object index : Expr) (place : Place) :
    Quiet (visitElement p visit node object index place) := by
  unfold visitElement
  refine (hvisit _ _).bind fun receiver => (hvisit _ _).bind fun i => ?_
  split
  · exact quiet_pure _
  · split <;> exact quiet_pure _
  · exact quiet_property hvisit _ _ _ _
  · exact quiet_property hvisit _ _ _ _
  · exact quiet_pure _
  · exact quiet_pure _

theorem quiet_visitElements (place : Place) (es : List Element) :
    Quiet (visitElements visit place es) := by
  induction es with
  | nil => exact quiet_pure _
  | cons e es ih =>
    cases e with
    | hole => exact ih.bind fun _ => quiet_pure _
    | item e => exact (hvisit _ _).bind fun _ => ih.bind fun _ => quiet_pure _
    | spread e =>
      rw [visitElements_spread]
      exact (hvisit _ _).bind fun _ => ih.bind fun _ => quiet_pure _

theorem quiet_visitKey (node : Expr) (place : Place) (key : Key) :
    Quiet (visitKey visit node place key) := by
  cases key with
  | fixed name => exact quiet_pure _
  | computed e =>
    refine (hvisit _ _).bind fun v => ?_
    split <;> exact quiet_pure _

theorem quiet_visitMembers (node : Expr) (place : Place) (ms : List Member)
    (entries : Table String Value) : Quiet (visitMembers visit node place ms entries) := by
  induction ms generalizing entries with
  | nil => exact quiet_pure _
  | cons m ms ih =>
    cases m with
    | entry key e =>
      refine (quiet_visitKey hvisit _ _ _).bind fun key => ?_
      split
      · exact quiet_pure _
      · exact (hvisit _ _).bind fun _ => ih _
    | spread e =>
      refine (hvisit _ _).bind fun v => ?_
      split
      · exact ih _
      · exact quiet_pure _
      · exact quiet_pure _

theorem quiet_visitPieces (node : Expr) (place : Place) (quasis : List String) (es : List Expr)
    (out : String) : Quiet (visitPieces visit node place quasis es out) := by
  induction quasis generalizing es out with
  | nil => exact quiet_pure _
  | cons quasi quasis ih =>
    cases es with
    | nil => exact ih _ _
    | cons e es =>
      refine (hvisit _ _).bind fun v => ?_
      split
      · exact quiet_pure _
      · split
        · exact ih _ _
        · exact quiet_pure _

theorem quiet_visitUnary (node : Expr) (operator : String) (argument : Expr) (place : Place) :
    Quiet (visitUnary visit node operator argument place) := by
  refine (hvisit _ _).bind fun v => ?_
  split <;> exact quiet_pure _

theorem quiet_visitBinary (node : Expr) (operator : String) (left right : Expr) (place : Place) :
    Quiet (visitBinary visit node operator left right place) := by
  refine (hvisit _ _).bind fun a => ?_
  split
  · exact quiet_pure _
  · split
    · split
      · exact quiet_pure _
      · exact hvisit _ _
    · split
      · exact quiet_pure _
      · exact hvisit _ _
    · split
      · exact hvisit _ _
      · exact hvisit _ _
      · exact quiet_pure _
    · refine (hvisit _ _).bind fun b => ?_
      split <;> exact quiet_pure _

theorem quiet_resolveCallee (callee : Expr) (place : Place) :
    Quiet (resolveCallee p visit callee place) := by
  unfold resolveCallee
  split
  · refine (hvisit _ _).bind fun receiver => ?_
    split
    · exact quiet_pure _
    · exact (quiet_property hvisit _ _ _ _).bind fun _ => quiet_pure _
  · refine (hvisit _ _).bind fun value => ?_
    split <;> exact quiet_pure _

theorem quiet_callDeclared (node : Expr) (c : Callee) (args : List Element) (place : Place) :
    Quiet (callDeclared visit node c args place) := by
  unfold callDeclared
  split
  · exact quiet_pure _
  · refine quiet_get_bind (fun a b hab => ?_) fun a => ?_
    · rw [(Prod.mk.inj hab).2]
    · split
      · exact quiet_pure _
      · exact (quiet_visitElements hvisit _ _).bind fun values => quiet_calling (hvisit _ _) _

theorem quiet_visitCall (node callee : Expr) (args : List Element) (place : Place) :
    Quiet (visitCall p visit node callee args place) := by
  unfold visitCall
  split
  · exact hvisit _ _
  · refine (quiet_resolveCallee hvisit _ _).bind fun c => ?_
    split
    · exact quiet_callDeclared hvisit _ _ _ _
    · exact (quiet_visitElements hvisit _ _).bind fun values => hvisit _ _
    · exact quiet_pure _
    · exact quiet_pure _

theorem quiet_visitConditional (node test yes no : Expr) (place : Place) :
    Quiet (visitConditional visit node test yes no place) := by
  refine (hvisit _ _).bind fun v => ?_
  split
  · exact quiet_pure _
  · split <;> exact hvisit _ _

/-- One step of the evaluation is quiet, if the evaluation of the parts is. -/
theorem quiet_visitExpr (node : Expr) (place : Place) : Quiet (visitExpr p visit node place) := by
  unfold visitExpr
  split
  case h_5 => exact quiet_visitPieces hvisit _ _ _ _ _
  case h_6 => exact quiet_visitIdent hvisit _ _ _
  case h_7 => exact quiet_visitProperty hvisit _ _ _ _
  case h_8 => exact quiet_visitElement hvisit _ _ _ _
  case h_9 => exact quiet_visitCall hvisit _ _ _ _
  case h_11 => exact (quiet_visitElements hvisit _ _).bind fun _ => quiet_pure _
  case h_12 => exact quiet_visitMembers hvisit _ _ _ _
  case h_15 => exact quiet_visitUnary hvisit _ _ _ _
  case h_16 => exact quiet_visitBinary hvisit _ _ _ _ _
  case h_17 => exact quiet_visitConditional hvisit _ _ _ _ _
  all_goals exact quiet_pure _

end Step

theorem quiet_visit (p : Program) (depth : Nat) (node : Expr) (place : Place) :
    Quiet (Evaluation.visit p depth node place) := by
  induction depth generalizing node place with
  | zero => exact quiet_pure _
  | succ depth ih => exact quiet_visitExpr ih node place

end ComponentAtlas.Evaluation
