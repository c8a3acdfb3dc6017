import ComponentAtlas.Proofs.Evaluation.Propagation
import Mathlib.Tactic.Choose

/-!
# What one step of the evaluation asks for

One step of the evaluation does not look into the function that evaluates the parts of an expression.
So it can be written down as a plan: which parts are evaluated, what is looked up on the stacks, and
what is put on them around the evaluation of a part. A plan can be carried out by anything that
evaluates parts.

* `Entry`: a variable or a call that is being evaluated;
* `Plan`: what a computation asks for; `Plan.run`: the computation with a given evaluation of parts;
* `Plan.Guarded`: something is put on a stack only behind a check that it is not there;
* `Planned`: a computation that follows a guarded plan, whatever evaluates the parts;
* `planned_visitExpr`: every step of the evaluation does; `plan`: its plan.
-/

namespace ComponentAtlas.Evaluation

open ComponentAtlas.Script

/-! ### The stacks -/

/-- A variable or a call that is being evaluated. -/
inductive Entry
  | binding (id : DeclarationId)
  | call (key : DeclarationId × String)
  deriving DecidableEq

namespace Entry

/-- Whether it is on the stacks. -/
def On : Entry → Activity → Prop
  | binding id, a => id ∈ a.bindings
  | call key, a => key ∈ a.calls

instance (entry : Entry) (a : Activity) : Decidable (entry.On a) :=
  match entry with
  | binding id => inferInstanceAs (Decidable (id ∈ a.bindings))
  | call key => inferInstanceAs (Decidable (key ∈ a.calls))

/-- Put on its stack. -/
def push : Entry → Activity → Activity
  | binding id, a => { a with bindings := id :: a.bindings }
  | call key, a => { a with calls := key :: a.calls }

/-- Taken from its stack. -/
def pop : Entry → Activity → Activity
  | binding _, a => { a with bindings := a.bindings.tail }
  | call _, a => { a with calls := a.calls.tail }

/-- A computation while it is on its stack. -/
def during {α : Type} (entry : Entry) (x : Eval α) : Eval α := do
  modify entry.push
  let v ← x
  modify entry.pop
  return v

end Entry

/-! ### Plans -/

/-- What a computation asks for before it gives a result. -/
inductive Plan (α : Type)
  /-- A result. -/
  | done (v : α)
  /-- A dependency between files is written down. -/
  | note (source target : String) (next : Plan α)
  /-- A part is evaluated. -/
  | part (node : Expr) (place : Place) (next : Value → Plan α)
  /-- Something is looked up on the stacks. -/
  | check (entry : Entry) (yes no : Plan α)
  /-- A part is evaluated while something is on its stack. -/
  | during (entry : Entry) (node : Expr) (place : Place) (next : Value → Plan α)

namespace Plan

variable {α β : Type}

/-- The computation, with an evaluation of parts. -/
def run (visit : Visit) : Plan α → Eval α
  | done v => pure v
  | note source target next => do
    modify fun a => { a with edges := (source, target) :: a.edges }
    next.run visit
  | part node place next => do
    let v ← visit node place
    (next v).run visit
  | check entry yes no => do
    let a ← get
    if entry.On a then yes.run visit else no.run visit
  | during entry node place next => do
    let v ← entry.during (visit node place)
    (next v).run visit

/-- A plan that goes on where another one gives a result. -/
def bind (f : α → Plan β) : Plan α → Plan β
  | done v => f v
  | note source target next => note source target (next.bind f)
  | part node place next => part node place fun v => (next v).bind f
  | check entry yes no => check entry (yes.bind f) (no.bind f)
  | during entry node place next => during entry node place fun v => (next v).bind f

theorem run_bind (visit : Visit) (plan : Plan α) (f : α → Plan β) :
    (plan.bind f).run visit = plan.run visit >>= fun v => (f v).run visit := by
  induction plan with
  | done v => rfl
  | note source target next ih => exact congrArg (_ >>= ·) (funext fun _ => ih)
  | part node place next ih => exact congrArg (_ >>= ·) (funext ih)
  | check entry yes no ihyes ihno =>
    funext a
    change (if entry.On a then (yes.bind f).run visit else (no.bind f).run visit) a =
      ((if entry.On a then yes.run visit else no.run visit) >>= fun v => (f v).run visit) a
    by_cases h : entry.On a
    · rw [if_pos h, if_pos h, ihyes]
    · rw [if_neg h, if_neg h, ihno]
  | during entry node place next ih => exact congrArg (_ >>= ·) (funext ih)

/-- Only what is known not to be on its stack is put there. It is known behind a check, since in the
meantime all evaluations leave the stacks as they were. -/
def Guarded : List Entry → Plan α → Prop
  | _, done _ => True
  | known, note _ _ next => next.Guarded known
  | known, part _ _ next => ∀ v, (next v).Guarded known
  | known, check entry yes no => yes.Guarded known ∧ no.Guarded (entry :: known)
  | known, during entry _ _ next => entry ∈ known ∧ ∀ v, (next v).Guarded known

theorem Guarded.mono {plan : Plan α} {known known' : List Entry} (h : plan.Guarded known)
    (hsub : known ⊆ known') : plan.Guarded known' := by
  induction plan generalizing known known' with
  | done v => trivial
  | note source target next ih => exact ih h hsub
  | part node place next ih => exact fun v => ih v (h v) hsub
  | check entry yes no ihyes ihno => exact ⟨ihyes h.1 hsub, ihno h.2 (List.cons_subset_cons entry hsub)⟩
  | during entry node place next ih => exact ⟨hsub h.1, fun v => ih v (h.2 v) hsub⟩

theorem Guarded.bind {plan : Plan α} {f : α → Plan β} {known : List Entry} (h : plan.Guarded known)
    (hf : ∀ v, (f v).Guarded known) : (plan.bind f).Guarded known := by
  induction plan generalizing known with
  | done v => exact hf v
  | note source target next ih => exact ih h hf
  | part node place next ih => exact fun v => ih v (h v) hf
  | check entry yes no ihyes ihno =>
    exact ⟨ihyes h.1 hf, ihno h.2 fun v => (hf v).mono (List.subset_cons_self entry known)⟩
  | during entry node place next ih => exact ⟨h.1, fun v => ih v (h.2 v) hf⟩

end Plan

/-! ### Computations that follow a plan -/

variable {α β : Type} {p : Program} {known : List Entry}

/-- A computation that follows a guarded plan, whatever evaluates the parts. -/
def Planned (known : List Entry) (x : Visit → Eval α) : Prop :=
  ∃ plan : Plan α, plan.Guarded known ∧ ∀ visit, x visit = plan.run visit

theorem planned_pure (v : α) : Planned known fun _ => pure v := ⟨.done v, trivial, fun _ => rfl⟩

theorem planned_part (node : Expr) (place : Place) : Planned known fun visit => visit node place :=
  ⟨.part node place .done, fun _ => trivial, fun _ => rfl⟩

theorem planned_note (source target : String) :
    Planned known fun _ => modify fun a : Activity => { a with edges := (source, target) :: a.edges } :=
  ⟨.note source target (.done ()), trivial, fun _ => rfl⟩

theorem Planned.bind {x : Visit → Eval α} {f : α → Visit → Eval β} (hx : Planned known x)
    (hf : ∀ v, Planned known (f v)) : Planned known fun visit => x visit >>= fun v => f v visit := by
  obtain ⟨plan, hplan, hrun⟩ := hx
  choose next hnext hruns using hf
  refine ⟨plan.bind next, hplan.bind hnext, fun visit => ?_⟩
  change x visit >>= _ = _
  rw [plan.run_bind, hrun]
  exact congrArg (_ >>= ·) (funext fun v => hruns v visit)

theorem planned_check (entry : Entry) {yes no : Visit → Eval α} (hyes : Planned known yes)
    (hno : Planned (entry :: known) no) :
    Planned known fun visit => (do
      let a ← get
      if entry.On a then yes visit else no visit) := by
  obtain ⟨planYes, hplanYes, hrunYes⟩ := hyes
  obtain ⟨planNo, hplanNo, hrunNo⟩ := hno
  refine ⟨.check entry planYes planNo, ⟨hplanYes, hplanNo⟩, fun visit => ?_⟩
  simp only [Plan.run, hrunYes, hrunNo]

theorem planned_during {entry : Entry} (h : entry ∈ known) (node : Expr) (place : Place) :
    Planned known fun visit => entry.during (visit node place) :=
  ⟨.during entry node place .done, ⟨h, fun _ => trivial⟩, fun _ => rfl⟩

theorem planned_ite (c : Prop) [Decidable c] {x y : Visit → Eval α} (hx : Planned known x)
    (hy : Planned known y) : Planned known fun visit => if c then x visit else y visit := by
  by_cases hc : c
  · simpa only [if_pos hc] using hx
  · simpa only [if_neg hc] using hy

/-! ### The steps of the evaluation -/

theorem planned_visitDeclaration (node : Expr) (id : DeclarationId) (place : Place) :
    Planned known fun visit => visitDeclaration p visit node id place := by
  simp only [visitDeclaration_eq]
  cases p.declaration? id with
  | none => exact planned_pure _
  | some d =>
    refine (planned_note _ _).bind fun _ => ?_
    cases initializer? d.kind with
    | none => exact planned_pure _
    | some init =>
      exact planned_check (.binding id) (planned_pure _) (planned_during List.mem_cons_self _ _)

theorem planned_visitTarget (node : Expr) (target : Target) (place : Place) :
    Planned known fun visit => visitTarget p visit node target place := by
  cases target with
  | declaration id => exact planned_visitDeclaration node id place
  | whole file => exact planned_pure _
  | external module name => exact planned_pure _

theorem planned_visitIdent (node : Expr) (name : String) (place : Place) :
    Planned known fun visit => visitIdent p visit node name place := by
  unfold visitIdent
  cases Table.get? name place.scope with
  | some value => exact planned_pure _
  | none =>
    refine planned_ite _ (planned_pure _) ?_
    cases p.identifier? name place.file with
    | some target => exact planned_visitTarget _ _ _
    | none => exact planned_pure _

theorem planned_visitEnum (property : String) (place : Place) (members : List EnumMember) (next : Float) :
    Planned known fun visit => visitEnum visit property place members next := by
  induction members generalizing next with
  | nil => exact planned_pure _
  | cons m members ih =>
    have hvalue : Planned known fun visit => enumValue visit place next m := by
      unfold enumValue
      cases m.value with
      | some e => exact planned_part _ _
      | none => exact planned_pure _
    simp only [visitEnum_cons]
    exact hvalue.bind fun value => planned_ite _ (planned_pure _) (ih _)

theorem planned_visitMember (node : Expr) (r : Reference) (property : String) (place : Place) :
    Planned known fun visit => visitMember p visit node r property place := by
  unfold visitMember
  cases p.declaration? r.id with
  | none => exact planned_pure _
  | some d =>
    dsimp only
    cases d.kind with
    | cls body =>
      dsimp only
      cases body.static? property with
      | none => exact planned_pure _
      | some m =>
        refine planned_ite _ (planned_pure _) ?_
        cases m.value with
        | some e => exact planned_part _ _
        | none => exact planned_pure _
    | enumeration members => exact planned_visitEnum _ _ _ _
    | _ => exact planned_pure _

theorem planned_property (node : Expr) (receiver : Value) (name : String) (place : Place) :
    Planned known fun visit => property p visit node receiver name place := by
  unfold property
  cases receiver with
  | reference r => exact planned_visitMember _ _ _ _
  | dynamic d =>
    obtain ⟨n, file, reason⟩ := d
    cases reason <;> exact planned_pure _
  | _ => exact planned_pure _

theorem planned_visitProperty (node object : Expr) (name : String) (place : Place) :
    Planned known fun visit => visitProperty p visit node object name place := by
  unfold visitProperty
  cases wholeFile? p object place with
  | some file =>
    dsimp only
    cases p.export? file name with
    | some target => exact planned_visitTarget _ _ _
    | none => exact planned_pure _
  | none => exact (planned_part _ _).bind fun receiver => planned_property _ _ _ _

theorem planned_elementOf (node : Expr) (place : Place) (receiver i : Value) :
    Planned known fun visit => elementOf p visit node place receiver i := by
  cases i with
  | string key =>
    simp only [elementOf_string]
    exact planned_property _ _ _ _
  | number x =>
    by_cases harray : receiver.asArray? = none
    · simp only [elementOf_number harray]
      exact planned_property _ _ _ _
    · cases receiver with
      | array items =>
        simp only [elementOf]
        cases Number.toInt? x with
        | none => exact planned_pure _
        | some k => cases k <;> exact planned_pure _
      | _ => exact absurd rfl harray
  | _ => cases receiver <;> exact planned_pure _

theorem planned_visitElement (node object index : Expr) (place : Place) :
    Planned known fun visit => visitElement p visit node object index place :=
  (planned_part object place).bind fun receiver => (planned_part index place).bind fun i =>
    planned_elementOf node place receiver i

theorem planned_visitElements (place : Place) (es : List Element) :
    Planned known fun visit => visitElements visit place es := by
  induction es with
  | nil => exact planned_pure _
  | cons e es ih =>
    cases e with
    | hole => exact ih.bind fun _ => planned_pure _
    | item e => exact (planned_part _ _).bind fun _ => ih.bind fun _ => planned_pure _
    | spread e =>
      simp only [visitElements_spread]
      exact (planned_part _ _).bind fun _ => ih.bind fun _ => planned_pure _

theorem planned_visitKey (node : Expr) (place : Place) (key : Key) :
    Planned known fun visit => visitKey visit node place key := by
  cases key with
  | fixed name => exact planned_pure _
  | computed e =>
    refine (planned_part _ _).bind fun v => ?_
    cases v <;> exact planned_pure _

theorem planned_visitMembers (node : Expr) (place : Place) (ms : List Member) (entries : Table String Value) :
    Planned known fun visit => visitMembers visit node place ms entries := by
  induction ms generalizing entries with
  | nil => exact planned_pure _
  | cons m ms ih =>
    cases m with
    | entry key e =>
      refine (planned_visitKey _ _ _).bind fun key => ?_
      cases key with
      | error value => exact planned_pure _
      | ok name => exact (planned_part _ _).bind fun _ => ih _
    | spread e =>
      refine (planned_part _ _).bind fun v => ?_
      cases v with
      | map inner => exact ih _
      | _ => exact planned_pure _

theorem planned_visitUnary (node : Expr) (operator : String) (argument : Expr) (place : Place) :
    Planned known fun visit => visitUnary visit node operator argument place := by
  refine (planned_part _ _).bind fun v => ?_
  cases v <;> exact planned_pure _

theorem planned_visitPieces (node : Expr) (place : Place) (quasis : List String) (es : List Expr)
    (out : String) : Planned known fun visit => visitPieces visit node place quasis es out := by
  induction quasis generalizing es out with
  | nil => exact planned_pure _
  | cons quasi quasis ih =>
    cases es with
    | nil => exact ih _ _
    | cons e es =>
      refine (planned_part _ _).bind fun v => ?_
      cases v with
      | dynamic d => exact planned_pure _
      | _ =>
        dsimp only
        generalize Value.toText? _ = text
        cases text with
        | some t => exact ih _ _
        | none => exact planned_pure _

theorem planned_visitConditional (node test yes no : Expr) (place : Place) :
    Planned known fun visit => visitConditional visit node test yes no place := by
  have hbranch : ∀ v : Value, Planned known fun visit =>
      if v.truthy? == some true then visit yes place else visit no place :=
    fun v => planned_ite _ (planned_part _ _) (planned_part _ _)
  refine (planned_part _ _).bind fun v => ?_
  cases v with
  | dynamic d => exact planned_pure _
  | _ => exact hbranch _

theorem planned_binaryOf (node : Expr) (operator : String) (right : Expr) (place : Place) (a : Value) :
    Planned known fun visit => binaryOf visit node operator right place a := by
  by_cases hand : operator = "&&"
  · subst hand
    exact planned_ite _ (planned_pure _) (planned_part _ _)
  by_cases hor : operator = "||"
  · subst hor
    exact planned_ite _ (planned_pure _) (planned_part _ _)
  by_cases hnone : operator = "??"
  · subst hnone
    cases a with
    | null | undefined => exact planned_part _ _
    | _ => exact planned_pure _
  simp only [binaryOf]
  refine (planned_part _ _).bind fun b => ?_
  cases b <;> exact planned_pure _

theorem planned_visitBinary (node : Expr) (operator : String) (left right : Expr) (place : Place) :
    Planned known fun visit => visitBinary visit node operator left right place := by
  refine (planned_part _ _).bind fun a => ?_
  cases a with
  | dynamic d => exact planned_pure _
  | _ => exact planned_binaryOf _ _ _ _ _

theorem planned_resolveCallee (callee : Expr) (place : Place) :
    Planned known fun visit => resolveCallee p visit callee place := by
  unfold resolveCallee
  cases callee.shape with
  | property object name =>
    refine (planned_part _ _).bind fun receiver => ?_
    cases receiver.asReference?.bind (staticMethod? p · name) with
    | some c => exact planned_pure _
    | none => exact (planned_property _ _ _ _).bind fun _ => planned_pure _
  | _ =>
    refine (planned_part _ _).bind fun value => ?_
    cases value.asReference?.bind (function? p) with
    | some c => exact planned_pure _
    | none => exact planned_pure _

theorem planned_callDeclared (node : Expr) (c : Callee) (args : List Element) (place : Place) :
    Planned known fun visit => callDeclared visit node c args place := by
  unfold callDeclared
  cases c.body with
  | none => exact planned_pure _
  | some body =>
    -- the arguments are evaluated between the check and the call
    refine planned_check (.call (c.id, c.name)) (planned_pure _) ?_
    exact (planned_visitElements _ _).bind fun values => planned_during List.mem_cons_self _ _

theorem planned_visitCall (node callee : Expr) (args : List Element) (place : Place) :
    Planned known fun visit => visitCall p visit node callee args place := by
  unfold visitCall
  cases forwarded? p callee args place with
  | some body => exact planned_part _ _
  | none =>
    refine (planned_resolveCallee _ _).bind fun c => ?_
    cases c with
    | inl c => exact planned_callDeclared _ _ _ _
    | inr value =>
      cases value with
      | dynamic d =>
        obtain ⟨⟨shape, range⟩, file, reason⟩ := d
        cases shape with
        | function params body =>
          cases body with
          | some body =>
            cases reason with
            | functionValue => exact (planned_visitElements _ _).bind fun values => planned_part _ _
            | _ => exact planned_pure _
          | none => exact planned_pure _
        | _ => exact planned_pure _
      | _ => exact planned_pure _

/-- Every step of the evaluation follows a guarded plan. -/
theorem planned_visitExpr (p : Program) (node : Expr) (place : Place) :
    Planned [] fun visit => visitExpr p visit node place := by
  unfold visitExpr
  cases node.shape with
  | template quasis exprs => exact planned_visitPieces _ _ _ _ _
  | ident name => exact planned_visitIdent _ _ _
  | property object name => exact planned_visitProperty _ _ _ _
  | element object index => exact planned_visitElement _ _ _ _
  | call callee args => exact planned_visitCall _ _ _ _
  | array items => exact (planned_visitElements _ _).bind fun _ => planned_pure _
  | object members => exact planned_visitMembers _ _ _ _
  | unary operator argument => exact planned_visitUnary _ _ _ _
  | binary operator left right => exact planned_visitBinary _ _ _ _ _
  | conditional test yes no => exact planned_visitConditional _ _ _ _ _
  | _ => exact planned_pure _

/-- The plan of one step. It describes the step with every evaluation of the parts, so it asks for the
parts, the checks and the entries on the stacks that the step does, in the same order. -/
noncomputable def plan (p : Program) (node : Expr) (place : Place) : Plan Value :=
  (planned_visitExpr p node place).choose

theorem plan_guarded (p : Program) (node : Expr) (place : Place) : (plan p node place).Guarded [] :=
  (planned_visitExpr p node place).choose_spec.1

theorem visitExpr_eq_run (p : Program) (visit : Visit) (node : Expr) (place : Place) :
    visitExpr p visit node place = (plan p node place).run visit :=
  (planned_visitExpr p node place).choose_spec.2 visit

end ComponentAtlas.Evaluation
