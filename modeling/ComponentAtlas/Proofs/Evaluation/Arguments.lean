import ComponentAtlas.Proofs.Evaluation.FunctionScope
import ComponentAtlas.Proofs.Script.Functions

/-!
# Arguments of calls

A call binds the names that are kept of the parameters to the arguments, one after the other. Only the
plainly named parameters are kept, so a parameter gets the argument that is written in its place only if
no other parameter stands in front of it.

* `resultAt_bind`, `resultAt_visitElements_item`: the values of arguments;
* `Calls`: a call finds a function;
* `Calls.result_eq`: the value of the call;
* `get?_bindParameters_named`: which argument a parameter is bound to;
* `arguments_bound`: all of this together.
-/

namespace ComponentAtlas.Evaluation

open ComponentAtlas.Script ComponentAtlas.Script.Reading

/-! ### Values of arguments -/

/-- Some variables and calls are being evaluated, and nothing was noticed yet. -/
def Stacks.activity (s : Stacks) : Activity := { bindings := s.1, calls := s.2 }

theorem Stacks.stacks_activity (s : Stacks) : s.activity.stacks = s := rfl

section Results

variable {α β : Type} {visit : Visit}

/-- A quiet computation ends with its result while the same variables and calls are being evaluated. -/
theorem Quiet.run_eq {x : Eval α} (hx : Quiet x) (a : Activity) :
    ∃ b, b.stacks = a.stacks ∧ x a = (resultAt a.stacks x, b) :=
  ⟨(x a).2, (hx a a rfl).2, Prod.ext (hx.eq_resultAt a) rfl⟩

theorem resultAt_bind {x : Eval α} {f : α → Eval β} (hx : Quiet x) (hf : ∀ v, Quiet (f v)) (s : Stacks) :
    resultAt s (x >>= f) = resultAt s (f (resultAt s x)) := by
  let a : Activity := { bindings := s.1, calls := s.2 }
  have hstacks : (x a).2.stacks = s := (hx a a rfl).2
  calc resultAt s (x >>= f) = (f (x a).1 (x a).2).1 := rfl
    _ = resultAt (x a).2.stacks (f (x a).1) := (hf _).eq_resultAt _
    _ = resultAt s (f (resultAt s x)) := by
      rw [hstacks]
      rfl

theorem resultAt_visitElements_item (hvisit : ∀ e place, Quiet (visit e place)) (s : Stacks) (place : Place)
    (es : List Expr) :
    resultAt s (visitElements visit place (es.map .item)) = es.map fun e => resultAt s (visit e place) := by
  induction es with
  | nil => rfl
  | cons e es ih =>
    have hrest := quiet_visitElements hvisit place (es.map .item)
    rw [List.map_cons, visitElements, resultAt_bind (hvisit _ _) fun _ => hrest.bind fun _ => quiet_pure _,
      resultAt_bind hrest fun _ => quiet_pure _, ih]
    rfl

end Results

/-! ### Calls of functions -/

/-- While some variables and calls are being evaluated, a call finds a function that does nothing but
return an expression: a declared function, a static method of a class, or a function expression. The names
of its parameters are given with the expression, the file of the function and what is being evaluated
inside of it. A declared function or method is not found inside of itself. -/
inductive Calls (p : Program) (depth : Nat) (callee : Expr) (args : List Element) (place : Place) (s : Stacks) :
    List String → Expr → String → Stacks → Prop
  | function {r : Reference} {d : Declaration} {params : List String} {body : Expr}
      (ordinary : forwarded? p callee args place = none)
      (plain : ∀ object name, callee.shape ≠ .property object name)
      (refers : resultAt s (visit p depth callee place) = .reference r)
      (declared : p.declaration? r.id = some d) (kind : d.kind = .function params (some body))
      (fresh : (d.id, d.name) ∉ s.2) :
      Calls p depth callee args place s params body d.file (s.1, (d.id, d.name) :: s.2)
  | method {object : Expr} {name : String} {r : Reference} {d : Declaration} {c : ClassBody} {m : ClassMember}
      {body : Expr} (ordinary : forwarded? p callee args place = none)
      (access : callee.shape = .property object name)
      (refers : resultAt s (visit p depth object place) = .reference r)
      (declared : p.declaration? r.id = some d) (kind : d.kind = .cls c) (found : c.static? name = some m)
      (isMethod : m.kind = .method) (returns : m.returns = some body) (fresh : (d.id, m.name) ∉ s.2) :
      Calls p depth callee args place s m.params body d.file (s.1, (d.id, m.name) :: s.2)
  | expression {params : List String} {body : Expr} {range : Range} {file : String}
      (ordinary : forwarded? p callee args place = none)
      (found : resultAt s (resolveCallee p (visit p depth) callee place) =
        .inr (.dynamic (.mk (.node (.function params (some body)) range) file .functionValue))) :
      Calls p depth callee args place s params body file s

section Calls

variable {p : Program} {depth : Nat} {callee body : Expr} {args : List Element} {place : Place} {s s' : Stacks}
  {params : List String} {file : String} {r : Reference} {d : Declaration}

theorem resolveCallee_function {visit : Visit} (hvisit : ∀ e place, Quiet (visit e place))
    (plain : ∀ object name, callee.shape ≠ .property object name)
    (refers : resultAt s (visit callee place) = .reference r) (declared : p.declaration? r.id = some d)
    {returns : Option Expr} (kind : d.kind = .function params returns) :
    resultAt s (resolveCallee p visit callee place) = .inl ⟨d.id, none, d.name, d.file, params, returns⟩ := by
  have hfunction : function? p r = some ⟨d.id, none, d.name, d.file, params, returns⟩ := by
    simp [function?, declared, kind]
  unfold resolveCallee
  split
  · next hshape => exact absurd hshape (plain _ _)
  · rw [resultAt_bind (hvisit _ _) fun _ => by split <;> exact quiet_pure _, refers]
    simp only [Value.asReference?, Option.bind_some, hfunction]
    rfl

theorem resolveCallee_method {visit : Visit} (hvisit : ∀ e place, Quiet (visit e place)) {object : Expr}
    {name : String} {c : ClassBody} {m : ClassMember} (access : callee.shape = .property object name)
    (refers : resultAt s (visit object place) = .reference r) (declared : p.declaration? r.id = some d)
    (kind : d.kind = .cls c) (found : c.static? name = some m) (isMethod : m.kind = .method) :
    resultAt s (resolveCallee p visit callee place) =
      .inl ⟨d.id, some d.name, m.name, d.file, m.params, m.returns⟩ := by
  have hmethod : staticMethod? p r name = some ⟨d.id, some d.name, m.name, d.file, m.params, m.returns⟩ := by
    simp [staticMethod?, declared, Declaration.cls?, kind, found, isMethod]
  unfold resolveCallee
  rw [access]
  dsimp only
  rw [resultAt_bind (hvisit _ _) fun receiver => ?_, refers]
  · simp only [Value.asReference?, Option.bind_some, hmethod]
    rfl
  · split
    · exact quiet_pure _
    · exact (quiet_property hvisit _ _ _ _).bind fun _ => quiet_pure _

/-- A call of a declared function that is not being called already. -/
theorem resultAt_call_declared {c : Callee} (ordinary : forwarded? p callee args place = none)
    (found : resultAt s (resolveCallee p (visit p depth) callee place) = .inl c) (returns : c.body = some body)
    (fresh : (c.id, c.name) ∉ s.2) (range : Range) :
    resultAt s (visit p (depth + 1) (.node (.call callee args) range) place) =
      resultAt (s.1, (c.id, c.name) :: s.2) (visit p depth body
        { file := c.file
          scope := bindParameters c.params (resultAt s (visitElements (visit p depth) place args)) [] }) := by
  have hquiet := quiet_visit p depth
  obtain ⟨a, hcallee, hrun⟩ := (quiet_resolveCallee (p := p) hquiet callee place).run_eq s.activity
  obtain ⟨b, hargs, hrun'⟩ := (quiet_visitElements hquiet place args).run_eq a
  rw [Stacks.stacks_activity] at hcallee hrun
  rw [hcallee] at hargs hrun'
  obtain ⟨hbindings, hcalls⟩ := Prod.mk.inj hargs
  have hinside : ({ b with calls := (c.id, c.name) :: b.calls } : Activity).stacks =
      (s.1, (c.id, c.name) :: s.2) := by
    simp only [Activity.stacks, hbindings, hcalls]
  show (visitCall p (visit p depth) (.node (.call callee args) range) callee args place s.activity).1 = _
  rw [visitCall, ordinary]
  dsimp only
  rw [bind_apply, hrun, found]
  dsimp only
  rw [callDeclared, returns]
  dsimp only
  rw [bind_apply]
  show ((if (c.id, c.name) ∈ a.calls then _ else _ : Eval Value) a).1 = _
  rw [if_neg ((Prod.mk.inj hcallee).2 ▸ fresh), bind_apply, hrun']
  show (visit p depth body _ { b with calls := (c.id, c.name) :: b.calls }).1 = _
  rw [(hquiet _ _).eq_resultAt, hinside]

/-- A call of a function is the evaluation of its body with the parameters bound to the arguments. -/
theorem Calls.result_eq (h : Calls p depth callee args place s params body file s') (range : Range) :
    resultAt s (visit p (depth + 1) (.node (.call callee args) range) place) =
      resultAt s' (visit p depth body
        { file, scope := bindParameters params (resultAt s (visitElements (visit p depth) place args)) [] }) := by
  have hquiet := quiet_visit p depth
  cases h with
  | function ordinary plain refers declared kind fresh =>
    exact resultAt_call_declared ordinary (resolveCallee_function hquiet plain refers declared kind) rfl fresh range
  | method ordinary access refers declared kind found isMethod returns fresh =>
    exact resultAt_call_declared ordinary
      (resolveCallee_method hquiet access refers declared kind found isMethod) returns fresh range
  | expression ordinary found =>
    obtain ⟨a, hcallee, hrun⟩ := (quiet_resolveCallee (p := p) hquiet callee place).run_eq s.activity
    obtain ⟨b, hargs, hrun'⟩ := (quiet_visitElements hquiet place args).run_eq a
    rw [Stacks.stacks_activity] at hcallee hrun
    rw [hcallee] at hargs hrun'
    rw [found] at hrun
    show (visit p (depth + 1) (.node (.call callee args) range) place s.activity).1 = _
    rw [(CallsFunction.mk ordinary hrun hrun').visit_eq range, (hquiet _ _).eq_resultAt, hargs]

end Calls

/-! ### Which argument a parameter is bound to -/

section Positions

variable {ps : List Parameter} {i : Nat} {x : String}

theorem parameterNames_cons_of_name {q : Parameter} (hq : q.name = some x) (ps : List Parameter) :
    parameterNames (q :: ps) = x :: parameterNames ps := List.filterMap_cons_some hq

theorem parameterNames_cons_of_none {q : Parameter} (hq : q.name = none) (ps : List Parameter) :
    parameterNames (q :: ps) = parameterNames ps := List.filterMap_cons_none hq

/-- A plainly named parameter is bound to the argument whose number is that of the plainly named
parameters in front of it. A later parameter of the same name would take precedence. -/
theorem get?_bindParameters_named (hname : ps[i]?.bind (·.name) = some x)
    (hlast : x ∉ parameterNames (ps.drop (i + 1))) (values : List Value) (scope : Table String Value) :
    Table.get? x (bindParameters (parameterNames ps) values scope) =
      some (values[(parameterNames (ps.take i)).length]?.getD .undefined) := by
  induction ps generalizing i values scope with
  | nil => cases hname
  | cons q ps ih =>
    cases i with
    | zero =>
      rw [parameterNames_cons_of_name hname]
      cases values <;>
        exact (get?_bindParameters_of_not_mem hlast _ _).trans (Table.get?_put_self ..)
    | succ i =>
      cases hq : q.name with
      | none =>
        rw [List.take_succ_cons, parameterNames_cons_of_none hq, parameterNames_cons_of_none hq]
        exact ih hname hlast values scope
      | some y =>
        rw [List.take_succ_cons, parameterNames_cons_of_name hq, parameterNames_cons_of_name hq]
        cases values with
        | nil => exact ih hname hlast [] _
        | cons v values => exact ih hname hlast values _

theorem length_parameterNames_take (hi : i ≤ ps.length) :
    (parameterNames (ps.take i)).length = i ↔ ∀ q ∈ ps.take i, q.name.isSome := by
  have hlength : (ps.take i).length = i := List.length_take_of_le hi
  rw [← List.filterMap_length_eq_length, hlength]
  rfl

/-- A parameter is bound to the argument in its place, whatever the arguments are, exactly if all
parameters in front of it are plainly named. -/
theorem bound_in_place_iff (hname : ps[i]?.bind (·.name) = some x)
    (hlast : x ∉ parameterNames (ps.drop (i + 1))) :
    (∀ values, Table.get? x (bindParameters (parameterNames ps) values []) =
      some (values[i]?.getD .undefined)) ↔ ∀ q ∈ ps.take i, q.name.isSome := by
  have hi : i ≤ ps.length := by
    obtain ⟨q, hq, -⟩ := Option.bind_eq_some_iff.1 hname
    exact Nat.le_of_lt (List.getElem?_eq_some_iff.1 hq).1
  have hle : (parameterNames (ps.take i)).length ≤ i :=
    Nat.le_trans (List.length_filterMap_le _ _) (List.length_take_le _ _)
  simp only [← length_parameterNames_take hi, get?_bindParameters_named hname hlast, Option.some.injEq]
  constructor
  · intro hall
    refine Decidable.byContradiction fun hne => ?_
    -- With `i` arguments, all of them null, there is none in place `i`, but there is one before.
    have hnull := hall (List.replicate i .null)
    rw [List.getElem?_replicate_of_lt (Nat.lt_of_le_of_ne hle hne), List.getElem?_eq_none (by simp)] at hnull
    cases hnull
  · intro heq values
    rw [heq]

end Positions

/-- **Which arguments the parameters of a call are bound to.** A function is read with the names of its
plainly named parameters. A call of it without spread out arguments evaluates its body with these names
bound, and no others.

* A plainly named parameter is bound to the argument whose number is that of the plainly named parameters
  in front of it, or is undefined.
* This is the argument in its own place, whatever the arguments are, exactly if all parameters in front of
  it are plainly named. -/
theorem arguments_bound (g : Grammar) {p : Program} {depth : Nat} {callee body : Expr} {es : List Expr}
    {place : Place} {s s' : Stacks} {ps : List Parameter} {file : String}
    (h : Calls p depth callee (es.map .item) place s (parameterNames ps) body file s') :
    NamesKept g ∧
    ∃ scope, (∀ range, resultAt s (visit p (depth + 1) (.node (.call callee (es.map .item)) range) place) =
        resultAt s' (visit p depth body { file, scope })) ∧
      (∀ x ∉ parameterNames ps, Table.get? x scope = none) ∧
      ∀ i x, ps[i]?.bind (·.name) = some x → x ∉ parameterNames (ps.drop (i + 1)) →
        (Table.get? x scope = some (((es[(parameterNames (ps.take i)).length]?).map fun e =>
            resultAt s (visit p depth e place)).getD .undefined)) ∧
        ((∀ values, Table.get? x (bindParameters (parameterNames ps) values []) =
            some (values[i]?.getD .undefined)) ↔ ∀ q ∈ ps.take i, q.name.isSome) := by
  let values := es.map fun e => resultAt s (visit p depth e place)
  refine ⟨namesKept g, bindParameters (parameterNames ps) values [], fun range => ?_, fun x hx => ?_,
    fun i x hname hlast => ⟨?_, bound_in_place_iff hname hlast⟩⟩
  · rw [h.result_eq range, resultAt_visitElements_item (quiet_visit p depth)]
  · exact get?_bindParameters_of_not_mem hx _ _
  · rw [get?_bindParameters_named hname hlast, List.getElem?_map]

/-- The texts `'p'` and `'x'` as arguments. -/
def twoTexts : List Expr := [.node (.string "p") {}, .node (.string "x") {}]

/-- The parameters `(a = 'd', b)`. -/
def defaultFirst : List Parameter := [⟨none, none, [], {}⟩, ⟨some "b", none, [], {}⟩]

/-- The second parameter of `((a = 'd', b) => b)('p', 'x')` is bound to the first argument. -/
theorem arguments_bound_defaultFirst :
    let function : Expr := .node (.function (parameterNames defaultFirst) (some (.node (.ident "b") {}))) {}
    let place : Place := { file := "/a.ts" }
    Calls {} 4 function (twoTexts.map .item) place ([], []) (parameterNames defaultFirst)
      (.node (.ident "b") {}) "/a.ts" ([], []) ∧
    ∃ scope, resultAt ([], []) (visit {} 5 (.node (.call function (twoTexts.map .item)) {}) place) =
        resultAt ([], []) (visit {} 4 (.node (.ident "b") {}) { file := "/a.ts", scope }) ∧
      Table.get? "b" scope = some (.string "p") := by
  intro function place
  have hcalls : Calls {} 4 function (twoTexts.map .item) place ([], []) (parameterNames defaultFirst)
      (.node (.ident "b") {}) "/a.ts" ([], []) := .expression rfl rfl
  obtain ⟨-, scope, hresult, -, hbound⟩ := arguments_bound .none hcalls
  exact ⟨hcalls, scope, hresult {}, (hbound 1 "b" rfl (by decide)).1⟩

/-- Functions that return their second parameter, of which the first has a default or is a pattern, but
for the last one. -/
def displacedHost : Host :=
  .ofList [("/a.ts", "function f(a = 'd', b) \x7b return b; \x7d function g(\x7b a \x7d, b) \x7b return b; \x7d " ++
    "class S \x7b static m([a], b) \x7b return b; \x7d \x7d const h = (a = 'd', b) => b; " ++
    "const k = function (\x7b a \x7d, b) \x7b return b; \x7d; function plain(a, b) \x7b return b; \x7d")]

/-- The program of this file. -/
def displaced : Program := ((Program.load displacedHost ["/a.ts"] {}).toOption).getD {}

/-- Where the first parameter has a default or is a pattern, the second one is bound to the first
argument. -/
theorem defaults_displace :
    let value (callee : Expr) := (evaluate displaced 9 (.node (.call callee (twoTexts.map .item)) {})
      "/a.ts" []).value.asString?
    value (.node (.ident "f") {}) = some "p" ∧ value (.node (.ident "g") {}) = some "p" ∧
      value (.node (.property (.node (.ident "S") {}) "m") {}) = some "p" ∧
      value (.node (.ident "h") {}) = some "p" ∧ value (.node (.ident "k") {}) = some "p" ∧
      value (.node (.ident "plain") {}) = some "x" := by
  decide +kernel

end ComponentAtlas.Evaluation
