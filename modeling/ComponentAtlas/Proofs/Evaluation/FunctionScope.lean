import ComponentAtlas.Proofs.Evaluation.Quietness

/-!
# The scope of function expressions

The value of a function expression holds its file, but not the parameters that were bound where it was
made. A call binds the parameters of the function and nothing else. So the function means what it means
in its place exactly as long as it does not use a parameter of another function around it.

* `Expr.free`: the names of an expression that no function inside it binds;
* `SameBindings`: two scopes in which some names have the same values;
* `visitExpr_congr`, `visit_congr`: evaluation depends on the values of the free names only;
* `CallsFunction`: a call that finds a function expression;
* `functionCall_scoped`: what names in the body of the function mean.
-/

namespace ComponentAtlas.Script

mutual

/-- The names of an expression that are not bound by a function inside it. In the argument of a
forward reference, `forward`, the body of a function is evaluated in place, and binds nothing. -/
def Expr.free (forward : Bool) : Expr → List String
  | .node shape _ => shape.free forward

def Shape.free (forward : Bool) : Shape → List String
  | .string _ | .number _ | .boolean _ | .null | .unsupported _ | .function _ none => []
  | .template _ exprs => freeOfExprs exprs
  | .ident name => [name]
  | .property object _ => object.free false
  | .element object index => object.free false ++ index.free false
  | .call callee args => callee.free false ++ freeOfElements (callee.asIdent? == some "forwardRef") args
  | .new callee args => callee.free false ++ freeOfElements false args
  | .array items => freeOfElements false items
  | .object members => freeOfMembers members
  | .function params (some body) =>
    if forward then body.free false else (body.free false).filter fun name => !params.contains name
  | .dynamicImport source => source.free false
  | .unary _ argument => argument.free false
  | .binary _ left right => left.free false ++ right.free false
  | .conditional test yes no => test.free false ++ yes.free false ++ no.free false

def freeOfExprs : List Expr → List String
  | [] => []
  | e :: es => e.free false ++ freeOfExprs es

def Element.free (forward : Bool) : Element → List String
  | .item e => e.free forward
  | .spread e => e.free false
  | .hole => []

def freeOfElements (forward : Bool) : List Element → List String
  | [] => []
  | e :: es => e.free forward ++ freeOfElements forward es

def Key.free : Key → List String
  | .fixed _ => []
  | .computed e => e.free false

def Member.free : Member → List String
  | .entry key e => key.free ++ e.free false
  | .spread e => e.free false

def freeOfMembers : List Member → List String
  | [] => []
  | m :: ms => m.free ++ freeOfMembers ms

end

/-- A function in the argument of a forward reference has more free names, other expressions have the
same. -/
theorem Expr.free_false_subset (forward : Bool) (e : Expr) : e.free false ⊆ e.free forward := by
  obtain ⟨shape, range⟩ := e
  cases forward with
  | false => exact List.Subset.refl _
  | true =>
    cases shape with
    | function params body =>
      cases body with
      | none => exact List.Subset.refl _
      | some body => exact List.filter_sublist.subset
    | _ => simp only [Expr.free, Shape.free, List.Subset.refl]

end ComponentAtlas.Script

namespace ComponentAtlas.Evaluation

open ComponentAtlas.Script

/-- Some names have the same values in two scopes, or none. -/
def SameBindings (names : List String) (s s' : Table String Value) : Prop :=
  ∀ x ∈ names, Table.get? x s = Table.get? x s'

theorem SameBindings.mono {names more : List String} {s s' : Table String Value}
    (h : SameBindings more s s') (hsub : names ⊆ more) : SameBindings names s s' :=
  fun x hx => h x (hsub hx)

theorem sameBindings_append {names more : List String} {s s' : Table String Value} :
    SameBindings (names ++ more) s s' ↔ SameBindings names s s' ∧ SameBindings more s s' := by
  simp only [SameBindings, List.forall_mem_append]

/-! ### Evaluation depends on free names -/

section Step

variable {p : Program} {visit : Visit} {file : String} {s s' : Table String Value}
  (hvisit : ∀ e, SameBindings (e.free false) s s' → visit e ⟨file, s⟩ = visit e ⟨file, s'⟩)

theorem visitIdent_congr (node : Expr) {name : String} (h : SameBindings [name] s s') :
    visitIdent p visit node name ⟨file, s⟩ = visitIdent p visit node name ⟨file, s'⟩ := by
  unfold visitIdent
  dsimp only
  rw [h name (List.mem_singleton_self _)]
  rfl

theorem wholeFile?_congr {object : Expr} (h : SameBindings (object.free false) s s') :
    wholeFile? p object ⟨file, s⟩ = wholeFile? p object ⟨file, s'⟩ := by
  obtain ⟨shape, range⟩ := object
  cases shape with
  | ident name =>
    have hname := h name (List.mem_singleton_self _)
    simp only [wholeFile?, Expr.asIdent?, Expr.shape, Table.contains, hname]
    rfl
  | _ => rfl

theorem forwarded?_congr {callee : Expr} (args : List Element) (h : SameBindings (callee.free false) s s') :
    forwarded? p callee args ⟨file, s⟩ = forwarded? p callee args ⟨file, s'⟩ := by
  obtain ⟨shape, range⟩ := callee
  cases shape with
  | ident name =>
    have hname := h name (List.mem_singleton_self _)
    unfold forwarded?
    by_cases hforward : name = "forwardRef"
    · subst hforward
      simp only [Table.contains, hname]
      rfl
    · simp [Expr.asIdent?, Expr.shape, hforward]
  | _ => rfl

theorem forwarded?_eq_some {callee body : Expr} {args : List Element} {place : Place}
    (h : forwarded? p callee args place = some body) : callee.asIdent? = some "forwardRef" ∧
      ∃ params range, args = [.item (.node (.function params (some body)) range)] := by
  simp only [forwarded?, Option.ite_none_left_eq_some, Bool.or_eq_true, bne_iff_ne, ne_eq, not_or,
    Decidable.not_not] at h
  obtain ⟨⟨hname, -⟩, -, h⟩ := h
  refine ⟨hname, ?_⟩
  split at h
  · next params body' range =>
    cases h
    exact ⟨params, range, rfl⟩
  · cases h

include hvisit

theorem visitProperty_congr (node : Expr) {object : Expr} (name : String)
    (h : SameBindings (object.free false) s s') :
    visitProperty p visit node object name ⟨file, s⟩ = visitProperty p visit node object name ⟨file, s'⟩ := by
  rw [visitProperty, visitProperty, wholeFile?_congr h, hvisit object h]
  rfl

theorem visitElement_congr (node : Expr) {object index : Expr}
    (h : SameBindings (object.free false ++ index.free false) s s') :
    visitElement p visit node object index ⟨file, s⟩ = visitElement p visit node object index ⟨file, s'⟩ := by
  obtain ⟨hobject, hindex⟩ := sameBindings_append.1 h
  rw [visitElement, visitElement, hvisit object hobject, hvisit index hindex]
  rfl

theorem visitElements_congr {forward : Bool} {es : List Element}
    (h : SameBindings (freeOfElements forward es) s s') :
    visitElements visit ⟨file, s⟩ es = visitElements visit ⟨file, s'⟩ es := by
  induction es with
  | nil => rfl
  | cons e es ih =>
    obtain ⟨he, hes⟩ := sameBindings_append.1 h
    cases e with
    | hole => rw [visitElements, visitElements, ih hes]
    | item e =>
      rw [visitElements, visitElements, ih hes, hvisit e (he.mono (e.free_false_subset forward))]
    | spread e =>
      rw [visitElements_spread, visitElements_spread, ih hes, hvisit e he]
      rfl

theorem visitKey_congr (node : Expr) {key : Key} (h : SameBindings key.free s s') :
    visitKey visit node ⟨file, s⟩ key = visitKey visit node ⟨file, s'⟩ key := by
  cases key with
  | fixed name => rfl
  | computed e =>
    rw [visitKey, visitKey, hvisit e h]
    rfl

theorem visitMembers_congr (node : Expr) {ms : List Member} (entries : Table String Value)
    (h : SameBindings (freeOfMembers ms) s s') :
    visitMembers visit node ⟨file, s⟩ ms entries = visitMembers visit node ⟨file, s'⟩ ms entries := by
  induction ms generalizing entries with
  | nil => rfl
  | cons m ms ih =>
    obtain ⟨hm, hms⟩ := sameBindings_append.1 h
    cases m with
    | entry key e =>
      obtain ⟨hkey, he⟩ := sameBindings_append.1 hm
      simp only [visitMembers, visitKey_congr hvisit node hkey, hvisit e he, ih _ hms]
    | spread e =>
      simp only [visitMembers, hvisit e hm, ih _ hms]
      rfl

theorem visitPieces_congr (node : Expr) (quasis : List String) {es : List Expr} (out : String)
    (h : SameBindings (freeOfExprs es) s s') :
    visitPieces visit node ⟨file, s⟩ quasis es out = visitPieces visit node ⟨file, s'⟩ quasis es out := by
  induction quasis generalizing es out with
  | nil => rfl
  | cons quasi quasis ih =>
    cases es with
    | nil => exact ih _ h
    | cons e es =>
      obtain ⟨he, hes⟩ := sameBindings_append.1 h
      simp only [visitPieces, hvisit e he, ih _ hes]
      rfl

theorem visitUnary_congr (node : Expr) (operator : String) {argument : Expr}
    (h : SameBindings (argument.free false) s s') :
    visitUnary visit node operator argument ⟨file, s⟩ =
      visitUnary visit node operator argument ⟨file, s'⟩ := by
  rw [visitUnary, visitUnary, hvisit argument h]
  rfl

theorem visitBinary_congr (node : Expr) (operator : String) {left right : Expr}
    (h : SameBindings (left.free false ++ right.free false) s s') :
    visitBinary visit node operator left right ⟨file, s⟩ =
      visitBinary visit node operator left right ⟨file, s'⟩ := by
  obtain ⟨hleft, hright⟩ := sameBindings_append.1 h
  rw [visitBinary, visitBinary, hvisit left hleft, hvisit right hright]
  rfl

theorem visitConditional_congr (node : Expr) {test yes no : Expr}
    (h : SameBindings (test.free false ++ yes.free false ++ no.free false) s s') :
    visitConditional visit node test yes no ⟨file, s⟩ =
      visitConditional visit node test yes no ⟨file, s'⟩ := by
  obtain ⟨hchoice, hno⟩ := sameBindings_append.1 h
  obtain ⟨htest, hyes⟩ := sameBindings_append.1 hchoice
  rw [visitConditional, visitConditional, hvisit test htest, hvisit yes hyes, hvisit no hno]
  rfl

theorem resolveCallee_congr {callee : Expr} (h : SameBindings (callee.free false) s s') :
    resolveCallee p visit callee ⟨file, s⟩ = resolveCallee p visit callee ⟨file, s'⟩ := by
  obtain ⟨shape, range⟩ := callee
  cases shape with
  | property object name =>
    simp only [resolveCallee, Expr.shape, hvisit object h]
    rfl
  | _ => simp only [resolveCallee, Expr.shape, hvisit _ h]

theorem callDeclared_congr (node : Expr) (c : Callee) {forward : Bool} {args : List Element}
    (h : SameBindings (freeOfElements forward args) s s') :
    callDeclared visit node c args ⟨file, s⟩ = callDeclared visit node c args ⟨file, s'⟩ := by
  unfold callDeclared
  rw [visitElements_congr hvisit h]
  rfl

theorem visitCall_congr (node : Expr) {callee : Expr} {args : List Element}
    (h : SameBindings
      (callee.free false ++ freeOfElements (callee.asIdent? == some "forwardRef") args) s s') :
    visitCall p visit node callee args ⟨file, s⟩ = visitCall p visit node callee args ⟨file, s'⟩ := by
  obtain ⟨hcallee, hargs⟩ := sameBindings_append.1 h
  unfold visitCall
  rw [forwarded?_congr args hcallee]
  cases hforward : forwarded? p callee args ⟨file, s'⟩ with
  | some body =>
    obtain ⟨hname, params, range, rfl⟩ := forwarded?_eq_some hforward
    refine hvisit body (hargs.mono ?_)
    simp [hname, freeOfElements, Element.free, Expr.free, Shape.free]
  | none =>
    have hdeclared := fun c => callDeclared_congr hvisit node c hargs
    dsimp only
    rw [resolveCallee_congr hvisit hcallee, visitElements_congr hvisit hargs]
    simp only [hdeclared]
    rfl

/-- One step of the evaluation depends on the values of the free names only. -/
theorem visitExpr_congr {node : Expr} (h : SameBindings (node.free false) s s') :
    visitExpr p visit node ⟨file, s⟩ = visitExpr p visit node ⟨file, s'⟩ := by
  obtain ⟨shape, range⟩ := node
  cases shape with
  | template quasis exprs => exact visitPieces_congr hvisit _ quasis "" h
  | ident name => exact visitIdent_congr _ h
  | property object name => exact visitProperty_congr hvisit _ name h
  | element object index => exact visitElement_congr hvisit _ h
  | call callee args => exact visitCall_congr hvisit _ h
  | array items =>
    show (do return .array (← visitElements visit ⟨file, s⟩ items) : Eval Value) = _
    rw [visitElements_congr hvisit h]
    rfl
  | object members => exact visitMembers_congr hvisit _ [] h
  | unary operator argument => exact visitUnary_congr hvisit _ operator h
  | binary operator left right => exact visitBinary_congr hvisit _ operator h
  | conditional test yes no => exact visitConditional_congr hvisit _ h
  | _ => rfl

end Step

/-- Evaluation depends on the values of the free names only. -/
theorem visit_congr (p : Program) (depth : Nat) {e : Expr} {s s' : Table String Value} (file : String)
    (h : SameBindings (e.free false) s s') : visit p depth e ⟨file, s⟩ = visit p depth e ⟨file, s'⟩ := by
  induction depth generalizing e with
  | zero => rfl
  | succ depth ih => exact visitExpr_congr (fun _ => ih) h

/-! ### Calls of function expressions -/

theorem get?_bindParameters_of_not_mem {x : String} {params : List String} (hx : x ∉ params)
    (values : List Value) (s : Table String Value) :
    Table.get? x (bindParameters params values s) = Table.get? x s := by
  induction params generalizing values s with
  | nil => rfl
  | cons param params ih =>
    simp only [List.mem_cons, not_or] at hx
    obtain ⟨hne, hx⟩ := hx
    cases values with
    | nil => rw [bindParameters, ih hx, Table.get?_put_of_ne hne]
    | cons v values => rw [bindParameters, ih hx, Table.get?_put_of_ne hne]

/-- A parameter has the value of the call, whatever was bound before. -/
theorem get?_bindParameters_of_mem {x : String} {params : List String} (hx : x ∈ params)
    (values : List Value) (s s' : Table String Value) :
    Table.get? x (bindParameters params values s) = Table.get? x (bindParameters params values s') := by
  induction params generalizing values s s' with
  | nil => cases hx
  | cons param params ih =>
    by_cases hlater : x ∈ params
    · cases values with
      | nil => exact ih hlater [] _ _
      | cons v values => exact ih hlater values _ _
    · obtain rfl : x = param := (List.mem_cons.1 hx).resolve_right hlater
      cases values <;>
        simp only [bindParameters, get?_bindParameters_of_not_mem hlater, Table.get?_put_self]

/-- A call finds the expression of a function that is written in a file, and its arguments have some
values: evaluation is at `a` before and at `b` after them. -/
inductive CallsFunction (p : Program) (depth : Nat) (callee : Expr) (args : List Element) (place : Place)
    (a : Activity) (params : List String) (body : Expr) (file : String) (values : List Value) (b : Activity) :
    Prop
  | mk {range : Range} {c : Activity} (ordinary : forwarded? p callee args place = none)
    (found : resolveCallee p (visit p depth) callee place a =
      (.inr (.dynamic (.mk (.node (.function params (some body)) range) file .functionValue)), c))
    (evaluated : visitElements (visit p depth) place args c = (values, b)) :
    CallsFunction p depth callee args place a params body file values b

section Call

variable {p : Program} {depth : Nat} {callee body : Expr} {args : List Element} {place : Place}
  {a b : Activity} {params : List String} {file : String} {values : List Value}

/-- A call binds the parameters of the function, and nothing else. -/
theorem CallsFunction.visit_eq (h : CallsFunction p depth callee args place a params body file values b)
    (range : Range) : visit p (depth + 1) (.node (.call callee args) range) place a =
      visit p depth body { file, scope := bindParameters params values [] } b := by
  obtain ⟨ordinary, found, evaluated⟩ := h
  show visitCall p (visit p depth) (.node (.call callee args) range) callee args place a = _
  rw [visitCall, ordinary]
  dsimp only
  rw [bind_apply, found]
  dsimp only
  rw [bind_apply, evaluated]

/-- **What the names in a function expression mean when it is called.** A call finds a function
expression and evaluates its body with the parameters bound, and nothing else. Let `outer` be the
parameters of other functions that were bound where the function was made.

* If `outer` binds no free name of the body, apart from the parameters of the function itself, then the
  value of the call is that of the body with these bindings behind the parameters.
* A name that is not a parameter has in the body the value that it has where the function was made
  exactly if `outer` binds it to no other value than it has at the top of the file. -/
theorem functionCall_scoped (h : CallsFunction p depth callee args place a params body file values b)
    (range : Range) :
    visit p (depth + 1) (.node (.call callee args) range) place a =
      visit p depth body { file, scope := bindParameters params values [] } b ∧
    ∀ outer,
      ((∀ x ∈ body.free false, x ∉ params → Table.get? x outer = none) →
        visit p (depth + 1) (.node (.call callee args) range) place a =
          visit p depth body { file, scope := bindParameters params values outer } b) ∧
      ∀ x ∉ params, ∀ within range c,
        ((visit p (within + 1) (.node (.ident x) range)
            { file, scope := bindParameters params values [] } c).1 =
          (visit p (within + 1) (.node (.ident x) range) { file, scope := outer } c).1 ↔
        ∀ v, Table.get? x outer = some v →
          (visit p (within + 1) (.node (.ident x) range) { file } c).1 = v) := by
  refine ⟨h.visit_eq range, fun outer => ⟨fun houter => ?_, fun x hx within range c => ?_⟩⟩
  · rw [h.visit_eq range]
    refine congrFun (visit_congr p depth file fun x hx => ?_) b
    by_cases hparam : x ∈ params
    · exact get?_bindParameters_of_mem hparam values [] outer
    · rw [get?_bindParameters_of_not_mem hparam, get?_bindParameters_of_not_mem hparam, houter x hx hparam]
      rfl
  · have htop : ∀ s, Table.get? x s = none →
        visit p (within + 1) (.node (.ident x) range) ⟨file, s⟩ =
          visit p (within + 1) (.node (.ident x) range) ⟨file, []⟩ := by
      intro s hs
      refine visit_congr p (within + 1) file fun y hy => ?_
      rw [List.mem_singleton.1 hy, hs]
      rfl
    rw [htop _ (get?_bindParameters_of_not_mem hx values [])]
    cases houter : Table.get? x outer with
    | none =>
      rw [htop outer houter]
      refine ⟨fun _ v hv => ?_, fun _ => rfl⟩
      cases hv
    | some v =>
      have hbound : visit p (within + 1) (.node (.ident x) range) ⟨file, outer⟩ = pure v := by
        show visitIdent p (visit p within) _ x ⟨file, outer⟩ = _
        rw [visitIdent, houter]
      rw [hbound]
      refine ⟨fun heq w hw => ?_, fun hall => hall v rfl⟩
      cases hw
      exact heq

end Call

/-- A call with one argument, a text. -/
def calledWith (callee : Expr) (text : String) : Expr :=
  .node (.call callee [.item (.node (.string text) {})]) {}

/-- A program with a variable `unit`. -/
def unitProgram : Program :=
  ((Program.load (.ofList [("/a.ts", "const unit = ' px';")]) ["/a.ts"] {}).toOption).getD {}

/-- The expression `y + unit`. -/
def withUnit : Expr := .node (.binary "+" (.node (.ident "y") {}) (.node (.ident "unit") {})) {}

/-- The expression `((x) => (y) => y + unit)('a')`. -/
def curried : Expr :=
  let inner : Expr := .node (.function ["y"] (some withUnit)) {}
  calledWith (.node (.function ["x"] (some inner)) {}) "a"

/-- The inner function uses a variable of the file and not the parameter of the outer one, and so the
binding of this parameter plays no part. -/
theorem functionCall_scoped_curried :
    CallsFunction unitProgram 8 curried [.item (.node (.string "b") {})] { file := "/a.ts" } {} ["y"]
      withUnit "/a.ts" [.string "b"] {} ∧
    withUnit.free false = ["y", "unit"] ∧
    (visit unitProgram 9 (calledWith curried "b") { file := "/a.ts" } {}).1.asString? = some "b px" ∧
    visit unitProgram 9 (calledWith curried "b") { file := "/a.ts" } {} =
      visit unitProgram 8 withUnit
        { file := "/a.ts", scope := bindParameters ["y"] [.string "b"] [("x", .string "a")] } {} ∧
    (visit unitProgram 8 (.node (.ident "unit") {})
        { file := "/a.ts", scope := bindParameters ["y"] [.string "b"] [] } {}).1 =
      (visit unitProgram 8 (.node (.ident "unit") {}) { file := "/a.ts", scope := [("x", .string "a")] } {}).1 := by
  have hcalls : CallsFunction unitProgram 8 curried [.item (.node (.string "b") {})] { file := "/a.ts" } {}
      ["y"] withUnit "/a.ts" [.string "b"] {} := .mk rfl rfl rfl
  have hunit : Table.get? "unit" [("x", Value.string "a")] = none := rfl
  obtain ⟨-, hscoped⟩ := functionCall_scoped hcalls {}
  obtain ⟨hcall, hname⟩ := hscoped [("x", .string "a")]
  refine ⟨hcalls, rfl, by decide +kernel, hcall fun x hx hparam => ?_, ?_⟩
  · -- of the free names only the variable is no parameter
    have hfree : x = "y" ∨ x = "unit" := by simpa using (show x ∈ ["y", "unit"] from hx)
    obtain rfl : x = "unit" := hfree.resolve_left fun hy => hparam (List.mem_singleton.2 hy)
    exact hunit
  · refine (hname "unit" (by decide) 7 {} {}).2 fun v hv => ?_
    rw [hunit] at hv
    cases hv

/-- Functions with a parameter that is also the name of a variable of the file: the first one returns a
function that uses the parameter, the second one calls this function in place, the third one returns a
forward reference to the parameter. -/
def shadowingHost : Host :=
  .ofList [("/a.ts", "const x = 'file'; function f(x) \x7b return (y) => x; \x7d " ++
    "function g(x) \x7b return ((y) => x)('b'); \x7d function h(x) \x7b return forwardRef(() => x); \x7d")]

/-- The program of this file. -/
def shadowing : Program := ((Program.load shadowingHost ["/a.ts"] {}).toOption).getD {}

/-- The calls `f('a')('b')` and `g('a')` have the value of the variable, where the name stands for the
parameter; the call `h('a')` has the value of the parameter. -/
theorem shadowing_misread :
    (visit shadowing 9 (.node (.ident "x") {})
      { file := "/a.ts", scope := bindParameters ["y"] [.string "b"] [("x", .string "a")] } {}).1.asString? =
        some "a" ∧
    (evaluate shadowing 9 (calledWith (calledWith (.node (.ident "f") {}) "a") "b")
      "/a.ts" []).value.asString? = some "file" ∧
    (evaluate shadowing 9 (calledWith (.node (.ident "g") {}) "a") "/a.ts" []).value.asString? =
      some "file" ∧
    (evaluate shadowing 9 (calledWith (.node (.ident "h") {}) "a") "/a.ts" []).value.asString? =
      some "a" := by
  decide +kernel

end ComponentAtlas.Evaluation
