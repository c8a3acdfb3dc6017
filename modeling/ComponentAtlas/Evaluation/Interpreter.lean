import ComponentAtlas.Evaluation.Value
import ComponentAtlas.FileGraph
import ComponentAtlas.Program.Names

/-!
# Evaluation without running

The value of an expression is computed as far as the sources state it. Names are followed into other
files. Evaluation never fails: what cannot be computed is a dynamic value.

* `Activity`: the variables and calls that are being evaluated, and the dependencies between files
  that were noticed;
* `visitExpr`: one step, in which the parts of the expression are visited by a given function;
* `visit`: evaluation up to a depth;
* `evaluate`, `evaluateDeclaration`: evaluation of an expression and of a declaration.
-/

namespace ComponentAtlas.Evaluation

open ComponentAtlas.Script

/-- What evaluation is doing: the variables whose values and the functions whose calls are being
evaluated, innermost first, and the dependencies between files that were noticed, last first. -/
structure Activity where
  bindings : List DeclarationId := []
  calls : List (DeclarationId × String) := []
  edges : List (String × String) := []
  deriving Repr, Inhabited

/-- A computation that keeps track of what evaluation is doing. -/
abbrev Eval := StateM Activity

/-- Where an expression is evaluated: its file, and the parameters bound by the enclosing call. -/
structure Place where
  file : String
  scope : Table String Value := []
  deriving Inhabited

/-- A function that evaluates the parts of an expression. -/
abbrev Visit := Expr → Place → Eval Value

/-- The value of an expression at which evaluation stops. -/
def stopped (node : Expr) (place : Place) (reason : Reason) : Value :=
  .dynamic (.mk node place.file reason)

/-- The value of an expression with a part that is not known. -/
def dependent (node : Expr) (place : Place) (inner : Dynamic) : Value :=
  stopped node place (.input inner)

/-- The values of parameters: missing arguments are undefined, further ones are ignored. -/
def bindParameters : List String → List Value → Table String Value → Table String Value
  | [], _, scope => scope
  | param :: params, [], scope => bindParameters params [] (Table.put param .undefined scope)
  | param :: params, v :: vs, scope => bindParameters params vs (Table.put param v scope)

/-! ### Operators -/

/-- Equality of known values. -/
def strictEquals : Value → Value → Bool
  | .null, .null => true
  | .undefined, .undefined => true
  | a, b => a.sameToken b

/-- The value of a unary operator on a known value, if it has one. -/
def unaryValue? (operator : String) (v : Value) : Option Value :=
  match operator with
  | "!" => v.truthy?.map fun b => .boolean !b
  | "-" => v.asNumber?.map fun x => .number (-x)
  | "+" => v.asNumber?.map .number
  | "void" => some .undefined
  | _ => none

/-- The value of a binary operator on two numbers, if it has one. -/
def arithmetic? (operator : String) (a b : Float) : Option Value :=
  match operator with
  | "+" => some (.number (a + b))
  | "-" => some (.number (a - b))
  | "*" => some (.number (a * b))
  | "/" => some (.number (a / b))
  | "%" => some (.number (Number.remainder a b))
  | "**" => some (.number (a.pow b))
  | "<" => some (.boolean (a < b))
  | ">" => some (.boolean (a > b))
  | "<=" => some (.boolean (a ≤ b))
  | ">=" => some (.boolean (a ≥ b))
  | _ => none

/-- The value of a binary operator on two known values, if it has one. -/
def binaryValue? (operator : String) (left right : Value) : Option Value :=
  if operator == "===" || operator == "==" then some (.boolean (strictEquals left right))
  else if operator == "!==" || operator == "!=" then some (.boolean !(strictEquals left right))
  else
    match left, right with
    | .number a, .number b => arithmetic? operator a b
    | .string a, b => if operator == "+" then b.toText?.map fun t => .string (a ++ t) else none
    | a, .string b => if operator == "+" then a.toText?.map fun t => .string (t ++ b) else none
    | _, _ => none

/-! ### One step -/

section Step

variable (p : Program) (visit : Visit)

/-- The value of a declaration. A variable has the value of its initializer; any other declaration,
and a variable initialized by `new`, is a reference to itself. -/
def visitDeclaration (node : Expr) (id : DeclarationId) (place : Place) : Eval Value := do
  match p.declaration? id with
  | none => return stopped node place (.unknownIdentifier "")
  | some d =>
    modify fun a => { a with edges := (place.file, d.file) :: a.edges }
    match d.kind with
    | .binding (some (.node (.new _ _) _)) _ => return .reference (.ofDeclaration d)
    | .binding (some init) _ =>
      if id ∈ (← get).bindings then return stopped node place (.circular d.name)
      else
        modify fun a => { a with bindings := id :: a.bindings }
        let value ← visit init { file := d.file }
        modify fun a => { a with bindings := a.bindings.tail }
        return value
    | _ => return .reference (.ofDeclaration d)

/-- The value of what a name refers to. -/
def visitTarget (node : Expr) (target : Target) (place : Place) : Eval Value :=
  match target with
  | .declaration id => visitDeclaration p visit node id place
  | .whole file => return stopped node place (.wholeModule file)
  | .external module name => return stopped node place (.external module name)

/-- The value of a name: a bound parameter, or what the name refers to in its file. -/
def visitIdent (node : Expr) (name : String) (place : Place) : Eval Value :=
  match Table.get? name place.scope with
  | some value => return value
  | none =>
    if name == "undefined" then return .undefined
    else
      match p.identifier? name place.file with
      | some target => visitTarget p visit node target place
      | none => return stopped node place (.unknownIdentifier name)

/-- The value of a member of an enumeration. A member without value counts on from the last number. -/
def visitEnum (property : String) (place : Place) : List EnumMember → Float → Eval Value
  | [], _ => return .undefined
  | m :: ms, next => do
    let value ← match m.value with
      | some e => visit e place
      | none => pure (.number next)
    if m.name == property then return value
    else
      visitEnum property place ms <| match value with
        | .number x => x + 1
        | _ => next

/-- The value of a property of a declaration. -/
def visitMember (node : Expr) (r : Reference) (property : String) (place : Place) : Eval Value := do
  match p.declaration? r.id with
  | none => return stopped node place (.invalidOperand "property access")
  | some d =>
    match d.kind with
    | .cls body =>
      match body.static? property with
      | some m =>
        if m.kind == .method then return stopped node place .functionValue
        else
          match m.value with
          | some e => visit e { file := d.file }
          | none => return .undefined
      | none => return .undefined
    | .enumeration members => visitEnum visit property { file := d.file } members 0
    | _ => return stopped node place (.invalidOperand "property access")

/-- The value of a property of a value. -/
def property (node : Expr) (receiver : Value) (name : String) (place : Place) : Eval Value :=
  match receiver with
  | .map entries => return (Table.get? name entries).getD .undefined
  | .array items =>
    return if name == "length" then .number (Float.ofNat items.length) else .undefined
  | .string s => return if name == "length" then .number (Float.ofNat s.length) else .undefined
  | .reference r => visitMember p visit node r name place
  | .dynamic (.mk _ _ (.external module n)) =>
    return stopped node place (.external module (n ++ "." ++ name))
  | .dynamic inner => return dependent node place inner
  | .null | .undefined => return stopped node place (.invalidOperand "property access")
  | _ => return .undefined

/-- The file that an expression stands for as a whole. -/
def wholeFile? (object : Expr) (place : Place) : Option String :=
  match object.asIdent? with
  | none => none
  | some name =>
    if Table.contains name place.scope then none
    else
      match p.identifier? name place.file with
      | some (.whole file) => some file
      | _ => none

/-- The value of a property access. On a whole file it goes through the exports of the file. -/
def visitProperty (node object : Expr) (name : String) (place : Place) : Eval Value := do
  match wholeFile? p object place with
  | some file =>
    match p.export? file name with
    | some target => visitTarget p visit node target place
    | none =>
      let qualified := (object.asIdent?.getD "") ++ "." ++ name
      return stopped node place (.unknownIdentifier qualified)
  | none =>
    let receiver ← visit object place
    property p visit node receiver name place

/-- The value of an element access. -/
def visitElement (node object index : Expr) (place : Place) : Eval Value := do
  let receiver ← visit object place
  let i ← visit index place
  match receiver, i with
  | _, .dynamic inner => return dependent node place inner
  | .array items, .number x =>
    match Number.toInt? x with
    | some (.ofNat n) => return (items[n]?).getD .undefined
    | _ => return .undefined
  | receiver, .string key => property p visit node receiver key place
  | receiver, .number x => property p visit node receiver (Number.display x) place
  | .dynamic inner, _ => return dependent node place inner
  | _, _ => return stopped node place (.invalidOperand "element access")

/-- The values of array entries or arguments; arrays that are spread out are flattened. -/
def visitElements (place : Place) : List Element → Eval (List Value)
  | [] => return []
  | .hole :: es => return .undefined :: (← visitElements place es)
  | .item e :: es => do
    let v ← visit e place
    return v :: (← visitElements place es)
  | .spread e :: es => do
    let vs ← match ← visit e place with
      | .array inner => pure inner
      | .dynamic d => pure [.dynamic d]
      | _ => pure [stopped e place (.invalidOperand "spread")]
    return vs ++ (← visitElements place es)

/-- The key of an object member, or the value at which evaluation of the object stops. -/
def visitKey (node : Expr) (place : Place) : Key → Eval (Except Value String)
  | .fixed name => return .ok name
  | .computed e => do
    match ← visit e place with
    | .string s => return .ok s
    | .number x => return .ok (Number.display x)
    | .dynamic inner => return .error (dependent node place inner)
    | _ => return .error (stopped node place (.invalidOperand "computed property name"))

/-- The value of an object literal, given the entries in front of the remaining members. -/
def visitMembers (node : Expr) (place : Place) : List Member → Table String Value → Eval Value
  | [], entries => return .map entries
  | .entry key e :: ms, entries => do
    match ← visitKey visit node place key with
    | .error value => return value
    | .ok name =>
      let value ← visit e place
      visitMembers node place ms (Table.put name value entries)
  | .spread e :: ms, entries => do
    match ← visit e place with
    | .map inner => visitMembers node place ms (Table.extend entries inner)
    | .dynamic inner => return dependent node place inner
    | _ => return stopped node place (.invalidOperand "object spread")

/-- The value of a template text, given the text in front of the remaining pieces. -/
def visitPieces (node : Expr) (place : Place) : List String → List Expr → String → Eval Value
  | [], _, out => return .string out
  | quasi :: quasis, [], out => visitPieces node place quasis [] (out ++ quasi)
  | quasi :: quasis, e :: es, out => do
    match ← visit e place with
    | .dynamic inner => return dependent node place inner
    | value =>
      match value.toText? with
      | some t => visitPieces node place quasis es (out ++ quasi ++ t)
      | none => return stopped node place (.invalidOperand "template literal")

/-- The value of a unary operator. -/
def visitUnary (node : Expr) (operator : String) (argument : Expr) (place : Place) : Eval Value := do
  match ← visit argument place with
  | .dynamic inner => return dependent node place inner
  | value =>
    return (unaryValue? operator value).getD (stopped node place (.invalidOperand "unary operator"))

/-- The value of a binary operator. The right side of a logical operator is evaluated only where it
is the result. -/
def visitBinary (node : Expr) (operator : String) (left right : Expr) (place : Place) : Eval Value := do
  match ← visit left place with
  | .dynamic inner => return dependent node place inner
  | a =>
    match operator with
    | "&&" => if a.truthy? == some false then return a else visit right place
    | "||" => if a.truthy? == some true then return a else visit right place
    | "??" =>
      match a with
      | .null | .undefined => visit right place
      | _ => return a
    | _ =>
      match ← visit right place with
      | .dynamic inner => return dependent node place inner
      | b =>
        return (binaryValue? operator a b).getD (stopped node place (.invalidOperand "binary operator"))

/-! ### Calls -/

/-- A function or static method that can be called. -/
structure Callee where
  id : DeclarationId
  /-- The class of a static method. -/
  owner : Option String
  name : String
  file : String
  params : List String
  body : Option Expr
  deriving Inhabited

/-- The static method of a referenced class. -/
def staticMethod? (r : Reference) (name : String) : Option Callee := do
  let d ← p.declaration? r.id
  let m ← (← d.cls?).static? name
  if m.kind == .method then some ⟨d.id, some d.name, m.name, d.file, m.params, m.returns⟩ else none

/-- The referenced function. -/
def function? (r : Reference) : Option Callee := do
  let d ← p.declaration? r.id
  match d.kind with
  | .function params returns => some ⟨d.id, none, d.name, d.file, params, returns⟩
  | _ => none

/-- What is called: a function or static method, or else the value of the expression. -/
def resolveCallee (callee : Expr) (place : Place) : Eval (Callee ⊕ Value) := do
  match callee.shape with
  | .property object name =>
    let receiver ← visit object place
    match receiver.asReference?.bind (staticMethod? p · name) with
    | some c => return .inl c
    | none => return .inr (← property p visit callee receiver name place)
  | _ =>
    let value ← visit callee place
    match value.asReference?.bind (function? p) with
    | some c => return .inl c
    | none => return .inr value

/-- What a forward reference stands for: the expression that its only argument, a function,
returns. A function of that name with a body of its own is an ordinary function. -/
def forwarded? (callee : Expr) (args : List Element) (place : Place) : Option Expr :=
  if callee.asIdent? != some "forwardRef" || Table.contains "forwardRef" place.scope then none
  else
    let ordinary : Bool := match p.identifier? "forwardRef" place.file with
      | some (.declaration id) =>
        match (p.declaration? id).map fun (d : Declaration) => d.kind with
        | some (.function _ (some _)) => true
        | _ => false
      | _ => false
    if ordinary then none
    else
      match args with
      | [.item (.node (.function _ (some body)) _)] => some body
      | _ => none

/-- The value of a call of a declared function. -/
def callDeclared (node : Expr) (c : Callee) (args : List Element) (place : Place) : Eval Value := do
  match c.body with
  | none =>
    let name := match c.owner with
      | some owner => owner ++ "." ++ c.name
      | none => c.name
    return stopped node place (.declaredCall name c.file)
  | some body =>
    if (c.id, c.name) ∈ (← get).calls then return stopped node place (.circular c.name)
    else
      let values ← visitElements visit place args
      modify fun a => { a with calls := (c.id, c.name) :: a.calls }
      let result ← visit body { file := c.file, scope := bindParameters c.params values [] }
      modify fun a => { a with calls := a.calls.tail }
      return result

/-- The value of a call. -/
def visitCall (node callee : Expr) (args : List Element) (place : Place) : Eval Value := do
  match forwarded? p callee args place with
  | some body => visit body place
  | none =>
    match ← resolveCallee p visit callee place with
    | .inl c => callDeclared visit node c args place
    | .inr (.dynamic (.mk (.node (.function params (some body)) _) file .functionValue)) =>
      -- a function expression, called in place or held in a variable
      let values ← visitElements visit place args
      visit body { file, scope := bindParameters params values [] }
    | .inr (.dynamic inner) => return dependent node place inner
    | .inr _ => return stopped node place .unknownCall

/-- The value of a choice. -/
def visitConditional (node test yes no : Expr) (place : Place) : Eval Value := do
  match ← visit test place with
  | .dynamic inner => return dependent node place inner
  | value => if value.truthy? == some true then visit yes place else visit no place

/-- The value of an expression whose parts are evaluated by `visit`. -/
def visitExpr (node : Expr) (place : Place) : Eval Value :=
  match node.shape with
  | .string s => return .string s
  | .number x => return .number x
  | .boolean b => return .boolean b
  | .null => return .null
  | .template quasis exprs => visitPieces visit node place quasis exprs ""
  | .ident name => visitIdent p visit node name place
  | .property object name => visitProperty p visit node object name place
  | .element object index => visitElement p visit node object index place
  | .call callee args => visitCall p visit node callee args place
  | .new _ _ => return stopped node place (.unsupportedSyntax "new expression")
  | .array items => return .array (← visitElements visit place items)
  | .object members => visitMembers visit node place members []
  | .function _ _ => return stopped node place .functionValue
  | .dynamicImport _ => return stopped node place .dynamicImport
  | .unary operator argument => visitUnary visit node operator argument place
  | .binary operator left right => visitBinary visit node operator left right place
  | .conditional test yes no => visitConditional visit node test yes no place
  | .unsupported label => return stopped node place (.unsupportedSyntax label)

end Step

/-! ### Evaluation up to a depth -/

/-- The value of an expression, whose parts may be nested as deeply as the bound allows. -/
def visit (p : Program) : Nat → Visit
  | 0, node, place => return stopped node place .tooDeep
  | depth + 1, node, place => visitExpr p (visit p depth) node place

/-- A value together with the dependencies between files that its evaluation noticed. -/
structure Outcome where
  value : Value
  edges : List (String × String)
  deriving Inhabited

/-- The outcome of a computation that starts with nothing being evaluated. -/
def Eval.outcome (e : Eval Value) : Outcome :=
  let (value, a) := e.run {}
  ⟨value, a.edges.reverse⟩

/-- The value of an expression of a file, with some names bound. -/
def evaluate (p : Program) (depth : Nat) (e : Expr) (file : String) (scope : Table String Value) : Outcome :=
  (visit p depth e { file, scope }).outcome

/-- The value of a declaration. -/
def evaluateDeclaration (p : Program) (depth : Nat) (d : Declaration) : Outcome :=
  (visitDeclaration p (visit p depth) (.node (.ident d.name) d.range) d.id { file := d.file }).outcome

/-- The graph with the dependencies that an evaluation noticed. -/
def Outcome.note (o : Outcome) (g : FileGraph) : FileGraph :=
  o.edges.foldl (fun g e => g.add e.1 e.2) g

end ComponentAtlas.Evaluation
