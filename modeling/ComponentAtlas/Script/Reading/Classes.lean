import ComponentAtlas.Script.Reading.Types

/-!
# Functions and classes

* `functionBody`: the statements of a function, of which only a single returned expression is kept;
* `method`: parameters and body of a function, method or accessor;
* `classTail`: a class from its keyword on.
-/

namespace ComponentAtlas.Script.Reading

variable (g : Grammar)

/-- The statements between braces. -/
def block : Reader (List Statement) := do
  expect "\x7b"
  let statements ← inside (many (do
    if ← atSign "\x7d" then return none
    return some (← g.statement)))
  expect "\x7d"
  return statements

/-- What a list of statements returns, if it consists of one `return`. Leading strings are
directives, not statements. -/
def singleReturn (statements : List Statement) : Option Expr :=
  match statements.dropWhile (fun | .text => true | _ => false) with
  | [.returns value] => value
  | _ => none

/-- The body of a function: what it returns, if it does nothing else. -/
def functionBody : Reader (Option Expr) := do
  let statements ← withReader (fun ctx => { ctx with inFunction := true, ambient := false }) (block g)
  return singleReturn statements

/-- A function without its name: parameters and returned expression. -/
structure Method where
  params : List Parameter
  returns : Option Expr
  hasBody : Bool
  deriving Inhabited

/-- A function from its parameters on. A function without body is only declared. -/
def method : Reader Method := do
  typeParameters g
  let params ← parameters g
  let _ ← resultAnnotation g
  if ← atSign "\x7b" then return ⟨params, ← functionBody g, true⟩
  semicolon
  return ⟨params, none, false⟩

/-- The words in front of a class member that qualify it. -/
def memberModifiers : List String :=
  ["declare", "private", "protected", "public", "static", "abstract", "override", "readonly",
   "accessor", "async", "export", "in", "out", "const"]

/-- Whether the word at a cursor qualifies a class member. -/
def atMemberModifier (c : Cursor) : Bool :=
  match c.token with
  | .word n false =>
    memberModifiers.contains n && (c.next.isKey || c.next.isSign "*") && (n == "static" || !c.next.newline)
  | _ => false

/-- What an element of a class body contributes. -/
inductive ClassElement
  | construct (params : List Parameter)
  | member (m : ClassMember)
  | nothing
  deriving Inhabited

/-- The name under which a member with the given key is known. -/
def MemberKey.name? : MemberKey → Option String
  | .fixed n => some n
  | .computed _ n => n
  | .hidden => none

/-- A member of a class behind its decorators and modifiers. -/
def classMember (start : Nat) (decorators : List Decorator) (modifiers : List String) :
    Reader ClassElement := do
  let isStatic := modifiers.contains "static"
  let generator ← accept "*"
  let c ← cursor
  let kind : MemberKind :=
    if !generator && c.next.isKey then
      if c.isWord "get" then .getter else if c.isWord "set" then .setter else .method
    else .method
  if kind != .method then advance
  let key ← memberKey g
  unless ← accept "?" do
    if !(← cursor).newline then let _ ← accept "!"
  let c ← cursor
  if generator || kind != .method || c.isSign "(" || c.isSign "<" then
    let m ← method g
    let isConstructor : Bool := match key with
      | .fixed "constructor" => !isStatic && !generator && kind == .method
      | _ => false
    if isConstructor then return .construct m.params
    match key.name? with
    | none => return .nothing
    | some name =>
      return .member {
        name, kind, isStatic, decorators, params := parameterNames m.params, returns := m.returns
        range := ← rangeFrom start }
  else
    let type ← annotation g
    let value ← whenever (accept "=") (inside g.assign)
    semicolon
    if modifiers.contains "accessor" then return .nothing
    match key.name? with
    | none => return .nothing
    | some name =>
      return .member { name, kind := .property, isStatic, value, type, decorators, range := ← rangeFrom start }

/-- An element of a class body. -/
def classElement : Reader ClassElement := do
  if ← accept ";" then return .nothing
  let start ← startOf
  let decorators ← decorators g
  let c ← cursor
  if c.isWord "static" && c.next.isSign "\x7b" then
    advance
    let _ ← withReader (fun ctx => { ctx with inFunction := false }) (block g)
    return .nothing
  let modifiers ← many do
    let c ← cursor
    if atMemberModifier c then
      advance
      return c.word?
    return none
  if atIndexSignature (← cursor) then
    indexSignature g
    semicolon
    return .nothing
  classMember g start decorators modifiers

/-- A class with its name, if it has one. -/
structure NamedClass where
  name : Option String
  body : ClassBody
  deriving Inhabited

/-- The classes and interfaces that a class refers to behind its name. -/
def heritage : Reader (Option Expr) := do
  let base ← whenever (acceptWord "extends") do
    let operand ← g.leftHand
    let _ ← optionalTypeArguments g
    return operand.expr
  if ← acceptWord "implements" then
    let _ ← separated "," (referenceType g)
  return base

/-- A class from its keyword on. A class with several constructors has the last of them. -/
def classTail (decorators : List Decorator) (isAmbient isAbstract : Bool) : Reader NamedClass := do
  expectWord "class"
  let c ← cursor
  let name ← whenever (return c.isName && !c.isWord "implements") name
  typeParameters g
  let base ← heritage g
  expect "\x7b"
  let elements ← inside (many (do
    if ← atSign "\x7d" then return none
    return some (← classElement g)))
  expect "\x7d"
  let members := elements.filterMap fun
    | .member m => some m
    | _ => none
  let constructors := elements.filterMap fun
    | .construct ps => some ps
    | _ => none
  return ⟨name, {
    decorators, members, constructor? := constructors.getLast?, heritage := base, isAmbient, isAbstract }⟩

end ComponentAtlas.Script.Reading
