import ComponentAtlas.Script.Reading.Cursor

/-!
# Types, parameters and decorators

* `anyType`: a type annotation;
* `parameters`: the parameters of a function, a method or a constructor;
* `decorators`: the decorators in front of something.
-/

namespace ComponentAtlas.Script.Reading

open ComponentAtlas.Text

variable (g : Grammar)

/-! ### Keys of members -/

/-- The key of a member of a class, an object or a type. -/
inductive MemberKey
  | fixed (name : String)
  /-- A key in brackets, with the name that it is known to stand for. -/
  | computed (value : Expr) (name : Option String)
  | hidden
  deriving Inhabited

/-- The name that a literal between brackets stands for. The literal must fill the brackets. -/
def literalName (range : Range) (e : Expr) : Option String :=
  if e.range ≠ range then none
  else
    match e.shape with
    | .string value => some value
    | .number value => some (Number.render value)
    | .null => some "null"
    | .template [quasi] [] => some quasi
    | _ => none

/-- The key of a member. -/
def memberKey : Reader MemberKey := do
  match (← cursor).token with
  | .word n _ => advance; return .fixed n
  | .string value => advance; return .fixed value
  | .number value => advance; return .fixed (Number.render value)
  | .bigint digits => advance; return .fixed digits
  | .hidden _ => advance; return .hidden
  | .sign "[" =>
    advance
    let c ← cursor
    let value ← inside g.assign
    let range ← rangeFrom c.start
    expect "]"
    let name := match c.token, value.shape with
      | .bigint digits, .unsupported _ => if value.range = range then some digits else none
      | .sign _, .unsupported _ =>
        -- a regular expression stands for its own text
        if value.range = range && (c.isSign "/" || c.isSign "/=") then some (c.textTo range.stop) else none
      | _, _ => literalName range value
    return .computed value name
  | _ => failure

/-! ### Decorators -/

/-- A decorator. One that is neither a name nor a call is read but stands for nothing. -/
def decorator : Reader (Option Decorator) := do
  let start ← startOf
  expect "@"
  let c ← cursor
  let operand ← withReader (fun ctx => { ctx with inDecorator := true }) g.leftHand
  let range ← rangeFrom start
  match operand.form, operand.expr.shape with
  | .call calleeStop, .call _ args =>
    let args := args.filterMap fun
      | .item e => some e
      | _ => none
    return some { name := c.textTo calleeStop, args := some args, range }
  | .plain, .ident n => return some { name := n, args := none, range }
  | .plain, .property _ _ => return some { name := c.textTo range.stop, args := none, range }
  | _, _ => return none

/-- The decorators in front of something. -/
def decorators : Reader (List Decorator) := do
  let ds ← many (whenever (atSign "@") (decorator g))
  return ds.filterMap id

/-! ### Types -/

/-- A type behind a colon, if a colon stands there. -/
def annotation : Reader (Option TypeNode) := whenever (accept ":") g.type

/-- The arguments of a generic type. -/
def typeArguments : Reader (List TypeNode) := do
  expect "<"
  inside (commaList ">" g.type)

/-- One parameter of a generic declaration. -/
def typeParameter : Reader Unit := do
  let _ ← many do
    let c ← cursor
    if (c.isWord "const" || c.isWord "in" || c.isWord "out") && c.next.word?.isSome &&
        !c.next.isWord "extends" then
      advance
      return some ()
    return none
  let _ ← name
  if ← acceptWord "extends" then let _ ← g.type
  if ← accept "=" then let _ ← g.type

/-- The parameters of a generic declaration, if there are any. -/
def typeParameters : Reader Unit := do
  if ← accept "<" then
    let _ ← inside (commaList ">" (typeParameter g))

/-- The words in front of a constructor parameter that make it a property. -/
def parameterModifiers : List String := ["public", "private", "protected", "readonly", "override"]

/-- Whether a cursor stands at a modifier of a parameter. -/
def atParameterModifier (c : Cursor) : Bool :=
  (c.word?.map parameterModifiers.contains).getD false &&
    (c.next.word?.isSome || c.next.isSign "\x7b" || c.next.isSign "[")

/-- A parameter; one that collects the remaining arguments or gives the type of the receiver is read
but is none of the declared ones. -/
def parameter : Reader (Option Parameter) := do
  let start ← startOf
  let decorators ← decorators g
  let _ ← many do
    if atParameterModifier (← cursor) then
      advance
      return some ()
    return none
  let isRest ← accept "..."
  if !isRest && (← acceptWord "this") then
    let _ ← annotation g
    return none
  let bound ← g.binding
  let _ ← accept "?"
  let type ← annotation g
  let hasDefault ← accept "="
  if hasDefault then let _ ← g.assign
  if isRest then return none
  return some {
    name := if hasDefault then none else bound
    type := if hasDefault then none else type
    decorators
    range := ← rangeFrom start }

/-- The parameters of a function between parentheses. -/
def parameters : Reader (List Parameter) := do
  expect "("
  let ps ← inside (commaList ")" (parameter g))
  return ps.filterMap id

/-- The names of the plainly named parameters. -/
def parameterNames (ps : List Parameter) : List String := ps.filterMap (·.name)

/-- The type of a result: a type, or what the result tells about a parameter. -/
def resultType : Reader Unit := do
  let c ← cursor
  if c.isWord "asserts" && !c.next.newline && c.next.word?.isSome && !c.next.isWord "is" then
    advance
    let _ ← anyWord
    if ← acceptWord "is" then let _ ← g.type
  else if c.word?.isSome && c.next.isWord "is" && !c.next.newline then
    advance
    advance
    let _ ← g.type
  else
    let _ ← g.type

/-- The type of a result behind a colon, if a colon stands there. -/
def resultAnnotation : Reader Bool := do
  if ← accept ":" then
    resultType g
    return true
  return false

/-- The type of a function, from its parameters on. -/
def functionType : Reader Unit := do
  typeParameters g
  let _ ← parameters g
  expect "=>"
  resultType g

/-- A name with qualifications. -/
def qualifiedName : Reader Unit := do
  let _ ← anyWord
  let _ ← many (whenever (accept ".") do
    match (← cursor).token with
    | .hidden _ => advance
    | _ => let _ ← anyWord)

/-- The arguments of a generic type, if they stand on the same line. -/
def optionalTypeArguments : Reader (List TypeNode) := do
  let c ← cursor
  if c.isSign "<" && !c.newline then typeArguments g else return []

/-- The remaining part of a type that is taken from a module given by a string. -/
def importType : Reader Unit := do
  expectWord "import"
  expect "("
  let _ ← inside g.type
  if ← accept "," then
    let _ ← attempt (inside g.assign)
    let _ ← accept ","
  expect ")"
  let _ ← many (whenever (accept ".") anyWord)

/-- An element of a tuple. Optional and collecting elements stand for nothing. -/
def tupleElement : Reader (Option TypeNode) := do
  let isRest ← accept "..."
  let c ← cursor
  let named := c.word?.isSome &&
    (c.next.isSign ":" || (c.next.isSign "?" && c.next.next.isSign ":"))
  if named then
    advance
    let _ ← accept "?"
    expect ":"
    let _ ← g.type
    return if isRest then none else some .unknown
  let t ← g.type
  if isRest then return none
  if ← accept "?" then return none
  return some t

/-- The end of a member of an object type. -/
def memberEnd : Reader Unit := do
  unless ← accept ";" do
    unless ← accept "," do
      let c ← cursor
      unless c.newline || c.isSign "\x7d" do failure

/-- A signature: the parameters and the result of a call. -/
def signature : Reader Unit := do
  typeParameters g
  let _ ← parameters g
  let _ ← resultAnnotation g

/-- Whether a cursor stands at an index signature, as in `[key: string]`. -/
def atIndexSignature (c : Cursor) : Bool :=
  c.isSign "[" && c.next.word?.isSome && c.next.next.isSign ":"

/-- An index signature. -/
def indexSignature : Reader Unit := do
  expect "["
  let _ ← anyWord
  expect ":"
  let _ ← inside g.type
  expect "]"
  let _ ← annotation g

/-- A member of an object type. -/
def typeMember : Reader Unit := do
  let c ← cursor
  if c.isSign "(" || c.isSign "<" then
    signature g
  else if c.isWord "new" && (c.next.isSign "(" || c.next.isSign "<") then
    advance
    signature g
  else
    let _ ← many do
      let c ← cursor
      if (c.isWord "readonly" || c.isWord "static" || c.isWord "declare") && c.next.isKey then
        advance
        return some ()
      return none
    let c ← cursor
    if atIndexSignature c then
      indexSignature g
    else
      if (c.isWord "get" || c.isWord "set") && c.next.isKey then advance
      let _ ← memberKey g
      let _ ← accept "?"
      let c ← cursor
      if c.isSign "(" || c.isSign "<" then signature g
      else let _ ← annotation g
  memberEnd

/-- The members of an object type between braces. -/
def typeMembers : Reader Unit := do
  expect "\x7b"
  let _ ← inside (many (do
    if ← atSign "\x7d" then return none
    typeMember g
    return some ()))
  expect "\x7d"

/-- A mark `+`, `-` or nothing in front of a modifier of a mapped type. -/
def optionalSign : Reader Unit := do
  let _ ← accept "+"
  let _ ← accept "-"

/-- A type that maps keys to types. -/
def mappedType : Reader Unit := do
  expect "\x7b"
  optionalSign
  let _ ← acceptWord "readonly"
  expect "["
  let _ ← name
  expectWord "in"
  let _ ← inside g.type
  if ← acceptWord "as" then let _ ← inside g.type
  expect "]"
  optionalSign
  let _ ← accept "?"
  let _ ← annotation g
  let _ ← accept ";"
  let _ ← accept ","
  expect "\x7d"

/-- The words that name a type by themselves. -/
def typeKeywords : List String :=
  ["any", "unknown", "never", "string", "number", "boolean", "bigint", "symbol", "object",
   "undefined", "intrinsic"]

/-- Goes on behind the closing brace of an inserted expression with the next piece of a template
text: its characters and whether it is the last one. -/
def nextPiece : Reader (String × Bool) := do
  let c ← cursor
  unless c.isSign "\x7d" do failure
  let s := scanPiece c.rest
  match s.token with
  | .piece value last =>
    set (c.place c.last c.start c.newline c.here s)
    advance
    return (value, last)
  | _ => failure

/-- A named type. -/
def referenceType : Reader TypeNode := do
  let c ← cursor
  unless c.isName || c.isWord "const" do failure
  qualifiedName
  let name := c.textTo (← cursor).last
  return .reference name (← optionalTypeArguments g)

/-- A type without operators around it. -/
def primaryType : Reader TypeNode := do
  let c ← cursor
  match c.token with
  | .string value => advance; return .string value
  | .number _ | .bigint _ => advance; return .unknown
  | .piece _ last =>
    advance
    unless last do
      let _ ← inside g.type
      let _ ← many do
        if (← nextPiece).2 then return none
        let _ ← inside g.type
        return some ()
    return .unknown
  | .sign "-" =>
    advance
    match (← cursor).token with
    | .number _ | .bigint _ => advance; return .unknown
    | _ => failure
  | .sign "\x7b" =>
    match ← attempt (mappedType g) with
    | some _ => return .unknown
    | none => typeMembers g; return .unknown
  | .sign "[" =>
    advance
    let items ← inside (commaList "]" (tupleElement g))
    return .tuple (items.filterMap id)
  | .sign "(" =>
    advance
    let _ ← inside g.type
    expect ")"
    return .unknown
  | .word "typeof" false =>
    advance
    let target ← cursor
    if target.isWord "import" then importType g else qualifiedName
    let name := target.textTo (← cursor).last
    let _ ← optionalTypeArguments g
    return .query name
  | .word "import" false =>
    importType g
    let _ ← optionalTypeArguments g
    return .unknown
  | .word n false =>
    if n == "this" || n == "void" || n == "null" || n == "true" || n == "false" then
      advance
      return .keyword n
    else if typeKeywords.contains n && !c.next.isSign "." then
      advance
      return .keyword n
    else referenceType g
  | _ => referenceType g

/-- A type with the brackets behind it. -/
def postfixType : Reader TypeNode := do
  let base ← primaryType g
  let brackets ← many do
    let c ← cursor
    if c.isSign "[" && !c.newline then
      advance
      unless ← accept "]" do
        let _ ← inside g.type
        expect "]"
      return some ()
    return none
  return if brackets.isEmpty then base else .unknown

/-- A type with the operators in front of it. -/
def operatorType : Reader TypeNode := do
  let c ← cursor
  let operand := c.next.word?.isSome || c.next.isSign "(" || c.next.isSign "\x7b" || c.next.isSign "["
  if (c.isWord "keyof" || c.isWord "unique" || c.isWord "readonly") && operand then
    advance
    let _ ← g.typeOperand
    return .unknown
  else if c.isWord "infer" && c.next.isName then
    advance
    let _ ← name
    let conditional := (← read).conditionalTypes
    let _ ← attempt do
      expectWord "extends"
      let _ ← withReader (fun ctx => { ctx with conditionalTypes := false }) g.type
      if conditional && (← atSign "?") then failure
    return .unknown
  else postfixType g

/-- Whether a cursor stands at the type of a function. -/
def atFunctionType (c : Cursor) : Bool :=
  c.isSign "<" || c.isWord "new" || (c.isWord "abstract" && c.next.isWord "new")

/-- The type of a function or constructor, or another type. -/
def functionOr (p : Reader TypeNode) : Reader TypeNode := do
  let c ← cursor
  if atFunctionType c then
    let _ ← acceptWord "abstract"
    let _ ← acceptWord "new"
    functionType g
    return .unknown
  else if c.isSign "(" then
    match ← attempt (functionType g) with
    | some _ => return .unknown
    | none => p
  else p

/-- A type in which several are combined by a sign, which may also stand in front of them. -/
def combinedType (sign : String) (make : List TypeNode → TypeNode) (operand : Reader TypeNode) :
    Reader TypeNode := do
  let leading ← accept sign
  let items ← separated sign (if leading then functionOr g operand else operand)
  match items, leading with
  | [t], false => return t
  | ts, _ => return make ts

/-- A type of alternatives. -/
def unionType : Reader TypeNode :=
  combinedType g "|" .union (combinedType g "&" (fun _ => .unknown) (functionOr g (operatorType g)))

/-- A type annotation. -/
def anyType : Reader TypeNode := do
  let t ← functionOr g (unionType g)
  let c ← cursor
  if (← read).conditionalTypes && c.isWord "extends" && !c.newline then
    advance
    let _ ← withReader (fun ctx => { ctx with conditionalTypes := false }) g.type
    expect "?"
    let _ ← inside g.type
    expect ":"
    let _ ← inside g.type
    return .unknown
  return t

end ComponentAtlas.Script.Reading
