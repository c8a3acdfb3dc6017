import ComponentAtlas.Script.Reading.Classes

/-!
# Expressions

An expression is read from its outermost form inwards: `assignment`, `conditional`, `binaryFrom`,
`unary`, `leftHandFrom`, `primary`. What the analysis does not reason about is read and kept under a
label.

Parentheses and assertions change neither the expression inside nor its place, yet what encloses
them begins where they begin.
-/

namespace ComponentAtlas.Script.Reading

open ComponentAtlas.Text

variable (g : Grammar)

/-- An expression of a kind that the analysis does not reason about. -/
def unsupported (start : Nat) : Reader Expr := nodeFrom start (.unsupported "expression")

/-! ### Literals -/

/-- Several expressions separated by commas. -/
def sequence : Reader Expr := do
  let start ← startOf
  let es ← separated "," g.assign
  match es with
  | [e] => return e
  | _ => unsupported start

/-- The pieces of a template text behind its first one, each with the expression in front of it. -/
def templateUpTo : Nat → Reader (List (Expr × String))
  | 0 => failure
  | n + 1 => do
    let e ← inside (sequence g)
    let (piece, last) ← nextPiece
    if last then return [(e, piece)]
    return (e, piece) :: (← templateUpTo n)

/-- The entries of an argument list behind its opening parenthesis. -/
def arguments : Reader (List Element) := do
  expect "("
  inside (commaList ")" (do
    if ← accept "..." then return Element.spread (← g.assign)
    return .item (← g.assign)))

/-- The entries of an array literal behind its opening bracket. -/
def arrayItems : Reader (List Element) := do
  let items ← inside (many (do
    if ← atSign "]" then return none
    if ← accept "," then return some Element.hole
    let e ← if ← accept "..." then pure (Element.spread (← g.assign)) else pure (.item (← g.assign))
    unless ← atSign "]" do expect ","
    return some e))
  expect "]"
  return items

/-- A function as a value of an object member, from its parameters on. -/
def methodValue : Reader Expr := do
  let start ← startOf
  let m ← method g
  unless m.hasBody do failure
  nodeFrom start (.function (parameterNames m.params) m.returns)

/-- A member of an object literal, nothing for one whose key has no name. -/
def objectMember : Reader (Option Member) := do
  if ← accept "..." then return some (.spread (← g.assign))
  let c ← cursor
  let isAsync := c.isWord "async" && (c.next.isKey || c.next.isSign "*") && !c.next.newline
  if isAsync then advance
  let generator ← accept "*"
  let c ← cursor
  let isAccessor := !isAsync && !generator && (c.isWord "get" || c.isWord "set") && c.next.isKey
  if isAccessor then advance
  let c ← cursor
  let key ← memberKey g
  let fixed : Option Key := match key with
    | .fixed n => some (.fixed n)
    | .computed e _ => some (.computed e)
    | .hidden => none
  let after ← cursor
  let value ←
    if isAsync || generator || isAccessor || after.isSign "(" || after.isSign "<" then methodValue g
    else if ← accept ":" then g.assign
    else if c.isName then
      let e := Expr.node (.ident (c.word?.getD "")) ⟨c.start, c.stop⟩
      -- a default, in an object literal that is the target of an assignment
      if ← accept "=" then let _ ← g.assign
      pure e
    else failure
  return fixed.map (.entry · value)

/-- The members of an object literal behind its opening brace. -/
def objectMembers : Reader (List Member) := do
  let members ← inside (commaList "\x7d" (objectMember g))
  return members.filterMap id

/-- A function expression from its keyword on. -/
def functionExpr (start : Nat) : Reader Expr := do
  expectWord "function"
  let _ ← accept "*"
  if (← cursor).isName then let _ ← name
  let m ← method g
  unless m.hasBody do failure
  nodeFrom start (.function (parameterNames m.params) m.returns)

/-! ### Primary expressions -/

/-- An expression with `new`. -/
def newExpr : Reader Expr := do
  let start ← startOf
  expectWord "new"
  if ← accept "." then
    expectWord "target"
    return ← unsupported start
  let callee ← g.callee
  let args ← whenever (atSign "(") (arguments g)
  nodeFrom start (.new callee.expr (args.getD []))

/-- An expression that begins with `import`. -/
def importExpr : Reader Expr := do
  let start ← startOf
  expectWord "import"
  if ← accept "." then
    let _ ← anyWord
    return ← unsupported start
  expect "("
  let source ← inside g.assign
  if ← accept "," then
    unless ← atSign ")" do
      let _ ← inside g.assign
      let _ ← accept ","
  expect ")"
  nodeFrom start (.dynamicImport source)

/-- A class as an expression. -/
def classExpr : Reader Expr := do
  let start ← startOf
  let ds ← decorators g
  let _ ← acceptWord "abstract"
  let _ ← classTail g ds false false
  nodeFrom start (.unsupported "class expression")

/-- A template text. -/
def templateExpr (first : String) (last : Bool) : Reader Expr := do
  let c ← cursor
  advance
  if last then nodeFrom c.start (.template [first] [])
  else
    let parts ← templateUpTo g (c.size - c.start)
    nodeFrom c.start (.template (first :: parts.map (·.2)) (parts.map (·.1)))

/-- A regular expression. -/
def patternExpr : Reader Expr := do
  let c ← cursor
  set (c.place c.last c.start c.newline c.here (scanPattern c.here))
  advance
  unsupported c.start

/-- An expression that is one word. -/
def wordExpr (shape : Shape) : Reader Expr := do
  let start ← startOf
  advance
  nodeFrom start shape

/-- The expressions that begin with a word. -/
def wordPrimary (n : String) (escaped : Bool) : Reader Expr := do
  let c ← cursor
  if escaped then
    if c.isName then wordExpr (.ident n) else failure
  else
    match n with
    | "this" => wordExpr (.unsupported "this")
    | "null" => wordExpr .null
    | "true" => wordExpr (.boolean true)
    | "false" => wordExpr (.boolean false)
    | "super" => wordExpr (.unsupported "expression")
    | "function" => functionExpr g c.start
    | "class" => classExpr g
    | "new" => newExpr g
    | "import" => importExpr g
    | _ =>
      if n == "async" && c.next.isWord "function" && !c.next.newline then
        advance
        functionExpr g c.start
      else if n == "abstract" && c.next.isWord "class" && !c.next.newline then classExpr g
      else if c.isName then wordExpr (.ident n)
      else failure

/-- An expression without operators, accesses and calls. -/
def primary : Reader Operand := do
  let c ← cursor
  match c.token with
  | .word n escaped => return { expr := ← wordPrimary g n escaped }
  | .string value => return { expr := ← wordExpr (.string value) }
  | .number value => return { expr := ← wordExpr (.number value) }
  | .bigint _ => return { expr := ← wordExpr (.unsupported "expression") }
  | .piece value last => return { expr := ← templateExpr g value last }
  | .sign "(" =>
    advance
    let e ← inside (sequence g)
    expect ")"
    return { expr := e, form := .wrapped }
  | .sign "[" =>
    advance
    let items ← arrayItems g
    return { expr := ← nodeFrom c.start (.array items) }
  | .sign "\x7b" =>
    advance
    let members ← objectMembers g
    return { expr := ← nodeFrom c.start (.object members) }
  | .sign "@" => return { expr := ← classExpr g }
  | .sign "/" | .sign "/=" => return { expr := ← patternExpr }
  | _ => failure

/-! ### Accesses and calls -/

/-- Whether a cursor stands where an expression can begin. -/
def beginsExpr (c : Cursor) : Bool :=
  match c.token with
  | .word n false =>
    !reserved.contains n || ["this", "null", "true", "false", "super", "function", "class", "new",
      "import", "typeof", "void", "delete"].contains n
  | .word _ true | .string _ | .number _ | .bigint _ | .piece _ _ | .hidden _ | .pattern _ => true
  | .sign t =>
    ["(", "[", "\x7b", "+", "-", "~", "!", "++", "--", "/", "/=", "<", "@"].contains t
  | _ => false

/-- Whether a cursor stands behind type arguments of an expression, and not behind a comparison. -/
def followsTypeArguments (c : Cursor) : Bool :=
  match c.token with
  | .piece _ _ => true
  | .sign t =>
    if t == "(" then true
    else if t == "<" || t == ">" || t == "+" || t == "-" then false
    else c.newline || !beginsExpr c
  | .word n false => c.newline || !beginsExpr c || ["in", "instanceof", "as", "satisfies"].contains n
  | _ => c.newline || !beginsExpr c

/-- The type arguments of an expression. -/
def exprTypeArguments : Reader Unit := do
  let _ ← typeArguments g
  unless followsTypeArguments (← cursor) do failure

/-- A template text that is given to a function. -/
def tagged (start : Nat) : Reader Expr := do
  match (← cursor).token with
  | .piece first last =>
    let _ ← templateExpr g first last
    nodeFrom start (.unsupported "tagged template")
  | _ => failure

/-- The name of a property behind a dot. -/
def propertyOf (start : Nat) (object : Expr) : Reader Expr := do
  match (← cursor).token with
  | .hidden _ => advance; unsupported start
  | _ =>
    let n ← anyWord
    nodeFrom start (.property object n)

/-- What is behind an opening bracket. -/
def elementOf (start : Nat) (object : Expr) : Reader Expr := do
  expect "["
  let index ← inside (sequence g)
  expect "]"
  nodeFrom start (.element object index)

/-- A call of an expression. -/
def callOf (start : Nat) (callee : Expr) : Reader Expr := do
  let args ← arguments g
  nodeFrom start (.call callee args)

/-- An expression while accesses and calls are added to it. -/
structure Chain where
  operand : Operand
  /-- Whether one of the accesses is optional. -/
  isOptional : Bool := false
  deriving Inhabited

/-- What follows the sign of an optional access. -/
def optionalAccess (start : Nat) (object : Expr) : Reader Expr := do
  let c ← cursor
  if c.isSign "(" then callOf g start object
  else if c.isSign "[" then elementOf g start object
  else if c.isSign "<" then
    exprTypeArguments g
    callOf g start object
  else propertyOf start object

/-- One more access or call, nothing where there is none. Calls do not belong to what `new` applies
to, and brackets not to a decorator. -/
def chainStep (start : Nat) (calls : Bool) (chain : Chain) : Reader (Option Chain) := do
  let c ← cursor
  let object := chain.operand.expr
  match c.token with
  | .piece _ _ => return some { chain with operand := { expr := ← tagged g start } }
  | .sign "." =>
    advance
    return some { chain with operand := { expr := ← propertyOf start object } }
  | .sign "?." =>
    if calls then
      advance
      return some { operand := { expr := ← optionalAccess g start object }, isOptional := true }
    else failure
  | .sign "[" =>
    if (← read).inDecorator then return none
    return some { chain with operand := { expr := ← elementOf g start object } }
  | .sign "!" =>
    if c.newline then return none
    advance
    return some { chain with operand := { expr := object, form := .wrapped } }
  | .sign "(" =>
    if calls then
      return some { chain with operand := { expr := ← callOf g start object, form := .call c.last } }
    else return none
  | .sign "<" =>
    match ← attempt (exprTypeArguments g) with
    | none => return none
    | some _ =>
      let after ← cursor
      match after.token with
      | .piece _ _ => return some { chain with operand := { expr := ← tagged g start } }
      | .sign "(" =>
        if calls then
          return some { chain with operand := { expr := ← callOf g start object, form := .call c.last } }
        else return some chain
      | _ =>
        if calls then return some { chain with operand := { expr := ← unsupported start } }
        else return some chain
  | _ => return none

/-- Repeats `chainStep`, a bounded number of times. -/
def chainUpTo (start : Nat) (calls : Bool) : Nat → Chain → Reader Chain
  | 0, _ => failure
  | n + 1, chain => do
    match ← chainStep g start calls chain with
    | none => return chain
    | some chain => chainUpTo start calls n chain

/-- An expression with its accesses and, unless they are excluded, its calls. An optional access
makes the whole of it something that the analysis does not reason about. -/
def leftHandFrom (calls : Bool) : Reader Operand := do
  let c ← cursor
  let base ← primary g
  let chain ← chainUpTo g c.start calls (c.size - c.start + 2) { operand := base }
  if chain.isOptional then return { expr := ← unsupported c.start, form := .wrapped }
  return chain.operand

/-! ### Operators -/

/-- An operator and the cursor behind it. -/
structure Operator where
  text : String
  after : Cursor
  deriving Inhabited

/-- The signs that begin with an angle, longer ones before their own beginnings. -/
def angleSigns : List String := [">>>=", ">>>", ">>=", ">>", ">=", ">", "<<=", "<<", "<=", "<"]

/-- The operator at a cursor; signs that begin with an angle are joined. -/
def operatorAt (c : Cursor) : Option Operator :=
  match c.token with
  | .sign t =>
    if t == "<" || t == ">" then
      angleSigns.findSome? fun s =>
        (dropLiteral? s.toList c.here).map fun rest => ⟨s, c.seek (c.start + s.utf8ByteSize) rest⟩
    else some ⟨t, c.next⟩
  | .word n false => if n == "in" || n == "instanceof" then some ⟨n, c.next⟩ else none
  | _ => none

/-- The precedence of a binary operator; a larger one binds tighter. -/
def precedence? (operator : String) : Option Nat :=
  match operator with
  | "??" => some 1
  | "||" => some 2
  | "&&" => some 3
  | "|" => some 4
  | "^" => some 5
  | "&" => some 6
  | "==" | "!=" | "===" | "!==" => some 7
  | "<" | ">" | "<=" | ">=" | "in" | "instanceof" => some 8
  | "<<" | ">>" | ">>>" => some 9
  | "+" | "-" => some 10
  | "*" | "/" | "%" => some 11
  | "**" => some 12
  | _ => none

/-- The precedence of the operators that state a type. -/
def assertionPrecedence : Nat := 8

/-- The signs of assignments. -/
def assignmentSigns : List String :=
  ["=", "+=", "-=", "*=", "/=", "%=", "**=", "<<=", ">>=", ">>>=", "&=", "|=", "^=", "&&=", "||=", "??="]

/-- An expression behind unary operators. -/
def unary : Reader Operand := do
  let c ← cursor
  let simple (operator : String) : Reader Operand := do
    advance
    let argument ← g.unary
    return { expr := ← nodeFrom c.start (.unary operator argument.expr), form := .unary }
  match c.token with
  | .sign t =>
    if t == "+" || t == "-" || t == "!" || t == "~" then simple t
    else if t == "++" || t == "--" then
      advance
      let _ ← g.unary
      return { expr := ← unsupported c.start }
    else if t == "<" then
      advance
      if (← atWord "const") then advance else let _ ← inside g.type
      expect ">"
      return { expr := (← g.unary).expr, form := .wrapped }
    else suffixed
  | .hidden _ =>
    advance
    expectWord "in"
    let _ ← g.binary (assertionPrecedence + 1)
    return { expr := ← unsupported c.start }
  | .word n false =>
    if n == "typeof" || n == "void" || n == "delete" then simple n
    else if n == "await" && beginsExpr c.next then
      advance
      let _ ← g.unary
      return { expr := ← unsupported c.start, form := .unary }
    else suffixed
  | _ => suffixed
where
  /-- An expression with a step operator behind it. -/
  suffixed : Reader Operand := do
    let start ← startOf
    let operand ← leftHandFrom g true
    let c ← cursor
    if (c.isSign "++" || c.isSign "--") && !c.newline then
      advance
      return { expr := ← unsupported start }
    return operand

/-- Marks operators that must not be mixed without parentheses. -/
def checkMixture (operator : String) (left right : Operand) : Reader Unit := do
  let mixed :=
    if operator == "??" then left.form == .logical || right.form == .logical
    else if operator == "||" || operator == "&&" then
      left.form == .coalesce || right.form == .coalesce
    else operator == "**" && left.form == .unary
  if mixed then fault

/-- The form of an expression with the given operator. -/
def formOf (operator : String) : Form :=
  if operator == "??" then .coalesce
  else if operator == "||" || operator == "&&" then .logical
  else .plain

/-- One more binary operator of at least the given precedence with its right side. -/
def binaryStep (start low : Nat) (left : Operand) : Reader (Option Operand) := do
  let c ← cursor
  if (c.isWord "as" || c.isWord "satisfies") && !c.newline && low ≤ assertionPrecedence then
    advance
    if ← atWord "const" then advance else let _ ← g.type
    return some { expr := left.expr, form := .wrapped }
  match operatorAt c with
  | none => return none
  | some operator =>
    match precedence? operator.text with
    | none => return none
    | some p =>
      if p < low || (operator.text == "in" && !(← read).inOperator) then return none
      set operator.after
      let right ← g.binary (if operator.text == "**" then p else p + 1)
      checkMixture operator.text left right
      let e ← nodeFrom start (.binary operator.text left.expr right.expr)
      return some { expr := e, form := formOf operator.text }

/-- Repeats `binaryStep`, a bounded number of times. -/
def binaryUpTo (start low : Nat) : Nat → Operand → Reader Operand
  | 0, _ => failure
  | n + 1, left => do
    match ← binaryStep g start low left with
    | none => return left
    | some left => binaryUpTo start low n left

/-- An expression of binary operators of at least the given precedence. -/
def binaryFrom (low : Nat) : Reader Operand := do
  let c ← cursor
  let left ← unary g
  binaryUpTo g c.start low (c.size - c.start + 2) left

/-- An expression with a choice. -/
def conditional : Reader Operand := do
  let start ← startOf
  let test ← binaryFrom g 0
  if ← accept "?" then
    let yes ← withReader (fun ctx => { ctx with inOperator := true, arrowTypes := false }) g.assign
    expect ":"
    let no ← g.assign
    return { expr := ← nodeFrom start (.conditional test.expr yes no) }
  return test

/-! ### Arrow functions -/

/-- The parameters of an arrow function up to its arrow, with the mark whether it has a result
type. -/
def arrowHead : Reader (List String × Bool) := do
  typeParameters g
  let ps ← parameters g
  let typed ← resultAnnotation g
  let c ← cursor
  if c.newline then failure
  expect "=>"
  return (parameterNames ps, typed)

/-- An arrow function from behind its arrow on. -/
def arrowTail (start : Nat) (params : List String) : Reader Expr := do
  let body ←
    if ← atSign "\x7b" then functionBody g
    else pure (some (← withReader (fun ctx => { ctx with inFunction := true }) g.assign))
  nodeFrom start (.function params body)

/-- An arrow function with parameters in parentheses. Inside a choice one with a result type must be
followed by the colon of the choice. -/
def arrow (start : Nat) : Reader Expr := do
  let (params, typed) ← arrowHead g
  let e ← arrowTail g start params
  if typed && !(← read).arrowTypes && !(← atSign ":") then failure
  return e

/-- An arrow function, if one stands there. -/
def arrow? : Reader (Option Expr) := do
  let c ← cursor
  let isArrow (c : Cursor) : Bool := c.isSign "=>" && !c.newline
  if c.isWord "async" && !c.next.newline && c.next.isName && isArrow c.next.next then
    advance
    let n ← name
    advance
    return some (← arrowTail g c.start [n])
  else if c.isWord "async" && !c.next.newline && (c.next.isSign "(" || c.next.isSign "<") then
    attempt do
      advance
      arrow g c.start
  else if c.isName && isArrow c.next then
    let n ← name
    advance
    return some (← arrowTail g c.start [n])
  else if c.isSign "(" || c.isSign "<" then attempt (arrow g c.start)
  else return none

/-- The remaining part of an expression that hands a value to the caller of a generator. -/
def yieldExpr (start : Nat) : Reader Expr := do
  expectWord "yield"
  let c ← cursor
  if !c.newline then
    if ← accept "*" then let _ ← g.assign
    else if beginsExpr c then let _ ← g.assign
  unsupported start

/-- An expression without commas. -/
def assignment : Reader Expr := do
  let c ← cursor
  if c.isWord "yield" then return ← yieldExpr g c.start
  match ← arrow? g with
  | some e => return e
  | none =>
    let left ← conditional g
    match operatorAt (← cursor) with
    | none => return left.expr
    | some operator =>
      if assignmentSigns.contains operator.text then
        set operator.after
        let _ ← g.assign
        unsupported c.start
      else return left.expr

end ComponentAtlas.Script.Reading
