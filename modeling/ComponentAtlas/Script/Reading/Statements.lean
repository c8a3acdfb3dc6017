import ComponentAtlas.Script.Reading.Expressions

/-!
# Statements and declarations

* `bindingPattern`: what stands on the left of a binding;
* `variableList`, `functionDeclaration`, `classDeclaration`, `enumDeclaration`: declarations that
  contribute to their file;
* `importStatement`, `exportStatement`: how a file is tied to others;
* `anyStatement`: a statement.
-/

namespace ComponentAtlas.Script.Reading

open ComponentAtlas.Text

variable (g : Grammar)

/-! ### Patterns -/

/-- A pattern with a default behind it. -/
def bindingWithDefault : Reader Unit := do
  let _ ← g.binding
  if ← accept "=" then let _ ← inside g.assign

/-- A member of an object pattern. -/
def bindingMember : Reader Unit := do
  if ← accept "..." then
    let _ ← g.binding
  else
    let c ← cursor
    let _ ← memberKey g
    if ← accept ":" then bindingWithDefault g
    else
      unless c.isName do failure
      if ← accept "=" then let _ ← inside g.assign

/-- An element of an array pattern. -/
def bindingElement : Reader Unit := do
  unless (← cursor).isSign "," do
    let _ ← accept "..."
    bindingWithDefault g

/-- What stands on the left of a binding: the name, if it is a plain one. -/
def bindingPattern : Reader (Option String) := do
  if ← accept "[" then
    let _ ← commaList "]" (bindingElement g)
    return none
  else if ← accept "\x7b" then
    let _ ← commaList "\x7d" (bindingMember g)
    return none
  else return some (← name)

/-! ### Declarations -/

/-- A declaration; an exported one is also offered under its own name. -/
def declare (exported : Bool) (d : Declaration) : List Entry :=
  (if exported then [.offers d.name d.name] else []) ++ [.declares { d with exported }]

/-- One declarator of a variable statement. Only a plain name is declared. -/
def declarator (exported needsValue : Bool) : Reader (List Entry) := do
  let start ← startOf
  let bound ← g.binding
  if !(← cursor).newline then let _ ← accept "!"
  let type ← annotation g
  let value ← whenever (accept "=") g.assign
  if (needsValue || bound.isNone) && value.isNone && !(← read).ambient then
    let c ← cursor
    -- a loop over a collection gives the value
    unless c.isWord "of" || c.isWord "in" do fault
  match bound with
  | none => return []
  | some name =>
    return declare exported { name, range := ← rangeFrom start, exported, kind := .binding value type }

/-- Whether a cursor stands at the keyword of a variable statement. -/
def atVariables (c : Cursor) : Bool :=
  let target (c : Cursor) : Bool := c.isName || c.isSign "[" || c.isSign "\x7b"
  c.isWord "var" || (c.isWord "const" && !c.next.isWord "enum") || (c.isWord "let" && target c.next) ||
    (c.isWord "using" && c.next.isName && !c.next.newline && !c.next.isWord "of") ||
    (c.isWord "await" && c.next.isWord "using" && c.next.next.isName && !c.next.next.newline)

/-- The declarators of a variable statement from its keyword on. -/
def variableList (exported : Bool) : Reader (List Entry) := do
  let c ← cursor
  if c.isWord "await" then advance
  advance
  let entries ← separated "," (declarator g exported (c.isWord "const"))
  return entries.flatten

/-- A function declaration from its keywords on; one without name declares nothing. -/
def functionDeclaration (start : Nat) (exported : Bool) : Reader (Option String × List Entry) := do
  let _ ← acceptWord "async"
  expectWord "function"
  let _ ← accept "*"
  let name ← whenever (return (← cursor).isName) name
  let m ← method g
  match name with
  | none => return (none, [])
  | some n =>
    let kind := .function (parameterNames m.params) m.returns
    return (n, declare exported { name := n, range := ← rangeFrom start, exported, kind })

/-- A class declaration from its keywords on; one without name declares nothing. The modifier that
makes it ambient stands in front of it. -/
def classDeclaration (start : Nat) (ds : List Decorator) (exported isAmbient : Bool) :
    Reader (Option String × List Entry) := do
  let isAbstract ← acceptWord "abstract"
  let c ← classTail g ds isAmbient isAbstract
  match c.name with
  | none => return (none, [])
  | some n =>
    return (n, declare exported { name := n, range := ← rangeFrom start, exported, kind := .cls c.body })

/-- The text without quotation marks at its ends. -/
def unquoted (s : String) : String :=
  let isQuote (c : Char) : Bool := c == '\'' || c == '"'
  String.ofList (((s.toList.dropWhile isQuote).reverse.dropWhile isQuote).reverse)

/-- A member of an enumeration. Its name is the key as written, without quotation marks. -/
def enumMember : Reader EnumMember := do
  let bracket ← accept "["
  let c ← cursor
  match c.token with
  | .word _ _ => if bracket then failure
  | .string _ => pure ()
  | .piece _ last => unless last && bracket do failure
  | .number _ => fault
  | _ => failure
  advance
  if bracket then expect "]"
  let value ← whenever (accept "=") g.assign
  return ⟨unquoted (c.textTo c.stop), value⟩

/-- An enumeration from its keywords on. -/
def enumDeclaration (start : Nat) (exported : Bool) : Reader (List Entry) := do
  let _ ← acceptWord "const"
  expectWord "enum"
  let n ← name
  expect "\x7b"
  let members ← inside (commaList "\x7d" (enumMember g))
  return declare exported { name := n, range := ← rangeFrom start, exported, kind := .enumeration members }

/-- An interface from its keyword on. -/
def interfaceDeclaration : Reader Unit := do
  expectWord "interface"
  let _ ← name
  typeParameters g
  if ← acceptWord "extends" then let _ ← separated "," (referenceType g)
  typeMembers g

/-- A named type from its keyword on. -/
def typeDeclaration : Reader Unit := do
  expectWord "type"
  let _ ← name
  typeParameters g
  expect "="
  let _ ← g.type
  semicolon

/-- A namespace from its keyword on; what it holds belongs to no file. -/
def namespaceDeclaration : Reader Unit := do
  let c ← cursor
  advance
  unless c.isWord "global" do
    match (← cursor).token with
    | .string _ => advance
    | _ => qualifiedName
  if ← atSign "\x7b" then let _ ← block g
  else semicolon

/-- Whether a cursor stands at a declaration of types or a namespace. -/
def atTypeDeclaration (c : Cursor) : Bool :=
  let onLine := !c.next.newline
  (c.isWord "interface" && c.next.isName && onLine) || (c.isWord "type" && c.next.isName && onLine)

/-- Whether a cursor stands at a namespace. -/
def atNamespace (c : Cursor) : Bool :=
  let onLine := !c.next.newline
  let isText := match c.next.token with
    | .string _ => true
    | _ => false
  (c.isWord "namespace" && c.next.isName && onLine) ||
    (c.isWord "module" && (c.next.isName || isText) && onLine) ||
    (c.isWord "global" && c.next.isSign "\x7b")

/-- Whether a cursor stands at a declaration that contributes to its file, variables apart. -/
def atNamed (c : Cursor) : Bool :=
  c.isWord "function" || (c.isWord "async" && c.next.isWord "function" && !c.next.newline) ||
    c.isWord "class" || (c.isWord "abstract" && c.next.isWord "class" && !c.next.newline) ||
    c.isWord "enum" || (c.isWord "const" && c.next.isWord "enum")

/-- Whether a cursor stands at a declaration. -/
def atDeclaration (c : Cursor) : Bool :=
  atVariables c || atNamed c || atTypeDeclaration c || atNamespace c

/-- A declaration that begins at a byte offset, where a modifier may stand in front of it. -/
def plainDeclaration (start : Nat) (exported isAmbient : Bool) : Reader (List Entry) := do
  let c ← cursor
  if atVariables c then
    let entries ← variableList g exported
    semicolon
    return entries
  else if c.isWord "function" || c.isWord "async" then
    return (← functionDeclaration g start exported).2
  else if c.isWord "class" || c.isWord "abstract" then
    return (← classDeclaration g start [] exported isAmbient).2
  else if c.isWord "enum" || c.isWord "const" then enumDeclaration g start exported
  else if c.isWord "interface" then
    interfaceDeclaration g
    return []
  else if c.isWord "type" then
    typeDeclaration g
    return []
  else if atNamespace c then
    namespaceDeclaration g
    return []
  else failure

/-- Whether a cursor stands at the modifier of a declaration without implementation. -/
def atAmbient (c : Cursor) : Bool :=
  c.isWord "declare" && !c.next.newline && atDeclaration c.next

/-- A declaration, with the modifier for a missing implementation. -/
def declaration (exported : Bool) : Reader (List Entry) := do
  let c ← cursor
  if atAmbient c then
    advance
    withReader (fun ctx => { ctx with ambient := true }) (plainDeclaration g c.start exported true)
  else plainDeclaration g c.start exported (← read).ambient

/-! ### Imports and exports -/

/-- The name of an export, which may be a string. -/
def moduleName : Reader String := do
  match (← cursor).token with
  | .string value => advance; return value
  | _ => anyWord

/-- A pair of names: the one of the module, and the one behind `as`. -/
def renamed : Reader (String × String) := do
  let c ← cursor
  -- the mark for types counts only where a name follows that it can stand in front of
  if c.isWord "type" then
    let next := c.next
    let isType : Bool := match next.token with
      | .string _ => true
      | .word "as" false => next.next.isWord "as" || next.next.isSign "," || next.next.isSign "\x7d"
      | .word _ _ => true
      | _ => false
    if isType && !(next.isWord "as" && next.next.isWord "as" && next.next.next.word?.isNone) then advance
  let imported ← moduleName
  if ← acceptWord "as" then return (imported, ← moduleName)
  return (imported, imported)

/-- The attributes of an import. -/
def importAttributes : Reader Unit := do
  let c ← cursor
  if (c.isWord "with" || (c.isWord "assert" && !c.newline)) && c.next.isSign "\x7b" then
    advance
    advance
    let _ ← commaList "\x7d" (do
      let _ ← moduleName
      expect ":"
      text)

/-- The module behind `from`. -/
def fromModule : Reader String := do
  expectWord "from"
  let module ← text
  importAttributes
  semicolon
  return module

/-- The names between the braces or behind the star of an import. -/
def importedNames : Reader (List (String × Imported)) := do
  if ← accept "*" then
    expectWord "as"
    return [(← name, .whole)]
  else
    expect "\x7b"
    let pairs ← commaList "\x7d" renamed
    return pairs.map fun (imported, localName) => (localName, .named imported)

/-- An import that names another declaration or a required module; it binds nothing. -/
def importAlias : Reader Unit := do
  let _ ← name
  expect "="
  let c ← cursor
  if c.isWord "require" && c.next.isSign "(" then
    advance
    advance
    let _ ← text
    expect ")"
  else qualifiedName
  semicolon

/-- An import statement. -/
def importStatement : Reader Statement := do
  expectWord "import"
  match (← cursor).token with
  | .string module =>
    advance
    importAttributes
    semicolon
    return .link ⟨.effects, module⟩
  | _ =>
    let c ← cursor
    let next := c.next
    -- `type` and `defer` are marks unless they are the name that is bound
    let isMark := (c.isWord "type" || c.isWord "defer") &&
      (next.isSign "\x7b" || next.isSign "*" ||
        (next.isName && (!next.isWord "from" || next.next.isWord "from" || next.next.isSign "=")))
    if isMark then advance
    let c ← cursor
    if c.isName && c.next.isSign "=" then
      importAlias
      return .other []
    let first ← whenever (return c.isName) (return (← name, Imported.default))
    let others ←
      if first.isNone || (← accept ",") then importedNames
      else pure []
    let module ← fromModule
    return .link ⟨.bindings (first.toList ++ others), module⟩

/-- What a file exports under the name `default`. -/
def exportDefault (ds : List Decorator) : Reader (List Entry) := do
  let named (p : Reader (Option String × List Entry)) : Reader (List Entry) := do
    match ← p with
    | (none, _) => return []
    | (some n, entries) => return entries ++ [.offers "default" n]
  let c ← cursor
  let own ← decorators g
  let d ← cursor
  if d.isWord "class" || (d.isWord "abstract" && d.next.isWord "class") then
    named (classDeclaration g c.start (ds ++ own) true (← read).ambient)
  else if d.isWord "function" || (d.isWord "async" && d.next.isWord "function" && !d.next.newline) then
    named (functionDeclaration g d.start true)
  else if d.isWord "interface" && d.next.isName && !d.next.newline then
    interfaceDeclaration g
    return []
  else
    let _ ← g.assign
    semicolon
    return []

/-- An export statement; `ds` are the decorators in front of it. -/
def exportStatement (ds : List Decorator) : Reader Statement := do
  expectWord "export"
  let c ← cursor
  if ← acceptWord "default" then return .other (← exportDefault g ds)
  if ← accept "=" then
    let _ ← g.assign
    semicolon
    return .other []
  if c.isWord "as" && c.next.isWord "namespace" then
    advance
    advance
    let _ ← name
    semicolon
    return .other []
  if c.isWord "import" then
    advance
    let _ ← acceptWord "type"
    importAlias
    return .other []
  if c.isSign "@" || !ds.isEmpty then
    let own ← decorators g
    let d ← cursor
    let isAmbient ← acceptWord "declare"
    let start := if c.isSign "@" then c.start else d.start
    return .other (← classDeclaration g start (ds ++ own) true (isAmbient || (← read).ambient)).2
  if c.isWord "type" && (c.next.isSign "\x7b" || c.next.isSign "*") then advance
  if ← accept "*" then
    let alias? ← whenever (acceptWord "as") moduleName
    let module ← fromModule
    return .link ⟨.star alias?, module⟩
  if ← accept "\x7b" then
    let pairs ← commaList "\x7d" renamed
    if ← atWord "from" then
      let module ← fromModule
      return .link ⟨.reexports pairs, module⟩
    else
      semicolon
      return .other (pairs.map fun (n, exported) => .offers exported n)
  return .other (← declaration g true)

/-! ### Statements -/

/-- An expression in parentheses. -/
def parenthesized : Reader Unit := do
  expect "("
  let _ ← inside (sequence g)
  expect ")"

/-- What is repeated, and over what, between the parentheses of a loop. -/
def loopHead : Reader Unit := do
  expect "("
  let c ← cursor
  if atVariables c then
    let _ ← withReader (fun ctx => { ctx with inOperator := false }) (variableList g false)
  else unless c.isSign ";" do
    let _ ← withReader (fun ctx => { ctx with inOperator := false }) (sequence g)
  if (← acceptWord "of") then
    let _ ← inside g.assign
  else if (← acceptWord "in") then
    let _ ← inside (sequence g)
  else
    expect ";"
    unless ← atSign ";" do let _ ← inside (sequence g)
    expect ";"
    unless ← atSign ")" do let _ ← inside (sequence g)
  expect ")"

/-- A branch of a `switch`. -/
def switchCase : Reader Unit := do
  unless ← acceptWord "default" do
    expectWord "case"
    let _ ← inside (sequence g)
  expect ":"
  let _ ← many (do
    let c ← cursor
    if c.isWord "case" || c.isWord "default" || c.isSign "\x7d" then return none
    return some (← g.statement))

/-- A statement with handlers for failures. -/
def tryStatement : Reader Unit := do
  let _ ← block g
  let handled ← acceptWord "catch"
  if handled then
    if ← accept "(" then
      let _ ← g.binding
      let _ ← annotation g
      expect ")"
    let _ ← block g
  if ← acceptWord "finally" then let _ ← block g
  else unless handled do failure

/-- A statement that begins with a keyword of control flow, behind the keyword; nothing for another
word. -/
def controlStatement (keyword : String) : Reader Unit := do
  let body : Reader Unit := do let _ ← g.statement
  match keyword with
  | "if" =>
    parenthesized g
    body
    if ← acceptWord "else" then body
  | "for" =>
    let _ ← acceptWord "await"
    loopHead g
    body
  | "while" =>
    parenthesized g
    body
  | "do" =>
    body
    expectWord "while"
    parenthesized g
    let _ ← accept ";"
  | "with" =>
    parenthesized g
    body
  | "continue" | "break" =>
    let c ← cursor
    if c.isName && !c.newline then advance
    semicolon
  | "switch" =>
    parenthesized g
    expect "\x7b"
    let _ ← inside (many (do
      if ← atSign "\x7d" then return none
      return some (← switchCase g)))
    expect "\x7d"
  | "throw" =>
    if (← cursor).newline then failure
    let _ ← sequence g
    semicolon
  | "try" => tryStatement g
  | "debugger" => semicolon
  | _ => failure

/-- The words that begin a statement of control flow. -/
def controlWords : List String :=
  ["if", "for", "while", "do", "with", "continue", "break", "switch", "throw", "try", "debugger"]

/-- A `return` behind its keyword. -/
def returnStatement : Reader Statement := do
  unless (← read).inFunction do fault
  let c ← cursor
  let ends := match c.token with
    | .stop => true
    | _ => c.newline || c.isSign ";" || c.isSign "\x7d"
  let value ← whenever (pure !ends) (inside (sequence g))
  semicolon
  return .returns value

/-- A class behind decorators, which may be exported. -/
def decorated : Reader Statement := do
  let c ← cursor
  let ds ← decorators g
  let d ← cursor
  if d.isWord "export" then exportStatement g ds
  else
    let isAmbient ← acceptWord "declare"
    return .other (← classDeclaration g c.start ds false (isAmbient || (← read).ambient)).2

/-- A statement that is an expression. -/
def expressionStatement : Reader Statement := do
  let c ← cursor
  let e ← sequence g
  let range ← rangeFrom c.start
  semicolon
  match c.token, e.shape with
  | .string _, .string _ => return if e.range = range then .text else .other []
  | _, _ => return .other []

/-- A statement. -/
def anyStatement : Reader Statement := do
  let c ← cursor
  match c.token with
  | .sign "\x7b" =>
    let _ ← block g
    return .other []
  | .sign ";" =>
    advance
    return .other []
  | .sign "@" => decorated g
  | .word n false =>
    if controlWords.contains n then
      advance
      controlStatement g n
      return .other []
    else if n == "return" then
      advance
      returnStatement g
    else if n == "import" && !c.next.isSign "(" && !c.next.isSign "." then
      importStatement
    else if n == "export" then exportStatement g []
    else if atDeclaration c || atAmbient c then return .other (← declaration g false)
    else if c.isName && c.next.isSign ":" then
      advance
      advance
      let _ ← g.statement
      return .other []
    else expressionStatement g
  | _ => expressionStatement g

end ComponentAtlas.Script.Reading
