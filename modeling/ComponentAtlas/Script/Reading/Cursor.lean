import ComponentAtlas.Script.Declaration
import ComponentAtlas.Script.Token

/-!
# Walking over the tokens of a script

A cursor stands at a token. A reader takes a cursor forward, or fails; since cursors are values, a
failed attempt leaves nothing to undo.

* `Cursor`: a token, its place and the characters behind it;
* `Reader`: a reader, which also knows the context of what it reads;
* `attempt`, `many`, `commaList`: the ways in which readers are combined;
* `Grammar`: the readers that call each other. They are tied together by a bound on the depth of
  nesting.
-/

namespace ComponentAtlas.Script.Reading

open ComponentAtlas.Text

/-- A place in a source: a token and what surrounds it. -/
structure Cursor where
  token : Token
  /-- Byte offsets of the token. -/
  start : Nat
  stop : Nat
  /-- Whether a line ends between the last token and this one. -/
  newline : Bool
  /-- The characters from the token on, and behind it. -/
  here : List Char
  rest : List Char
  /-- Byte offset of the end of the last token. -/
  last : Nat
  /-- Number of bytes of the source. -/
  size : Nat
  /-- Whether something was read that is malformed but can be understood. -/
  faulty : Bool := false
  deriving Inhabited

/-- What a reader knows about the surroundings. -/
structure Context where
  /-- Whether `in` is an operator. -/
  inOperator : Bool := true
  /-- Whether an arrow function may have a result type without a colon behind it. -/
  arrowTypes : Bool := true
  /-- Whether a type may be conditional. -/
  conditionalTypes : Bool := true
  /-- Whether declarations have no implementation. -/
  ambient : Bool := false
  inFunction : Bool := false
  inDecorator : Bool := false
  deriving Inhabited

/-- A reader of a part of a script. -/
abbrev Reader := ReaderT Context (StateT Cursor Option)

/-- The number of bytes between a text and one of its tails. -/
def bytesBetween (cs rest : List Char) : Nat := byteLength (consumed cs rest)

/-- The cursor at a token that is already scanned. -/
def Cursor.place (c : Cursor) (last start : Nat) (newline : Bool) (here : List Char) (s : Scanned) : Cursor :=
  { c with
    token := s.token, start, stop := start + bytesBetween here s.rest, newline, here,
    rest := s.rest, last }

/-- The cursor at the first token from the byte offset `last` on, which is where `cs` begins. -/
def Cursor.seek (c : Cursor) (last : Nat) (cs : List Char) : Cursor :=
  let gap := skipTrivia .between last false cs
  c.place last gap.offset gap.newline gap.rest (if gap.closed then scan gap.rest else ⟨.bad, []⟩)

/-- The cursor at the next token. -/
def Cursor.next (c : Cursor) : Cursor := c.seek c.stop c.rest

/-- The cursor at the first token of a source. A first line that names an interpreter is no part of
the script. -/
def Cursor.ofText (cs : List Char) : Cursor :=
  let empty : Cursor :=
    { token := .stop, start := 0, stop := 0, newline := false, here := cs, rest := cs, last := 0,
      size := byteLength cs }
  match cs with
  | '#' :: '!' :: rest =>
    let rest := rest.dropWhile fun c => !isLineEnd c
    empty.seek (bytesBetween cs rest) rest
  | _ => empty.seek 0 cs

/-- The text from the token of a cursor up to a byte offset. -/
def Cursor.textTo (c : Cursor) (stop : Nat) : String :=
  let rec go : Nat → List Char → List Char
    | _, [] => []
    | n, ch :: cs => if ch.utf8Size ≤ n then ch :: go (n - ch.utf8Size) cs else []
  String.ofList (go (stop - c.start) c.here)

/-- The token is the given sign. -/
def Cursor.isSign (c : Cursor) (text : String) : Bool :=
  match c.token with
  | .sign t => t == text
  | _ => false

/-- The token is the given word, without an escape. -/
def Cursor.isWord (c : Cursor) (name : String) : Bool :=
  match c.token with
  | .word n escaped => n == name && !escaped
  | _ => false

/-- The word at which a cursor stands. -/
def Cursor.word? (c : Cursor) : Option String :=
  match c.token with
  | .word n _ => some n
  | _ => none

/-- The words that name nothing. -/
def reserved : List String :=
  ["break", "case", "catch", "class", "const", "continue", "debugger", "default", "delete", "do",
   "else", "enum", "export", "extends", "false", "finally", "for", "function", "if", "import", "in",
   "instanceof", "new", "null", "return", "super", "switch", "this", "throw", "true", "try",
   "typeof", "var", "void", "while", "with"]

/-- The token is a name. -/
def Cursor.isName (c : Cursor) : Bool := (c.word?.map fun n => !reserved.contains n).getD false

/-- The token can be the key of a member. -/
def Cursor.isKey (c : Cursor) : Bool :=
  match c.token with
  | .word _ _ | .hidden _ | .string _ | .number _ | .bigint _ => true
  | .sign t => t == "["
  | _ => false

/-! ### Readers -/

/-- The cursor. -/
def cursor : Reader Cursor := get

/-- Goes on to the next token. -/
def advance : Reader Unit := do
  let c ← cursor
  match c.token with
  | .stop | .bad => failure
  | _ => set c.next

/-- Marks the source as malformed. -/
def fault : Reader Unit := modify fun c => { c with faulty := true }

/-- Byte offset of the token. -/
def startOf : Reader Nat := return (← cursor).start

/-- The range from a byte offset up to the end of the last token. -/
def rangeFrom (start : Nat) : Reader Range := return ⟨start, (← cursor).last⟩

/-- An expression that begins at a byte offset and ends with the last token. -/
def nodeFrom (start : Nat) (shape : Shape) : Reader Expr := return .node shape (← rangeFrom start)

/-- The token is the given sign. -/
def atSign (text : String) : Reader Bool := return (← cursor).isSign text

/-- The token is the given word. -/
def atWord (name : String) : Reader Bool := return (← cursor).isWord name

/-- Reads a sign if it stands there. -/
def accept (text : String) : Reader Bool := do
  if ← atSign text then advance; return true
  else return false

/-- Reads a sign. -/
def expect (text : String) : Reader Unit := do
  unless ← accept text do failure

/-- Reads a word if it stands there. -/
def acceptWord (name : String) : Reader Bool := do
  if ← atWord name then advance; return true
  else return false

/-- Reads a word. -/
def expectWord (name : String) : Reader Unit := do
  unless ← acceptWord name do failure

/-- Reads any word. -/
def anyWord : Reader String := do
  match (← cursor).word? with
  | some n => advance; return n
  | none => failure

/-- Reads a name. -/
def name : Reader String := do
  if (← cursor).isName then anyWord else failure

/-- Reads a string. -/
def text : Reader String := do
  match (← cursor).token with
  | .string value => advance; return value
  | _ => failure

/-- The result of a reader, or nothing where it fails. -/
def attempt {α : Type} (p : Reader α) : Reader (Option α) := fun ctx c =>
  match p ctx c with
  | some (a, c') => some (some a, c')
  | none => some (none, c)

/-- Reads something if a condition holds. -/
def whenever {α : Type} (condition : Reader Bool) (p : Reader α) : Reader (Option α) := do
  if ← condition then return some (← p)
  else return none

/-- Repeats a reader until it gives nothing, a bounded number of times. -/
def repeatUpTo {α : Type} (p : Reader (Option α)) : Nat → Reader (List α)
  | 0 => failure
  | n + 1 => do
    match ← p with
    | none => return []
    | some a => return a :: (← repeatUpTo p n)

/-- Repeats a reader that goes forward until it gives nothing. -/
def many {α : Type} (p : Reader (Option α)) : Reader (List α) := do
  let c ← cursor
  repeatUpTo p (c.size - c.start + 2)

/-- Things separated by commas up to a closing sign, which is read too. A comma may stand behind the
last one. -/
def commaList {α : Type} (close : String) (item : Reader α) : Reader (List α) := do
  let items ← many do
    if ← atSign close then return none
    let a ← item
    unless ← atSign close do expect ","
    return some a
  expect close
  return items

/-- One or more things separated by a sign. -/
def separated {α : Type} (sign : String) (item : Reader α) : Reader (List α) := do
  let first ← item
  let others ← many (whenever (accept sign) item)
  return first :: others

/-- Reads inside brackets, where the restrictions of the surroundings do not apply. -/
def inside {α : Type} (p : Reader α) : Reader α :=
  withReader (fun ctx => { ctx with
    inOperator := true, arrowTypes := true, conditionalTypes := true, inDecorator := false }) p

/-- The end of a statement: a semicolon, or a place where one may be left out. -/
def semicolon : Reader Unit := do
  unless ← accept ";" do
    let c ← cursor
    let done := match c.token with
      | .stop => true
      | _ => c.newline || c.isSign "\x7d"
    unless done do failure

/-! ### Mutual recursion -/

/-- How an expression is written at its outermost level. -/
inductive Form
  | plain
  /-- A call, with the byte offset of the end of what is called. -/
  | call (calleeStop : Nat)
  | unary
  /-- A conjunction or disjunction. -/
  | logical
  | coalesce
  /-- Parentheses, an assertion or an optional chain. -/
  | wrapped
  deriving DecidableEq, Repr, Inhabited

/-- An expression together with the way in which it is written. -/
structure Operand where
  expr : Expr
  form : Form := .plain
  deriving Inhabited

/-- What a statement that names no module contributes to its file. -/
inductive Entry
  /-- A local name under an exported one. -/
  | offers (exported localName : String)
  | declares (d : Declaration)
  deriving Inhabited

/-- A statement, as far as it matters to what encloses it. -/
inductive Statement
  | returns (value : Option Expr)
  /-- A statement that consists of a string. -/
  | text
  /-- An import or export declaration that names a module. -/
  | link (l : ModuleLink)
  | other (entries : List Entry)
  deriving Inhabited

/-- The local names that a statement binds to other modules. -/
def Statement.imports : Statement → List Import
  | .link l => l.imports
  | _ => []

/-- The names that a statement exports. -/
def Statement.exports : Statement → List Export
  | .link l => l.exports
  | .other entries => entries.filterMap fun
    | .offers exported localName => some (.own exported localName)
    | .declares _ => none
  | _ => []

/-- What a statement declares. -/
def Statement.declarations : Statement → List Declaration
  | .other entries => entries.filterMap fun
    | .offers _ _ => none
    | .declares d => some d
  | _ => []

/-- The readers that nested parts of a script are read with. -/
structure Grammar where
  assign : Reader Expr
  /-- An expression of operators of at least the given precedence. -/
  binary : Nat → Reader Operand
  unary : Reader Operand
  /-- An expression without operators. -/
  leftHand : Reader Operand
  /-- What `new` applies to. -/
  callee : Reader Operand
  type : Reader TypeNode
  /-- A type without alternatives, the operand of a type operator. -/
  typeOperand : Reader TypeNode
  /-- A pattern on the left of a binding: its name, if it is a plain one. -/
  binding : Reader (Option String)
  statement : Reader Statement

/-- The grammar of no script at all. -/
def Grammar.none : Grammar where
  assign := failure
  binary := fun _ => failure
  unary := failure
  leftHand := failure
  callee := failure
  type := failure
  typeOperand := failure
  binding := failure
  statement := failure

end ComponentAtlas.Script.Reading
