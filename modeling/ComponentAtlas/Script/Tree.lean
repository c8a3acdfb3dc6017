import ComponentAtlas.Number.Shortest

/-!
# Expressions and types of a script

Only the parts of a script that the analysis reasons about have a shape of their own; any other
expression is kept under a label that names its syntax. Parentheses and type assertions leave no
trace.

* `Expr`: an expression with its place in the source;
* `TypeNode`: a type annotation, as far as constructor tokens and static markers need it;
* `Expr.kindName`, `Expr.render`: how an expression is named and shown in messages.
-/

namespace ComponentAtlas.Script

/-- A range of byte offsets of a source, without its end. -/
structure Range where
  start : Nat := 0
  stop : Nat := 0
  deriving DecidableEq, Repr, Inhabited

/-- Number of bytes of a range; a range that ends before it starts is empty. -/
def Range.length (r : Range) : Nat := r.stop - r.start

mutual

/-- An expression and its place in the source. -/
inductive Expr
  | node (shape : Shape) (range : Range)

/-- The shapes of expressions. -/
inductive Shape
  | string (value : String)
  | number (value : Float)
  | boolean (value : Bool)
  | null
  /-- A template text: the literal pieces around the expressions between them. -/
  | template (quasis : List String) (exprs : List Expr)
  | ident (name : String)
  | property (object : Expr) (name : String)
  | element (object index : Expr)
  | call (callee : Expr) (args : List Element)
  | new (callee : Expr) (args : List Element)
  | array (items : List Element)
  | object (members : List Member)
  /-- A function with its simply named parameters; `body` is the returned expression of a function
  that does nothing but return it. -/
  | function (params : List String) (body : Option Expr)
  | dynamicImport (source : Expr)
  | unary (operator : String) (argument : Expr)
  | binary (operator : String) (left right : Expr)
  | conditional (test yes no : Expr)
  /-- Any other syntax, by its name. -/
  | unsupported (label : String)

/-- An entry of an array literal or of an argument list. -/
inductive Element
  | item (value : Expr)
  | spread (value : Expr)
  | hole

/-- A member of an object literal. -/
inductive Member
  | entry (key : Key) (value : Expr)
  | spread (value : Expr)

/-- The key of a member of an object literal. -/
inductive Key
  | fixed (name : String)
  | computed (value : Expr)

end

instance : Inhabited Expr := ⟨.node .null {}⟩

namespace Expr

/-- The shape of an expression. -/
def shape : Expr → Shape
  | .node s _ => s

/-- The place of an expression in its source. -/
def range : Expr → Range
  | .node _ r => r

/-- The name that an expression consists of. -/
def asIdent? (e : Expr) : Option String :=
  match e.shape with
  | .ident name => some name
  | _ => none

/-- The text that a string literal stands for. -/
def asString? (e : Expr) : Option String :=
  match e.shape with
  | .string value => some value
  | _ => none

/-- The value of the first member of an object literal with the given fixed key. -/
def member? (e : Expr) (name : String) : Option Expr :=
  match e.shape with
  | .object members =>
    members.findSome? fun
      | .entry (.fixed key) value => if key == name then some value else none
      | _ => none
  | _ => none

/-- The name of the kind of an expression. -/
def kindName (e : Expr) : String :=
  match e.shape with
  | .string _ => "string literal"
  | .number _ => "numeric literal"
  | .boolean _ => "boolean literal"
  | .null => "null"
  | .template _ _ => "template literal"
  | .ident _ => "identifier"
  | .property _ _ => "property access"
  | .element _ _ => "element access"
  | .call _ _ => "call expression"
  | .new _ _ => "new expression"
  | .array _ => "array literal"
  | .object _ => "object literal"
  | .function _ _ => "function expression"
  | .dynamicImport _ => "dynamic import"
  | .unary _ _ => "unary expression"
  | .binary _ _ _ => "binary expression"
  | .conditional _ _ _ => "conditional expression"
  | .unsupported label => label

/-- A short text for an expression in messages. -/
def render : Expr → String
  | .node (.string value) _ => "'" ++ value ++ "'"
  | .node (.number value) _ => Number.render value
  | .node (.boolean value) _ => if value then "true" else "false"
  | .node .null _ => "null"
  | .node (.ident name) _ => name
  | .node (.property object name) _ => object.render ++ "." ++ name
  | .node (.call callee _) _ => callee.render ++ "(...)"
  | .node (.new callee _) _ => "new " ++ callee.render ++ "(...)"
  | .node (.array _) _ => "[...]"
  | .node (.object _) _ => "\x7b...\x7d"
  | .node (.dynamicImport source) _ => "import(" ++ source.render ++ ")"
  | .node shape range => (Expr.node shape range).kindName

end Expr

/-- A type annotation. -/
inductive TypeNode
  /-- A named type with its arguments; the name may be qualified. -/
  | reference (name : String) (args : List TypeNode)
  /-- The type of a named value. -/
  | query (name : String)
  | tuple (items : List TypeNode)
  | string (value : String)
  | union (items : List TypeNode)
  | keyword (name : String)
  | unknown
  deriving Inhabited, Repr

/-- The text of a literal type. -/
def TypeNode.asString? : TypeNode → Option String
  | .string value => some value
  | _ => none

end ComponentAtlas.Script
