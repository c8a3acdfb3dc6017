import ComponentAtlas.Script.Declaration
import ComponentAtlas.Table

/-!
# Values of expressions

An expression that can be evaluated without running the program has a value. Where evaluation stops,
the value is *dynamic*: it holds the expression that stopped it and the reason.

* `Value`, `Dynamic`, `Reason`: values;
* `Value.render`: values as shown to a user;
* `Value.sameToken`: whether two values are the same injection token;
* `Value.truthy?`, `Value.toText?`: conversions.
-/

namespace ComponentAtlas

open ComponentAtlas.Script

/-- A reference to a declaration. -/
structure Reference where
  id : DeclarationId
  name : String
  file : String
  deriving DecidableEq, Repr, Inhabited

/-- The reference to a declaration. -/
def Reference.ofDeclaration (d : Declaration) : Reference := ⟨d.id, d.name, d.file⟩

mutual

/-- The value of an expression. -/
inductive Value
  | string (s : String)
  | number (x : Float)
  | boolean (b : Bool)
  | null
  | undefined
  | array (items : List Value)
  /-- An object with its entries in source order. -/
  | map (entries : List (String × Value))
  | reference (r : Reference)
  | dynamic (d : Dynamic)

/-- A value that is not known: the expression at which evaluation stopped, its file, and why. -/
inductive Dynamic
  | mk (node : Expr) (file : String) (reason : Reason)

/-- Why a value is not known. -/
inductive Reason
  /-- A name without declaration and import. -/
  | unknownIdentifier (name : String)
  /-- A name of a module outside the program, extended by the properties read from it. -/
  | external (module name : String)
  /-- A whole file as an object. -/
  | wholeModule (file : String)
  | unsupportedSyntax (label : String)
  | functionValue
  /-- A call of something that is no function. -/
  | unknownCall
  /-- A call of a function whose result is not stated by a single expression. -/
  | declaredCall (name file : String)
  | dynamicImport
  /-- An operand of the wrong type. -/
  | invalidOperand (what : String)
  /-- A variable or function that depends on itself. -/
  | circular (name : String)
  | tooDeep
  /-- A part of the expression is dynamic itself. -/
  | input (inner : Dynamic)

end

instance : Inhabited Value := ⟨.undefined⟩
instance : Inhabited Dynamic := ⟨.mk default "" .tooDeep⟩

namespace Dynamic

/-- The expression at which evaluation stopped. -/
def node : Dynamic → Expr
  | .mk node _ _ => node

/-- The file of the expression at which evaluation stopped. -/
def file : Dynamic → String
  | .mk _ file _ => file

/-- Why evaluation stopped. -/
def reason : Dynamic → Reason
  | .mk _ _ reason => reason

/-- The dynamic value from which others took their reason. -/
def rootCause : Dynamic → Dynamic
  | .mk _ _ (.input inner) => inner.rootCause
  | d => d

end Dynamic

/-- The reason as shown to a user. -/
def Reason.render : Reason → String
  | .unknownIdentifier name => "unknown identifier '" ++ name ++ "'"
  | .external module name => "'" ++ name ++ "' is imported from external module '" ++ module ++ "'"
  | .wholeModule file => "namespace import of '" ++ file ++ "'"
  | .unsupportedSyntax label => "unsupported syntax: " ++ label
  | .functionValue => "function value"
  | .unknownCall => "call to a function with unknown behavior"
  | .declaredCall name file => "call to '" ++ name ++ "' from '" ++ file ++ "' with no evaluable body"
  | .dynamicImport => "dynamic import"
  | .invalidOperand what => "invalid operand for " ++ what
  | .circular name => "circular reference to '" ++ name ++ "'"
  | .tooDeep => "maximum evaluation depth exceeded"
  | .input (.mk _ _ reason) => "depends on a dynamic value (" ++ reason.render ++ ")"

/-- The dynamic value as shown to a user. -/
def Dynamic.render (d : Dynamic) : String :=
  d.reason.render ++ " at " ++ d.file ++ "@" ++ toString d.node.range.start

namespace Value

mutual

/-- The value as shown to a user. -/
def render : Value → String
  | .string s => "'" ++ s ++ "'"
  | .number x => Number.display x
  | .boolean b => if b then "true" else "false"
  | .null => "null"
  | .undefined => "undefined"
  | .array items => "[" ++ ", ".intercalate (renderItems items) ++ "]"
  | .map entries => "\x7b" ++ ",".intercalate (renderEntries entries) ++ " \x7d"
  | .reference r => r.name
  | .dynamic (.mk _ _ (.external module name)) => name ++ " from '" ++ module ++ "'"
  | .dynamic (.mk _ _ reason) => "<dynamic: " ++ reason.render ++ ">"

/-- Several values as shown to a user. -/
def renderItems : List Value → List String
  | [] => []
  | v :: vs => v.render :: renderItems vs

/-- Several entries as shown to a user. -/
def renderEntries : List (String × Value) → List String
  | [] => []
  | (k, v) :: es => (" " ++ k ++ ": " ++ v.render) :: renderEntries es

end

/-- The text of a string value. -/
def asString? : Value → Option String
  | .string s => some s
  | _ => none

/-- The number of a number value. -/
def asNumber? : Value → Option Float
  | .number x => some x
  | _ => none

/-- The truth value of a boolean. -/
def asBool? : Value → Option Bool
  | .boolean b => some b
  | _ => none

/-- The items of an array. -/
def asArray? : Value → Option (List Value)
  | .array items => some items
  | _ => none

/-- The entries of an object. -/
def asMap? : Value → Option (List (String × Value))
  | .map entries => some entries
  | _ => none

/-- The reference that a value is. -/
def asReference? : Value → Option Reference
  | .reference r => some r
  | _ => none

/-- The dynamic value that a value is. -/
def asDynamic? : Value → Option Dynamic
  | .dynamic d => some d
  | _ => none

/-- Whether a value is not known. -/
def isDynamic (v : Value) : Bool := v.asDynamic?.isSome

/-- The value of an entry of an object. -/
def get? (v : Value) (key : String) : Option Value := v.asMap?.bind (Table.get? key)

/-- Module and name of a value that comes from outside the program. -/
def asExternal? : Value → Option (String × String)
  | .dynamic (.mk _ _ (.external module name)) => some (module, name)
  | _ => none

/-- Whether two values are the same injection token: references to one declaration, one name of one
module, or equal literals. -/
def sameToken : Value → Value → Bool
  | .reference a, .reference b => a.id == b.id
  | .dynamic a, .dynamic b =>
    match (Value.dynamic a).asExternal?, (Value.dynamic b).asExternal? with
    | some x, some y => x == y
    | _, _ => false
  | .string a, .string b => a == b
  | .number a, .number b => a == b
  | .boolean a, .boolean b => a == b
  | _, _ => false

/-- The name of the type of a value. -/
def typeName : Value → String
  | .string _ => "string"
  | .number _ => "number"
  | .boolean _ => "boolean"
  | .null => "null"
  | .undefined => "undefined"
  | .array _ => "array"
  | .map _ => "object"
  | .reference _ => "reference"
  | .dynamic _ => "dynamic value"

/-- Whether a value counts as true in a condition, if that is known. -/
def truthy? : Value → Option Bool
  | .string s => some (s != "")
  | .number x => some (x != 0 && !x.isNaN)
  | .boolean b => some b
  | .null | .undefined => some false
  | .array _ | .map _ | .reference _ => some true
  | .dynamic _ => none

/-- A plain value as part of a text. -/
def toText? : Value → Option String
  | .string s => some s
  | .number x => some (Number.display x)
  | .boolean b => some (if b then "true" else "false")
  | .null => some "null"
  | .undefined => some "undefined"
  | _ => none

end Value

end ComponentAtlas
