import ComponentAtlas.Path
import ComponentAtlas.Script.Reading.Statements

/-!
# Reading a script

* `grammar`: the readers of nested parts, tied together up to a depth of nesting;
* `statements?`: the statements of a source;
* `Parser`: a way to read the statements of files, such as `Parser.standard`;
* `Contents.read`: what a file contributes. A file that cannot be read contributes nothing but the mark
  that it is malformed.
-/

namespace ComponentAtlas.Script

namespace Reading

/-- The readers of parts that are nested at most as deeply as the bound allows. -/
def grammar : Nat → Grammar
  | 0 => .none
  | depth + 1 =>
    let g := grammar depth
    { assign := assignment g
      binary := binaryFrom g
      unary := unary g
      leftHand := leftHandFrom g true
      callee := leftHandFrom g false
      type := anyType g
      typeOperand := operatorType g
      binding := bindingPattern g
      statement := anyStatement g }

/-- The statements of a whole source. -/
def sourceText (g : Grammar) : Reader (List Statement) :=
  many (do
    match (← cursor).token with
    | .stop => return none
    | _ => return some (← anyStatement g))

/-- The statements of a source, and whether it is malformed; nothing if it cannot be read. `ambient`
marks a declaration file. -/
def statements? (ambient : Bool) (source : String) : Option (List Statement × Bool) :=
  let start := Cursor.ofText source.toList
  let g := grammar (4 * start.size + 64)
  (sourceText g { ambient } start).map fun (statements, c) => (statements, c.faulty)

end Reading

/-- A parser gives the statements of a file with a path and a text, and whether it is malformed; nothing
if it cannot be read. -/
abbrev Parser := String → String → Option (List Reading.Statement × Bool)

/-- The parser of typed scripts without embedded markup, whatever the extension of the path. -/
def Parser.standard : Parser := fun path text => Reading.statements? (Path.isDeclarationFile path) text

/-- What a source contributes to a program. -/
structure Contents where
  imports : List Import := []
  exports : List Export := []
  declarations : List Declaration := []
  /-- Whether the source is malformed. -/
  faulty : Bool := false
  deriving Inhabited

/-- The decorator with the module from which the first part of its name is imported. -/
def Decorator.link (imports : List Import) (d : Decorator) : Decorator :=
  let head := ((Text.splitOn '.' d.name).head?).getD ""
  { d with origin := (imports.find? fun i => i.localName == head).map (·.module) }

/-- The class with the origins of all its decorators. -/
def ClassBody.link (imports : List Import) (c : ClassBody) : ClassBody :=
  let all (ds : List Decorator) : List Decorator := ds.map (·.link imports)
  { c with
    decorators := all c.decorators
    members := c.members.map fun m => { m with decorators := all m.decorators }
    constructor? := c.constructor?.map fun ps => ps.map fun p => { p with decorators := all p.decorators } }

/-- The declaration with the origins of all its decorators. -/
def Declaration.link (imports : List Import) (d : Declaration) : Declaration :=
  match d.kind with
  | .cls body => { d with kind := .cls (body.link imports) }
  | _ => d

/-- The contents that the statements of a source make up. -/
def Contents.ofStatements (statements : List Reading.Statement) (faulty : Bool) : Contents :=
  let imports := statements.flatMap (·.imports)
  { imports
    exports := statements.flatMap (·.exports)
    declarations := (statements.flatMap (·.declarations)).map (·.link imports)
    faulty }

/-- What a file contributes, as a parser reads it. -/
def Contents.read (parse : Parser) (path text : String) : Contents :=
  match parse path text with
  | some (statements, faulty) => Contents.ofStatements statements faulty
  | none => { faulty := true }

end ComponentAtlas.Script
