import ComponentAtlas.Template.Node
import ComponentAtlas.Text.LetterCase

/-!
# The language of `*` attributes

`*ngFor="let item of items; index as i"` stands for a template with the attributes `ngFor` and
`ngForOf` and the variables `item` and `i`.

* `clauses`: the parts of the value between separators outside brackets and quotes;
* `Hoist.add`: the effect of one clause;
* `Hoist.read`: the attributes and variables of a `*` attribute.
-/

namespace ComponentAtlas.Template

open ComponentAtlas.Text ComponentAtlas.Source

/-- The kind and the name of an input written with the given name. -/
def inputName (name : String) : BindingKind × String :=
  match dropStart? "attr." name with
  | some rest => (.attr, rest)
  | none =>
    match dropStart? "class." name with
    | some rest => (.cls, rest)
    | none =>
      match dropStart? "style." name with
      | some rest => (.style, rest)
      | none => (.property, name)

/-- An input bound in one direction. -/
def Input.oneWay (name value : String) (span : Span) : Input :=
  let (kind, name) := inputName name
  ⟨name, kind, value, span⟩

/-- The clauses of a text, with the nesting depth and the open quote before it. The depth has no bound
here; a counter of 32 bits agrees with it in every text of less than two gibibytes. -/
def clausesFrom (depth : Int) (quote : Option Char) : List Char → List (List Char)
  | [] => [[]]
  | c :: cs =>
    let keep (depth : Int) (quote : Option Char) : List (List Char) :=
      match clausesFrom depth quote cs with
      | [] => [[c]]
      | w :: ws => (c :: w) :: ws
    match quote with
    | some q => if c == q then keep depth none else keep depth quote
    | none =>
      if c == '\'' || c == '"' || c == '\u0060' then keep depth (some c)
      else if c == '(' || c == '[' || c == '\x7b' then keep (depth + 1) none
      else if c == ')' || c == ']' || c == '\x7d' then keep (depth - 1) none
      else if (c == ';' || c == ',') && depth == 0 then [] :: clausesFrom depth none cs
      else keep depth none

/-- The parts of a value between the separators outside brackets and quotes. -/
def clauses (cs : List Char) : List (List Char) := clausesFrom 0 none cs

/-- What follows a keyword and white space. -/
def afterKeyword (keyword : String) (cs : List Char) : Option (List Char) :=
  match dropLiteral? keyword.toList cs with
  | some (c :: rest) => if isBlank c then some (trimStart rest) else none
  | _ => none

/-- A character of a word. -/
def isWordChar (c : Char) : Bool := !(isBlank c || c == '=' || c == ';')

/-- The word at the start of a text, with what follows it. -/
def splitWord (cs : List Char) : List Char × List Char :=
  (cs.takeWhile isWordChar, cs.dropWhile isWordChar)

/-- The parts before and behind the last occurrence of a literal. -/
def splitAtLast (lit : List Char) : List Char → Option (List Char × List Char)
  | [] => none
  | c :: cs =>
    match splitAtLast lit cs with
    | some (a, b) => some (c :: a, b)
    | none => (dropLiteral? lit (c :: cs)).map fun rest => ([], rest)

/-- A character of an alias. -/
def isAliasChar (c : Char) : Bool := Classes.alphanumeric c || c == '_' || c == '$'

/-- An expression and the alias that an `as` behind it gives to its value. -/
def splitAlias (cs : List Char) : List Char × Option (List Char) :=
  match splitAtLast " as ".toList cs with
  | none => (cs, none)
  | some (before, after) =>
    let name := trim after
    if !name.isEmpty && name.all isAliasChar then (trim before, some name) else (cs, none)

/-- A text with its first character in upper case. -/
def capitalize : List Char → List Char
  | [] => []
  | c :: cs => LetterCase.upperChar c ++ cs

/-- The attributes and variables of a `*` attribute read so far. -/
structure Hoist where
  directive : String
  span : Span
  attrs : List HoistedAttr
  locals : List Binder := []

namespace Hoist

/-- One more variable. -/
def bindVariable (h : Hoist) (name value : String) : Hoist :=
  { h with locals := h.locals ++ [⟨name, value, h.span⟩] }

/-- The list with the first attribute of the given name replaced, or with one more attribute. -/
def putAttr (key : String) (new : HoistedAttr) : List HoistedAttr → List HoistedAttr
  | [] => [new]
  | a :: as => if a.name == key then new :: as else a :: putAttr key new as

/-- A bound attribute in place of the one of the same name. -/
def bindAttr (h : Hoist) (key value : String) : Hoist :=
  { h with attrs := putAttr key (.bound (.oneWay key value h.span)) h.attrs }

/-- An expression for an attribute, whose value may get an alias. -/
def bindExpression (h : Hoist) (key : String) (cs : List Char) : Hoist :=
  let (expression, name) := splitAlias cs
  let h := h.bindAttr key (String.ofList expression)
  match name with
  | some name => h.bindVariable (String.ofList name) key
  | none => h

/-- The effect of a clause that begins with a key. -/
def addKey (h : Hoist) (cs : List Char) : Hoist :=
  let (word, rest) := splitWord cs
  let key := (word.reverse.dropWhile (· == ':')).reverse
  let expression := trim ((trimStart rest).dropWhile (· == ':'))
  match afterKeyword "as" expression with
  | some name => h.bindVariable (String.ofList (trim name)) (String.ofList key)
  | none => h.bindExpression (h.directive ++ String.ofList (capitalize key)) expression

/-- The variable of a `let` clause with its value, and the rest of the clause. -/
def letClause (cs : List Char) : String × String × List Char :=
  let (name, rest) := splitWord cs
  match trimStart rest with
  | '=' :: assigned =>
    let (value, rest) := splitWord (trimStart assigned)
    (String.ofList name, String.ofList value, trim rest)
  | rest => (String.ofList name, "$implicit", trim rest)

/-- The effect of one clause; the first clause may be an expression for the directive itself. -/
def add (h : Hoist) (first : Bool) (clause : List Char) : Hoist :=
  let cs := trim clause
  if cs.isEmpty then h
  else
    match afterKeyword "let" cs with
    | some declared =>
      let (name, value, rest) := letClause declared
      let h := h.bindVariable name value
      if rest.isEmpty then h else h.addKey rest
    | none => if first then h.bindExpression h.directive cs else h.addKey cs

/-- The attributes and variables of a `*` attribute. -/
def read (directive value : String) (span : Span) : Hoist :=
  let start : Hoist := ⟨directive, span, [.text ⟨directive, "", span, none, false⟩], []⟩
  match clauses value.toList with
  | [] => start
  | c :: cs => cs.foldl (fun h k => h.add false k) (start.add true c)

end Hoist

end ComponentAtlas.Template
