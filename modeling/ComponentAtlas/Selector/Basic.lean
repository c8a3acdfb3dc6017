import ComponentAtlas.Text.Chars
import ComponentAtlas.Text.LetterCase

/-!
# Element selectors

A selector asks for an element name, for classes and for attributes, and excludes what its `:not`
parts describe. The same type describes a node of a template: its name, classes and attributes.

* `Selector.satisfies`: whether a node has everything that a pattern asks for;
* `Selector.render`: the text of a selector.

The empty attribute value asks for the presence of the attribute only. Attribute values and class
names are kept in lower case by `addAttribute` and `addClass`.
-/

namespace ComponentAtlas

/-- A single structural selector. -/
structure Selector where
  element : Option String := none
  classes : List String := []
  attrs : List (String × String) := []
  nots : List Selector := []
  deriving Inhabited, Repr

namespace Selector

/-- The selector with another element name. -/
def setElement (s : Selector) (name : String) : Selector := { s with element := some name }

/-- The selector with one more attribute. -/
def addAttribute (s : Selector) (name value : String) : Selector :=
  { s with attrs := s.attrs ++ [(name, Text.lower value)] }

/-- The selector with one more class. -/
def addClass (s : Selector) (name : String) : Selector :=
  { s with classes := s.classes ++ [Text.lower name] }

/-- Whether the selector asks for one particular element name. -/
def hasElement (s : Selector) : Bool :=
  match s.element with
  | some name => name != "*"
  | none => false

/-- Whether the selector asks for an element name and for no class or attribute. -/
def isElement (s : Selector) : Bool := s.hasElement && s.classes.isEmpty && s.attrs.isEmpty

/-- Whether the node `s` has the element name `expected`, where `*` stands for every name. -/
def elementFits (s : Selector) : Option String → Bool
  | none => true
  | some expected => expected == "*" || s.element == some expected

/-- Whether the node `s` has all the given classes. -/
def classesFit (s : Selector) (classes : List String) : Bool :=
  classes.all fun c => s.classes.contains c

/-- Whether the node `s` has all the given attributes. -/
def attrsFit (s : Selector) (attrs : List (String × String)) : Bool :=
  attrs.all fun (name, expected) =>
    s.attrs.any fun (attr, value) => attr == name && (expected == "" || value == expected)

mutual

/-- Whether the node `s` satisfies a pattern. -/
def satisfies (s : Selector) : Selector → Bool
  | ⟨element, classes, attrs, nots⟩ =>
    s.elementFits element && s.classesFit classes && s.attrsFit attrs && !s.satisfiesAny nots

/-- Whether the node `s` satisfies one of several patterns. -/
def satisfiesAny (s : Selector) : List Selector → Bool
  | [] => false
  | p :: ps => s.satisfies p || s.satisfiesAny ps

end

/-- The text of the class parts. -/
def renderClasses (classes : List String) : String := String.join (classes.map ("." ++ ·))

/-- The text of one attribute part; a `$` of the name is written as `\$`. -/
def renderAttr : String × String → String
  | (name, value) =>
    let name := Text.replaceChar '$' "\\$" name
    if value == "" then "[" ++ name ++ "]" else "[" ++ name ++ "=" ++ value ++ "]"

mutual

/-- The text of a selector. -/
def render : Selector → String
  | ⟨element, classes, attrs, nots⟩ =>
    element.getD "" ++ renderClasses classes ++ String.join (attrs.map renderAttr) ++ renderNots nots

/-- The text of the `:not` parts. -/
def renderNots : List Selector → String
  | [] => ""
  | n :: ns => ":not(" ++ n.render ++ ")" ++ renderNots ns

end

end Selector

end ComponentAtlas
