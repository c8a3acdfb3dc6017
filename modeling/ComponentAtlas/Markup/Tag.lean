import ComponentAtlas.Text.Chars
import ComponentAtlas.Text.LetterCase

/-!
# Tag names

Names of elements may carry a namespace, written `:namespace:name`. A few names have a meaning of
their own for the structure of a document.

* `splitName`, `localName`, `merge`: the two parts of a name;
* `isVoid`, `content`, `closesWithParent`, `isClosedBy`, `canSelfClose`: what a name says about
  its element.
-/

namespace ComponentAtlas.Markup.Tag

open ComponentAtlas.Text

/-- How the content of an element is read. -/
inductive Content
  | rawText
  | escapableRawText
  | parsed
  deriving DecidableEq, Repr

/-- Namespace and local name of a name that has both. -/
def parts? (name : String) : Option (String × String) :=
  match name.toList with
  | ':' :: rest => (splitOnce ':' rest).map fun (ns, n) => (String.ofList ns, String.ofList n)
  | _ => none

/-- Namespace and local name. A name that begins with `:` and has no second one is refused with a
message when `strict` is set, and else has no namespace. -/
def splitName (name : String) (strict : Bool) : Except String (Option String × String) :=
  match parts? name with
  | some (ns, n) => .ok (some ns, n)
  | none =>
    if strict && name.toList.head? == some ':' then
      .error ("Unsupported format \"" ++ name ++ "\" expecting \":namespace:name\"")
    else .ok (none, name)

/-- The name without its namespace. -/
def localName (name : String) : String := ((parts? name).map (·.2)).getD name

/-- The namespace of a name. -/
def namespace? (name : String) : Option String := (parts? name).map (·.1)

/-- A local name in a namespace; the empty namespace is none. -/
def merge (ns : Option String) (name : String) : String :=
  match ns with
  | some ns => if ns == "" then name else ":" ++ ns ++ ":" ++ name
  | none => name

/-- Whether the name is `ng-container`, in any namespace. -/
def isNgContainer (name : String) : Bool := localName name == "ng-container"

/-- Whether the name is `ng-content`, in any namespace. -/
def isNgContent (name : String) : Bool := localName name == "ng-content"

/-- Whether the name is `ng-template`, in any namespace. -/
def isNgTemplate (name : String) : Bool := localName name == "ng-template"

/-- Elements that have no content. -/
def voidNames : List String :=
  ["area", "base", "br", "col", "embed", "hr", "img", "input", "link", "meta", "param", "source",
   "track", "wbr"]

/-- Whether elements of this name have no content. -/
def isVoid (name : String) : Bool := voidNames.contains (asciiLower name)

/-- How the content of elements of this name is read. -/
def content (name : String) : Content :=
  let n := asciiLower name
  if n == "script" || n == "style" then .rawText
  else if n == "textarea" || n == "title" then .escapableRawText
  else .parsed

/-- The namespace that an element name brings with it. -/
def implicitNamespace (name : String) : Option String :=
  let n := asciiLower name
  if n == "svg" then some "svg" else if n == "math" then some "math" else none

/-- Elements whose end tag may be left out where the parent ends. -/
def omissibleNames : List String :=
  ["li", "dt", "dd", "rb", "rt", "rtc", "rp", "optgroup", "option", "p", "thead", "tbody", "tfoot",
   "tr", "td", "th"]

/-- Whether elements of this name end where their parent ends. -/
def closesWithParent (name : String) : Bool := omissibleNames.contains (asciiLower name)

/-- The names of the elements that end an open element of the given lower-case name. -/
def closers : String → List String
  | "p" =>
    ["address", "article", "aside", "blockquote", "div", "dl", "fieldset", "footer", "form", "h1",
     "h2", "h3", "h4", "h5", "h6", "header", "hgroup", "hr", "main", "nav", "ol", "p", "pre",
     "section", "table", "ul"]
  | "li" => ["li"]
  | "dt" | "dd" => ["dt", "dd"]
  | "option" => ["option", "optgroup"]
  | "optgroup" => ["optgroup"]
  | "thead" | "tbody" => ["tbody", "tfoot"]
  | "tr" => ["tr"]
  | "td" | "th" => ["td", "th"]
  | _ => []

/-- Whether an open `parent` ends where a `child` begins. -/
def isClosedBy (parent child : String) : Bool :=
  (closers (asciiLower (localName parent))).contains (asciiLower (localName child))

/-- Whether an element may be written `<name/>`: void elements, names with a dash and names with a
namespace. -/
def canSelfClose (name : String) : Bool :=
  name.toList.head? == some ':' || (localName name).toList.contains '-' || isVoid (localName name)

end ComponentAtlas.Markup.Tag
