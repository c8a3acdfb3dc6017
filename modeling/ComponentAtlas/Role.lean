import ComponentAtlas.Script.Declaration
import ComponentAtlas.Text.Chars

/-!
# Roles

A class of a program takes part in the framework through one of five decorators of its core package.
A class that was compiled before carries a static member in place of the decorator.

* `Role`: the five kinds of annotated classes, and `Symbol`, an annotated class;
* `Script.Decorator.isNamed`: whether a decorator is the one of the core package with a name;
* `Role.ofMarkers?`: what the static members of a compiled class say.
-/

namespace ComponentAtlas

open ComponentAtlas.Script

/-- What an annotated class is to the framework. -/
inductive Role
  | ngModule
  | injectable
  | directive
  | component
  | pipe
  deriving DecidableEq, Repr, Inhabited

namespace Role

/-- The name of the decorator. -/
def name : Role → String
  | .ngModule => "NgModule"
  | .injectable => "Injectable"
  | .directive => "Directive"
  | .component => "Component"
  | .pipe => "Pipe"

/-- The role with a decorator name. -/
def ofName? : String → Option Role
  | "NgModule" => some .ngModule
  | "Injectable" => some .injectable
  | "Directive" => some .directive
  | "Component" => some .component
  | "Pipe" => some .pipe
  | _ => none

@[simp] theorem ofName?_name (a : Role) : ofName? a.name = some a := by cases a <;> rfl

/-- The static member that a compiled class has in place of the decorator. -/
def marker : Role → String
  | .component => "ɵcmp"
  | .directive => "ɵdir"
  | .pipe => "ɵpipe"
  | .ngModule => "ɵmod"
  | .injectable => "ɵprov"

/-- The roles in the order in which a class is searched for their markers. -/
def byMarker : List Role := [.component, .directive, .pipe, .ngModule, .injectable]

/-- The role that the static members of a compiled class stand for. -/
def ofMarkers? (c : ClassBody) : Option Role := byMarker.find? fun a => (c.static? a.marker).isSome

end Role

/-- An annotated class as shown to a user. -/
structure Symbol where
  id : DeclarationId
  role : Role
  name : String
  path : String
  deriving DecidableEq, Repr, Inhabited

/-! ### Decorators of the core package -/

/-- The name of the core package of the framework. -/
def corePackage : String := "@angular/core"

namespace Script.Decorator

/-- Whether a decorator is imported from the core package. -/
def isCore (d : Decorator) : Bool := d.origin == some corePackage

/-- The name of a decorator without qualifiers. -/
def shortName (d : Decorator) : String := ((Text.splitOn '.' d.name).getLast?).getD ""

/-- Whether a decorator is the one of the core package with the given name. -/
def isNamed (name : String) (d : Decorator) : Bool := d.isCore && (d.name == name || d.shortName == name)

/-- The first argument of a decorator that is called. -/
def firstArg? (d : Decorator) : Option Expr := d.args.bind (·.head?)

end Script.Decorator

/-- The first decorator of the core package with a name. -/
def findDecorator? (name : String) (ds : List Decorator) : Option Decorator :=
  ds.find? (Decorator.isNamed name)

/-- How a role was recognised on a class. -/
structure Detected where
  role : Role
  /-- The decorator; a compiled class has none. -/
  decorator : Option Decorator := none
  deriving Inhabited

/-- The name of the decorator that was recognised. -/
def Detected.trigger? (d : Detected) : Option String := d.decorator.map (·.name)

/-- Recognises a role by its decorator. -/
def Role.among? (a : Role) (ds : List Decorator) : Option Detected :=
  (findDecorator? a.name ds).map fun d => { role := a, decorator := some d }

end ComponentAtlas
