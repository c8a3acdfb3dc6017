import ComponentAtlas.Script.Tree

/-!
# Declarations and modules of a script

* `Declaration`: a class, variable, function or enumeration at the top of a source file;
* `Import`, `Export`: how a source file is tied to others; `ModuleLink`: a declaration that ties it;
* `SourceFile`: what a source file contributes.
-/

namespace ComponentAtlas.Script

/-- A decorator in front of a class, a member or a parameter. -/
structure Decorator where
  /-- The name as written, for instance `Component` or `core.Component`. -/
  name : String
  /-- The module from which the first part of the name is imported. -/
  origin : Option String := none
  /-- The arguments; `none` when the decorator is not called. -/
  args : Option (List Expr)
  range : Range
  deriving Inhabited

/-- The kinds of class members. -/
inductive MemberKind
  | property
  | method
  | getter
  | setter
  deriving DecidableEq, Repr, Inhabited

/-- A named member of a class other than its constructor. -/
structure ClassMember where
  name : String
  kind : MemberKind
  isStatic : Bool
  value : Option Expr := none
  type : Option TypeNode := none
  decorators : List Decorator := []
  params : List String := []
  /-- What a method that does nothing but return an expression returns. -/
  returns : Option Expr := none
  range : Range
  deriving Inhabited

/-- A constructor parameter; only a plain parameter has a name. -/
structure Parameter where
  name : Option String
  type : Option TypeNode
  decorators : List Decorator
  range : Range
  deriving Inhabited

/-- What a class is made of. -/
structure ClassBody where
  decorators : List Decorator := []
  members : List ClassMember := []
  /-- `none` when the class declares no constructor. -/
  constructor? : Option (List Parameter) := none
  heritage : Option Expr := none
  /-- Declared without implementation, by a modifier or in a declaration file. -/
  isAmbient : Bool := false
  isAbstract : Bool := false
  deriving Inhabited

/-- A member of an enumeration. -/
structure EnumMember where
  name : String
  value : Option Expr
  deriving Inhabited

/-- The kinds of declarations. -/
inductive DeclarationKind
  | cls (body : ClassBody)
  | binding (value : Option Expr) (type : Option TypeNode)
  | function (params : List String) (returns : Option Expr)
  | enumeration (members : List EnumMember)
  deriving Inhabited

/-- The number of a declaration in the order in which declarations are loaded. -/
abbrev DeclarationId := Nat

/-- A declaration at the top of a source file. -/
structure Declaration where
  id : DeclarationId := 0
  name : String
  file : String := ""
  range : Range
  exported : Bool
  kind : DeclarationKind
  deriving Inhabited

/-- The class that is declared. -/
def Declaration.cls? (d : Declaration) : Option ClassBody :=
  match d.kind with
  | .cls body => some body
  | _ => none

/-- Whether a class is declared. -/
def Declaration.isClass (d : Declaration) : Bool := d.cls?.isSome

/-- The first static member of the given name. -/
def ClassBody.static? (c : ClassBody) (name : String) : Option ClassMember :=
  c.members.find? fun m => m.isStatic && m.name == name

/-- What an import takes from a module. -/
inductive Imported
  | named (name : String)
  | default
  /-- The module itself, as an object of its exports. -/
  | whole
  deriving DecidableEq, Repr, Inhabited

/-- A local name bound by an import. -/
structure Import where
  localName : String
  imported : Imported
  module : String
  deriving DecidableEq, Repr, Inhabited

/-- What a module offers to others. -/
inductive Export
  /-- A local name under an exported one. -/
  | own (exported localName : String)
  /-- A name of another module under an exported one. -/
  | reexport (exported name module : String)
  /-- All names of another module. -/
  | star (module : String)
  deriving DecidableEq, Repr, Inhabited

/-- The module that an export refers to. -/
def Export.module? : Export → Option String
  | .own _ _ => none
  | .reexport _ _ module => some module
  | .star module => some module

/-- What a declaration that names a module says about it. -/
inductive Clause
  /-- An import of nothing: the module is only run. -/
  | effects
  /-- The local names that an import binds, with what they stand for; there may be none. -/
  | bindings (names : List (String × Imported))
  /-- Names of the module with the names under which they are exported; there may be none. -/
  | reexports (pairs : List (String × String))
  /-- An export of all names of the module, or of the module itself under one name. -/
  | star (name : Option String)
  deriving DecidableEq, Repr, Inhabited

/-- An import or export declaration that names a module. -/
structure ModuleLink where
  clause : Clause
  module : String
  deriving DecidableEq, Repr, Inhabited

/-- The local names that a declaration binds. -/
def ModuleLink.imports (l : ModuleLink) : List Import :=
  match l.clause with
  | .bindings names => names.map fun (localName, imported) => ⟨localName, imported, l.module⟩
  | _ => []

/-- The names that a declaration exports. -/
def ModuleLink.exports (l : ModuleLink) : List Export :=
  match l.clause with
  | .reexports pairs => pairs.map fun (name, exported) => .reexport exported name l.module
  | .star none => [.star l.module]
  | _ => []

/-- A source file of a program. -/
structure SourceFile where
  path : String
  isDeclarationFile : Bool := false
  declarations : List DeclarationId := []
  imports : List Import := []
  exports : List Export := []
  deriving Inhabited

/-- The first import that binds a local name. -/
def SourceFile.importOf? (f : SourceFile) (name : String) : Option Import :=
  f.imports.find? fun i => i.localName == name

end ComponentAtlas.Script
