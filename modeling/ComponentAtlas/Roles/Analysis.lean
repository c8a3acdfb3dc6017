import ComponentAtlas.Metadata
import ComponentAtlas.Provider
import ComponentAtlas.Scope.Basic

/-!
# What the analysis finds out about annotated classes

* `Dependency`, `InjectFlags`: what a constructor needs;
* `DirectiveData`: what directives and components have in common;
* `ModuleAnalysis`, `InjectableAnalysis`, `DirectiveAnalysis`, `ComponentAnalysis`, `PipeAnalysis`:
  the analysis of each role, and `Analysis`, one of them;
* `Resolution`: what resolving adds.
-/

namespace ComponentAtlas

open ComponentAtlas.Script

/-! ### Dependencies of constructors -/

/-- How the search for a dependency is modified. -/
structure InjectFlags where
  optional : Bool := false
  host : Bool := false
  self : Bool := false
  skipSelf : Bool := false
  deriving DecidableEq, Repr, Inhabited

namespace InjectFlags

/-- The modifiers whose bits are set in a number. -/
def ofBits (n : Nat) : InjectFlags :=
  { optional := n.testBit 0, host := n.testBit 1, self := n.testBit 2, skipSelf := n.testBit 3 }

/-- The names of the modifiers. -/
def names (f : InjectFlags) : List String :=
  (if f.optional then ["OPTIONAL"] else []) ++ (if f.host then ["HOST"] else []) ++
  (if f.self then ["SELF"] else []) ++ (if f.skipSelf then ["SKIP_SELF"] else [])

end InjectFlags

/-- What a constructor parameter asks for. -/
structure Dependency where
  /-- The token; `none` when it is not known. -/
  token : Option Value
  /-- The name of the attribute that is asked for in place of a token. -/
  attributeName : Option String := none
  flags : InjectFlags := {}
  paramName : Option String := none
  deriving Inhabited

/-- The token as shown to a user. -/
def Dependency.tokenName (d : Dependency) : Option String := d.token.map (·.render)

/-- An expression that is kept for later, with its file. -/
structure SourceExpr where
  node : Expr
  file : String
  deriving Inhabited

/-! ### Directives and components -/

/-- What directives and components have in common. -/
structure DirectiveData where
  reference : Reference
  selector : Option String := none
  exportAs : Option (List String) := none
  /-- Public names of inputs by property. -/
  inputs : Table String String := []
  /-- Public names of outputs by property. -/
  outputs : Table String String := []
  host : Table String String := []
  isStandalone : Bool := false
  /-- `none` when a constructor with unknown tokens was refused. -/
  deps : Option (List Dependency) := none
  deriving Inhabited

/-- What scopes need to know. -/
def DirectiveData.info (d : DirectiveData) (isComponent : Bool) (imports : List Reference) : DirectiveInfo :=
  { reference := d.reference, selector := d.selector, exportAs := d.exportAs
    inputs := d.inputs.map (·.2), outputs := d.outputs.map (·.2)
    isComponent, isStandalone := d.isStandalone, imports }

/-- The analysis of a directive. -/
structure DirectiveAnalysis where
  data : DirectiveData
  providers : Option SourceExpr := none
  isCompiled : Bool := false
  deriving Inhabited

/-- The template of a component. -/
structure ComponentTemplate where
  content : String
  /-- The address as written, for a template in a file of its own. -/
  url : Option String := none
  resolvedUrl : Option String := none
  deriving DecidableEq, Repr, Inhabited

/-- A style sheet in a file of its own. -/
structure ExternalStyle where
  url : String
  resolvedUrl : String
  content : String
  deriving DecidableEq, Repr, Inhabited

/-- The style sheets of a component. -/
structure ComponentStyles where
  inline : List String := []
  external : List ExternalStyle := []
  deriving DecidableEq, Repr, Inhabited

/-- The texts of all style sheets, those in the component first. -/
def ComponentStyles.texts (s : ComponentStyles) : List String := s.inline ++ s.external.map (·.content)

/-- When a component is checked for changes. -/
inductive ChangeDetection
  | onPush
  | default
  deriving DecidableEq, Repr, Inhabited

namespace ChangeDetection

/-- The name of a strategy. -/
def name : ChangeDetection → String
  | .onPush => "OnPush"
  | .default => "Default"

/-- The strategy with a name. -/
def ofName? : String → Option ChangeDetection
  | "OnPush" => some .onPush
  | "Default" => some .default
  | _ => none

/-- The strategy with a number. -/
def ofNumber? : Int → Option ChangeDetection
  | 0 => some .onPush
  | 1 => some .default
  | _ => none

end ChangeDetection

/-- How far the styles of a component reach. -/
inductive Encapsulation
  | emulated
  | none
  | shadowDom
  deriving DecidableEq, Repr, Inhabited

namespace Encapsulation

/-- The name of a mode. -/
def name : Encapsulation → String
  | .emulated => "Emulated"
  | .none => "None"
  | .shadowDom => "ShadowDom"

/-- The mode with a name. -/
def ofName? : String → Option Encapsulation
  | "Emulated" => some .emulated
  | "None" => some .none
  | "ShadowDom" => some .shadowDom
  | _ => Option.none

/-- The mode with a number. -/
def ofNumber? : Int → Option Encapsulation
  | 0 => some .emulated
  | 2 => some .none
  | 3 => some .shadowDom
  | _ => Option.none

end Encapsulation

/-- The analysis of a component. -/
structure ComponentAnalysis where
  data : DirectiveData
  /-- `none` only for a compiled component, or one with errors. -/
  template : Option ComponentTemplate := none
  styles : ComponentStyles := {}
  changeDetection : Option ChangeDetection := none
  encapsulation : Encapsulation := .emulated
  imports : List Reference := []
  importsSource : Option SourceExpr := none
  providers : Option SourceExpr := none
  viewProviders : Option SourceExpr := none
  isCompiled : Bool := false
  deriving Inhabited

/-! ### Pipes, injectable classes and modules -/

/-- The analysis of a pipe. -/
structure PipeAnalysis where
  reference : Reference
  /-- The name in templates. -/
  pipeName : String
  isPure : Bool := true
  isStandalone : Bool := false
  deps : Option (List Dependency) := none
  isCompiled : Bool := false
  deriving Inhabited

/-- What scopes need to know. -/
def PipeAnalysis.info (p : PipeAnalysis) : PipeInfo :=
  { reference := p.reference, name := p.pipeName, isStandalone := p.isStandalone }

/-- Where an injectable class is provided. -/
inductive ProvidedIn
  /-- One of the named scopes of the framework. -/
  | scope (name : String)
  | module (r : Reference)
  deriving DecidableEq, Repr, Inhabited

/-- The analysis of an injectable class. -/
structure InjectableAnalysis where
  reference : Reference
  providedIn : Option ProvidedIn := none
  /-- How the decorator says that the value is made. -/
  use : Option (UseKind × Value) := none
  deps : Option (List Dependency) := none
  isCompiled : Bool := false
  deriving Inhabited

/-- Where the lists of a module are written. -/
structure ListRanges where
  declarations : Option Range := none
  imports : Option Range := none
  exports : Option Range := none
  deriving DecidableEq, Repr, Inhabited

/-- The analysis of a module. -/
structure ModuleAnalysis where
  reference : Reference
  declarations : List Reference := []
  imports : List Reference := []
  exports : List Reference := []
  bootstrap : List Reference := []
  schemas : List String := []
  id : Option String := none
  providers : Option SourceExpr := none
  /-- Providers that come with imported modules. -/
  importProviders : List Value := []
  importsSource : Option SourceExpr := none
  ranges : ListRanges := {}
  isCompiled : Bool := false
  deriving Inhabited

/-- What scopes need to know. -/
def ModuleAnalysis.info (m : ModuleAnalysis) : ModuleInfo :=
  { reference := m.reference, declarations := m.declarations, imports := m.imports, exports := m.exports }

/-! ### Any role -/

/-- The analysis of an annotated class. -/
inductive Analysis
  | ngModule (m : ModuleAnalysis)
  | injectable (i : InjectableAnalysis)
  | directive (d : DirectiveAnalysis)
  | component (c : ComponentAnalysis)
  | pipe (p : PipeAnalysis)
  deriving Inhabited

namespace Analysis

/-- The role of the class. -/
def role : Analysis → Role
  | .ngModule _ => .ngModule
  | .injectable _ => .injectable
  | .directive _ => .directive
  | .component _ => .component
  | .pipe _ => .pipe

/-- The dependencies of the constructor; a module has none. -/
def deps : Analysis → Option (List Dependency)
  | .ngModule _ => none
  | .injectable i => i.deps
  | .directive d => d.data.deps
  | .component c => c.data.deps
  | .pipe p => p.deps

/-- The expressions that list providers. -/
def providerSources : Analysis → List SourceExpr
  | .ngModule m => m.providers.toList
  | .component c => c.providers.toList ++ c.viewProviders.toList
  | .directive d => d.providers.toList
  | .injectable _ | .pipe _ => []

/-- Values that list further providers. -/
def providerValues : Analysis → List Value
  | .ngModule m => m.importProviders
  | _ => []

end Analysis

/-- What resolving finds out about a class. -/
inductive Resolution
  /-- What the templates of a module can use. -/
  | ngModule (scope : Scope)
  /-- What the template of a component can use; a component that no module declares has no scope. -/
  | component (scope : Option Scope)
  deriving Inhabited, Repr

end ComponentAtlas
