import ComponentAtlas.Metadata

/-!
# Scopes

A scope holds the directives and pipes that a template can use, in the order in which they were first
seen. Every declaration stands in it once.

* `Scope.addDirective`, `Scope.addPipe`, `Scope.merge`: larger scopes;
* `Scope.addDeclarable`, `Scope.addStandalone`: one more class, by what is known about it.
-/

namespace ComponentAtlas

open ComponentAtlas.Script

/-- A directive or component of a scope. -/
structure ScopeDirective where
  reference : Reference
  selector : Option String
  isComponent : Bool
  deriving DecidableEq, Repr, Inhabited

/-- A pipe of a scope. -/
structure ScopePipe where
  reference : Reference
  name : String
  deriving DecidableEq, Repr, Inhabited

/-- The directives and pipes that a template can use. -/
structure Scope where
  directives : List ScopeDirective := []
  pipes : List ScopePipe := []
  deriving DecidableEq, Repr, Inhabited

namespace Scope

/-- Whether there is nothing in a scope. -/
def isEmpty (s : Scope) : Bool := s.directives.isEmpty && s.pipes.isEmpty

/-- Whether a declaration is a directive of the scope. -/
def hasDirective (s : Scope) (id : DeclarationId) : Bool := s.directives.any fun d => d.reference.id == id

/-- Whether a declaration is a pipe of the scope. -/
def hasPipe (s : Scope) (id : DeclarationId) : Bool := s.pipes.any fun p => p.reference.id == id

/-- The scope with a directive, unless its declaration is there already. -/
def pushDirective (s : Scope) (d : ScopeDirective) : Scope :=
  if s.hasDirective d.reference.id then s else { s with directives := s.directives ++ [d] }

/-- The scope with a pipe, unless its declaration is there already. -/
def pushPipe (s : Scope) (p : ScopePipe) : Scope :=
  if s.hasPipe p.reference.id then s else { s with pipes := s.pipes ++ [p] }

/-- The scope with a known directive. -/
def addDirective (s : Scope) (info : DirectiveInfo) : Scope :=
  s.pushDirective ⟨info.reference, info.selector, info.isComponent⟩

/-- The scope with a known pipe. -/
def addPipe (s : Scope) (info : PipeInfo) : Scope := s.pushPipe ⟨info.reference, info.name⟩

/-- The scope with all that is in another one. -/
def merge (s t : Scope) : Scope := t.pipes.foldl pushPipe (t.directives.foldl pushDirective s)

/-- The scope with a class that is a directive, a component or a pipe. -/
def addDeclarable (m : Metadata) (s : Scope) (id : DeclarationId) : Scope :=
  match m.directive? id, m.pipe? id with
  | some d, _ => s.addDirective d
  | none, some p => s.addPipe p
  | none, none => s

/-- The scope with a class that can be imported without a module. -/
def addStandalone (m : Metadata) (s : Scope) (id : DeclarationId) : Scope :=
  match m.directive? id, m.pipe? id with
  | some d, _ => if d.isStandalone then s.addDirective d else s
  | none, some p => if p.isStandalone then s.addPipe p else s
  | none, none => s

end Scope

end ComponentAtlas
