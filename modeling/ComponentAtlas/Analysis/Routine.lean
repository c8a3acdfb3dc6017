import ComponentAtlas.Analysis.Progress
import ComponentAtlas.Role
import ComponentAtlas.Diagnostic.Failure
import ComponentAtlas.Log

/-!
# Handlers

A handler knows one role: it recognises the classes that have it, analyses and resolves them.
While it works it may look at and change the world that it shares with other handlers, write to the
log, look at how far the engine has come, and ask it about any class, also about one that is being
analysed. What a handler does is a tree of such steps, so that it can be run, and reasoned about, step
by step.

* `Query`, `Answer`: what can be asked;
* `View`: what can be looked at without having anything analysed;
* `Routine`: the steps of a handler; `Routine.get`, `Routine.modify`, `Routine.note`, `Routine.ask`;
* `Phase`, `Handler`: what a handler does, and a handler.
-/

namespace ComponentAtlas

open ComponentAtlas.Script

/-- A question about the classes of a program. -/
inductive Query
  /-- Has the class analysed. -/
  | analyze (id : DeclarationId)
  /-- Has the class resolved, and the whole program analysed before. -/
  | resolve (id : DeclarationId)
  /-- Has the whole program analysed. -/
  | analyzeAll
  | analysis (id : DeclarationId)
  | resolution (id : DeclarationId)
  | diagnostics (id : DeclarationId)
  | role (id : DeclarationId)
  deriving DecidableEq, Repr, Inhabited

/-- The answer to a question that did not fail. -/
inductive Answer (α ρ : Type)
  | done
  | analysis (a : Option α)
  | resolution (r : Option ρ)
  | diagnostics (ds : List Diagnostic)
  | role (a : Option Role)
  deriving Inhabited

/-- What can be seen of the engine without having anything analysed. -/
structure View where
  /-- How far a class has come. -/
  stage? : DeclarationId → Option Stage
  /-- The recorded classes in the order of the program, perhaps of one kind only. -/
  recorded : Option Role → List DeclarationId
  /-- The errors found so far. -/
  diagnostics : List Diagnostic

/-- The steps of a handler in a world `σ`, with a result in the end. -/
inductive Routine (σ α ρ β : Type)
  | done (result : β)
  | read (next : σ → Routine σ α ρ β)
  | write (world : σ) (next : Routine σ α ρ β)
  | log (level : Level) (message : String) (next : Routine σ α ρ β)
  | look (next : View → Routine σ α ρ β)
  | query (q : Query) (next : Except Failure (Answer α ρ) → Routine σ α ρ β)

namespace Routine

variable {σ α ρ β γ : Type}

/-- One routine, and then another one that depends on its result. -/
def bind : Routine σ α ρ β → (β → Routine σ α ρ γ) → Routine σ α ρ γ
  | .done b, f => f b
  | .read next, f => .read fun s => (next s).bind f
  | .write s next, f => .write s (next.bind f)
  | .log level message next, f => .log level message (next.bind f)
  | .look next, f => .look fun v => (next v).bind f
  | .query q next, f => .query q fun a => (next a).bind f

instance : Monad (Routine σ α ρ) where
  pure := .done
  bind := bind

/-- The world. -/
def get : Routine σ α ρ σ := .read .done

/-- Changes the world. -/
def modify (f : σ → σ) : Routine σ α ρ Unit := .read fun s => .write (f s) (.done ())

/-- Writes a line to the log. -/
def note (level : Level) (message : String) : Routine σ α ρ Unit := .log level message (.done ())

/-- Writes several lines of the least important level to the log. -/
def notes : List String → Routine σ α ρ Unit
  | [] => .done ()
  | message :: messages => .log .debug message (notes messages)

/-- Asks the engine. -/
def ask (q : Query) : Routine σ α ρ (Except Failure (Answer α ρ)) := .query q .done

end Routine

/-- What a handler does for a class, one after the other. -/
inductive Phase
  | analyze
  | register
  | resolve
  deriving DecidableEq, Repr, Inhabited

/-- Whether a handler may share a class with others. -/
inductive Precedence
  /-- A class has at most one such handler. -/
  | primary
  /-- The handler steps back behind any other. -/
  | weak
  deriving DecidableEq, Repr, Inhabited

/-- What the first phase yields. -/
structure Findings (α : Type) where
  analysis : Option α := none
  diagnostics : List Diagnostic := []
  deriving Inhabited

/-- What the second phase yields. -/
structure Settlement (ρ : Type) where
  resolution : Option ρ := none
  diagnostics : List Diagnostic := []
  deriving Inhabited

/-- Whether the first phase found an error. -/
def Findings.isFaulty {α : Type} (f : Findings α) : Bool := f.diagnostics.any (·.isError)

/-- Whether the second phase found an error. -/
def Settlement.isFaulty {ρ : Type} (s : Settlement ρ) : Bool := s.diagnostics.any (·.isError)

/-- A handler of one role. Recognising a class needs neither the world nor the engine. -/
structure Handler (σ α ρ : Type) where
  precedence : Precedence := .primary
  detect : DeclarationId → Option Detected
  analyze : DeclarationId → Detected → Routine σ α ρ (Findings α)
  /-- Makes an analysis known, before anything is resolved. -/
  register : DeclarationId → α → Routine σ α ρ Unit := fun _ _ => .done ()
  resolve : DeclarationId → α → Routine σ α ρ (Settlement ρ) := fun _ _ => .done {}

end ComponentAtlas
