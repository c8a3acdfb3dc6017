import ComponentAtlas.Diagnostic.Basic

/-!
# How far the analysis of a class has come

An annotated class is analysed, then resolved. Both phases can find errors, and the first one can
find that there is nothing to do.

* `Stage`: the places on the way;
* `Progress`: a stage with the results so far;
* `Progress.start`, `Progress.analyze`, …: the legal moves; any other move is refused.
-/

namespace ComponentAtlas

/-- A place on the way of a class through the analysis. -/
inductive Stage
  | pending
  | analyzing
  | analyzed
  | resolving
  | resolved
  | errored
  | skipped
  deriving DecidableEq, Repr, Inhabited

namespace Stage

/-- The name of a stage. -/
def name : Stage → String
  | .pending => "Pending"
  | .analyzing => "Analyzing"
  | .analyzed => "Analyzed"
  | .resolving => "Resolving"
  | .resolved => "Resolved"
  | .errored => "Errored"
  | .skipped => "Skipped"

/-- Whether a phase is running. -/
def isRunning : Stage → Bool
  | .analyzing | .resolving => true
  | _ => false

end Stage

/-- How far a class has come, with the results so far: `α` is what the first phase finds out and `ρ`
what the second one does. -/
structure Progress (α ρ : Type) where
  stage : Stage := .pending
  /-- What the first phase found out. -/
  analysis? : Option α := none
  /-- What the second phase found out. -/
  resolution? : Option ρ := none
  /-- The errors that ended the analysis. -/
  diagnostics? : Option (List Diagnostic) := none
  deriving Inhabited

/-- A move that the current stage does not allow. -/
structure IllegalMove where
  source : Stage
  target : Stage
  deriving DecidableEq, Repr, Inhabited

/-- The refusal as shown to a developer. -/
def IllegalMove.message (m : IllegalMove) : String :=
  s!"Assertion failure: cannot transition from {m.source.name} to {m.target.name}."

namespace Progress

variable {α ρ : Type}

/-- The progress of a class that was not analysed yet. -/
def pending : Progress α ρ := {}

/-- Goes to another stage and changes the results, if the current stage is among the allowed ones. -/
def advance (allowed : List Stage) (target : Stage) (f : Progress α ρ → Progress α ρ) (p : Progress α ρ) :
    Except IllegalMove (Progress α ρ) :=
  if p.stage ∈ allowed then .ok { f p with stage := target } else .error ⟨p.stage, target⟩

/-- The first phase begins. -/
def start : Progress α ρ → Except IllegalMove (Progress α ρ) := advance [.pending] .analyzing id

/-- The first phase has found something out. -/
def analyze (a : α) : Progress α ρ → Except IllegalMove (Progress α ρ) :=
  advance [.analyzing] .analyzed fun p => { p with analysis? := some a }

/-- The second phase begins. -/
def resume : Progress α ρ → Except IllegalMove (Progress α ρ) := advance [.analyzed] .resolving id

/-- The second phase is over. -/
def resolve (r : Option ρ) : Progress α ρ → Except IllegalMove (Progress α ρ) :=
  advance [.resolving] .resolved fun p => { p with resolution? := r }

/-- Errors end the analysis; its results so far are dropped. -/
def fail (ds : List Diagnostic) : Progress α ρ → Except IllegalMove (Progress α ρ) :=
  advance [.pending, .analyzing, .resolving] .errored fun p =>
    { p with analysis? := none, resolution? := none, diagnostics? := some ds }

/-- The first phase has found that there is nothing to do. -/
def skip : Progress α ρ → Except IllegalMove (Progress α ρ) := advance [.analyzing] .skipped id

end Progress

end ComponentAtlas
