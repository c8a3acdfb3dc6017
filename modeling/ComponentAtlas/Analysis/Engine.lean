import ComponentAtlas.Analysis.Routine
import ComponentAtlas.Diagnostic.Code
import ComponentAtlas.Metadata

/-!
# The engine of the analysis

The engine analyses classes on demand, each of them once. Before the first class is resolved the
whole program is analysed, because scopes depend on all modules. A question about a class that is
being worked on, asked by a handler below, is answered with a failure that shows the circle.

* `Engine`: program and handlers;
* `Engine.State`: what was found out so far, with a history of all handlers entered and all questions
  answered;
* `Engine.answer`: the answer to a question; handlers can ask in turn.
-/

namespace ComponentAtlas

open ComponentAtlas.Script

/-- An annotated class and how far its analysis has come. -/
structure Record (σ α ρ : Type) where
  node : DeclarationId
  className : String
  handler : Handler σ α ρ
  detected : Detected
  progress : Progress α ρ

/-- A program and the handlers of its classes. -/
structure Engine (σ α ρ : Type) where
  program : Program
  handlers : List (Handler σ α ρ)

namespace Engine

variable {σ α ρ : Type}

/-- What can be seen of the engine: the annotated classes, and those that handlers are working on. -/
structure Scene (σ α ρ : Type) where
  records : Table DeclarationId (Record σ α ρ) := []
  /-- The declarations that handlers are working on, the outermost first. -/
  running : List DeclarationId := []

namespace Scene

/-- How far a class has come. -/
def progress? (s : Scene σ α ρ) (id : DeclarationId) : Option (Progress α ρ) :=
  (Table.get? id s.records).map (·.progress)

/-- The stage of a class. -/
def stage? (s : Scene σ α ρ) (id : DeclarationId) : Option Stage := (s.progress? id).map (·.stage)

end Scene

/-- Something that happened in the engine. -/
inductive Moment (σ α ρ : Type)
  /-- A handler was entered for a class. -/
  | entered (phase : Phase) (id : DeclarationId) (scene : Scene σ α ρ)
  /-- A question was answered. -/
  | answered (q : Query) (before : Scene σ α ρ) (answer : Except Failure (Answer α ρ))
      (after : Scene σ α ρ)

/-- What the engine has found out so far. -/
structure State (σ α ρ : Type) extends Scene σ α ρ where
  /-- Declarations that no handler recognises. -/
  plain : List DeclarationId := []
  allAnalyzed : Bool := false
  world : σ
  log : Log
  /-- Moves that were refused. -/
  refusals : List IllegalMove := []
  /-- What happened so far, the latest first. -/
  history : List (Moment σ α ρ) := []

namespace State

/-- The role of a recorded class. -/
def role? (s : State σ α ρ) (id : DeclarationId) : Option Role :=
  (Table.get? id s.records).map (·.detected.role)

/-- The recorded classes in the order of the program, perhaps of one kind only. -/
def recorded (s : State σ α ρ) (a : Option Role) : List DeclarationId :=
  Registry.ascending ((s.records.filter fun e => a.all (· == e.2.detected.role)).map (·.1))

/-- The diagnostics of all classes with errors, in the order of the program. -/
def diagnostics (s : State σ α ρ) : List Diagnostic :=
  (s.recorded none).flatMap fun id => ((s.progress? id).bind (·.diagnostics?)).getD []

/-- What a handler sees of the engine. -/
def view (s : State σ α ρ) : View :=
  { stage? := s.stage?, recorded := s.recorded, diagnostics := s.diagnostics }

/-- The state with a line in the log. -/
def note (level : Level) (message : String) (s : State σ α ρ) : State σ α ρ :=
  { s with log := s.log.write level message }

/-- The state with a record of a class. -/
def record (r : Record σ α ρ) (s : State σ α ρ) : State σ α ρ :=
  { s with records := Table.put r.node r s.records }

/-- Moves a recorded class; a refused move is noted and changes nothing else. -/
def move (id : DeclarationId) (f : Progress α ρ → Except IllegalMove (Progress α ρ)) (s : State σ α ρ) :
    State σ α ρ :=
  match Table.get? id s.records with
  | none => s
  | some r =>
    match f r.progress with
    | .ok p => { s with records := Table.put id { r with progress := p } s.records }
    | .error refusal => { s with refusals := s.refusals ++ [refusal] }

/-- The state in which a handler works on a declaration. -/
def enter (id : DeclarationId) (s : State σ α ρ) : State σ α ρ := { s with running := s.running ++ [id] }

/-- The state in which the innermost handler is done. -/
def leave (s : State σ α ρ) : State σ α ρ := { s with running := s.running.dropLast }

/-- The state in which one more thing has happened. -/
def remember (m : Moment σ α ρ) (s : State σ α ρ) : State σ α ρ := { s with history := m :: s.history }

end State

/-- A computation of the engine that may fail; what it changed before stays changed. -/
abbrev Run (σ α ρ : Type) := ExceptT Failure (StateM (State σ α ρ))

/-- Changes the state. -/
def update (f : State σ α ρ → State σ α ρ) : Run σ α ρ Unit := modify f

/-! ### Recognising roles -/

/-- The handler for a class, and further primary annotations that collide with it. -/
structure Claim (σ α ρ : Type) where
  handler : Handler σ α ρ
  detected : Detected
  collisions : List Detected := []

/-- The record of a class whose analysis has not begun. -/
def Claim.pending (c : Claim σ α ρ) (node : DeclarationId) (className : String) : Record σ α ρ :=
  { node, className, handler := c.handler, detected := c.detected, progress := .pending }

/-- The handlers of a precedence that recognise a class. -/
def recognising (e : Engine σ α ρ) (p : Precedence) (id : DeclarationId) :
    List (Handler σ α ρ × Detected) :=
  e.handlers.filterMap fun h =>
    if h.precedence = p then (h.detect id).map (h, ·) else none

/-- The first primary handler that recognises a class, else the first weak one. -/
def claim? (e : Engine σ α ρ) (id : DeclarationId) : Option (Claim σ α ρ) :=
  match e.recognising .primary id, e.recognising .weak id with
  | (handler, detected) :: others, _ => some { handler, detected, collisions := others.map (·.2) }
  | [], (handler, detected) :: _ => some { handler, detected }
  | [], [] => none

/-- The error of a class with several primary annotations. -/
def collision (d : Declaration) (kept : Detected) (others : List Detected) : Diagnostic :=
  let names := (kept :: others).map fun x => "@" ++ x.role.name
  let range := ((others.head?.bind (·.decorator)).map (·.range)).getD d.range
  let related := kept.decorator.map fun x =>
    [Related.note d.file x.range s!"@{kept.role.name} is applied here."]
  ({ code := .decoratorCollision, file := d.file, range
     message := .text ("The class '" ++ d.name ++ "' is decorated with " ++ " and ".intercalate names ++
       ", but only one Angular annotation is allowed per class.")
     related } : Fault).toDiagnostic .error

/-- The failure of a question about a class that is being worked on. -/
def reentrancy (e : Engine σ α ρ) (s : Scene σ α ρ) (id : DeclarationId) : Failure :=
  let inside := match s.running.findIdx? (· == id) with
    | some place => s.running.drop place
    | none => s.running
  .reentrancy ((inside ++ [id]).map fun id => ((e.program.declaration? id).map (·.name)).getD "")

/-! ### One question, given the answers to those of the handlers -/

section Step

variable (e : Engine σ α ρ) (ask : Query → State σ α ρ → Except Failure (Answer α ρ) × State σ α ρ)

/-- Runs a routine. -/
def perform {β : Type} : Routine σ α ρ β → State σ α ρ → β × State σ α ρ
  | .done b, s => (b, s)
  | .read next, s => perform (next s.world) s
  | .write world next, s => perform next { s with world }
  | .log level message next, s => perform next (s.note level message)
  | .look next, s => perform (next s.view) s
  | .query q next, s =>
    let (answer, s) := ask q s
    perform (next answer) s

/-- Enters a handler for a class and runs its routine. -/
def handle {β : Type} (phase : Phase) (id : DeclarationId) (r : Routine σ α ρ β) : Run σ α ρ β := fun s =>
  let (b, s) := perform ask r (s.remember (.entered phase id s.toScene))
  (.ok b, s)

/-- Notes what the first phase yielded; the analysis is given back if the class is to be registered. -/
def conclude (id : DeclarationId) (name : String) (f : Findings α) : Run σ α ρ (Option α) := do
  if f.isFaulty then
    update (·.note .warn s!"{name}: analysis failed with {f.diagnostics.length} diagnostic(s)")
    update (·.move id (·.fail f.diagnostics))
    return none
  else
    match f.analysis with
    | some a =>
      update (·.move id (·.analyze a))
      update (·.note .debug s!"{name}: Analyzing -> Analyzed")
      return some a
    | none =>
      update (·.move id (·.skip))
      update (·.note .debug s!"{name}: skipped")
      return none

/-- Runs the first phase of a class with a pending record, and registers what it yields. -/
def firstPhase (id : DeclarationId) (name : String) (c : Claim σ α ρ) : Run σ α ρ Unit := do
  update (·.move id (·.start))
  update (·.note .debug s!"{name}: Pending -> Analyzing ({c.detected.role.name})")
  update (·.enter id)
  let findings ← handle ask .analyze id (c.handler.analyze id c.detected)
  update (·.leave)
  match ← conclude id name findings with
  | some a => handle ask .register id (c.handler.register id a)
  | none => return

/-- Has a class analysed that a handler has recognised; a class with several primary annotations
fails at once. -/
def analyzeClaimed (id : DeclarationId) (d : Declaration) (c : Claim σ α ρ) : Run σ α ρ Unit := do
  update (·.record (c.pending id d.name))
  if !c.collisions.isEmpty then
    update (·.move id (·.fail [collision d c.detected c.collisions]))
    update (·.note .warn
      (s!"{d.name} carries more than one primary annotation; keeping {c.detected.role.name}"))
  else firstPhase ask id d.name c

/-- Has a class analysed that was not looked at before. -/
def analyzeNew (id : DeclarationId) : Run σ α ρ Unit :=
  match (e.program.declaration? id).filter (·.isClass), e.claim? id with
  | some d, some c => analyzeClaimed ask id d c
  | _, _ => update fun s => { s with plain := s.plain ++ [id] }

/-- Has a class analysed. -/
def analyze (id : DeclarationId) : Run σ α ρ Unit := do
  let s ← get
  match s.stage? id with
  | some .analyzing => throw (e.reentrancy s.toScene id)
  | some _ => return
  | none => if id ∈ s.plain then return else analyzeNew e ask id

/-- Has classes analysed one after the other, except for those that handlers are working on; tells
whether none was left out. -/
def analyzeEach : List Declaration → Bool → Run σ α ρ Bool
  | [], whole => return whole
  | d :: ds, whole => do
    if !d.isClass then analyzeEach ds whole
    else if d.id ∈ (← get).running then analyzeEach ds false
    else
      analyze e ask d.id
      analyzeEach ds whole

/-- Has the whole program analysed. -/
def analyzeAll : Run σ α ρ Unit := do
  if (← get).allAnalyzed then return
  else
    if ← analyzeEach e ask e.program.declarations true then
      update fun s => { s with allAnalyzed := true }

/-- Has an analysed class resolved. -/
def resolveNow (id : DeclarationId) (r : Record σ α ρ) (a : α) : Run σ α ρ Unit := do
  update (·.move id (·.resume))
  update (·.enter id)
  let settled ← handle ask .resolve id (r.handler.resolve id a)
  update (·.leave)
  if settled.isFaulty then
    update (·.note .warn
      s!"{r.className}: resolution failed with {settled.diagnostics.length} diagnostic(s)")
    update (·.move id (·.fail settled.diagnostics))
  else
    update (·.move id (·.resolve settled.resolution))
    update (·.note .debug s!"{r.className}: Resolving -> Resolved")

/-- Has a class resolved, and the whole program analysed before. -/
def resolve (id : DeclarationId) : Run σ α ρ Unit := do
  analyze e ask id
  analyzeAll e ask
  let s ← get
  match Table.get? id s.records with
  | none => return
  | some r =>
    match r.progress.stage, r.progress.analysis? with
    | .analyzed, some a => resolveNow ask id r a
    | .analyzing, _ | .resolving, _ => throw (e.reentrancy s.toScene id)
    | _, _ => return

/-- The analysis of a class; a class with errors has none. -/
def analysisOf (id : DeclarationId) : Run σ α ρ (Option α) := do
  resolve e ask id
  match Table.get? id (← get).records with
  | none => return none
  | some r =>
    match r.progress.stage with
    | .errored => throw (.analysis r.className (r.progress.diagnostics?.getD []))
    | _ => return r.progress.analysis?

/-- What the second phase found out about a class. -/
def resolutionOf (id : DeclarationId) : Run σ α ρ (Option ρ) := do
  resolve e ask id
  return ((← get).progress? id).bind (·.resolution?)

/-- The errors of a class. -/
def diagnosticsOf (id : DeclarationId) : Run σ α ρ (List Diagnostic) := do
  resolve e ask id
  return (((← get).progress? id).bind (·.diagnostics?)).getD []

/-- The role of a class. -/
def roleOf (id : DeclarationId) : Run σ α ρ (Option Role) := do
  analyze e ask id
  return (← get).role? id

/-- The answer to a question, when `ask` answers those of the handlers. -/
def reply : Query → Run σ α ρ (Answer α ρ)
  | .analyze id => do analyze e ask id; return .done
  | .resolve id => do resolve e ask id; return .done
  | .analyzeAll => do analyzeAll e ask; return .done
  | .analysis id => return .analysis (← analysisOf e ask id)
  | .resolution id => return .resolution (← resolutionOf e ask id)
  | .diagnostics id => return .diagnostics (← diagnosticsOf e ask id)
  | .role id => return .role (← roleOf e ask id)

end Step

/-! ### Questions of handlers -/

/-- The answer to a question, when handlers may ask below each other as often as the bound says. -/
def answerWithin (e : Engine σ α ρ) : Nat → Query → State σ α ρ → Except Failure (Answer α ρ) × State σ α ρ
  | 0, _, s => (.ok .done, s)
  | depth + 1, q, s =>
    let (answer, after) := reply e (answerWithin e depth) q s
    (answer, after.remember (.answered q s.toScene answer after.toScene))

/-- More handlers than can work below each other: every class is analysed, registered and resolved
at most once. -/
def depth (e : Engine σ α ρ) : Nat := 3 * e.program.declarations.length + 3

/-- The answer to a question of a handler. -/
def answer (e : Engine σ α ρ) : Query → State σ α ρ → Except Failure (Answer α ρ) × State σ α ρ :=
  answerWithin e e.depth

end Engine

end ComponentAtlas
