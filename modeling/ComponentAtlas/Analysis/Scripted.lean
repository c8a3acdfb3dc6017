import ComponentAtlas.Analysis.Engine

/-!
# Handlers that follow a script

Scripted handlers do for each class what a script says and keep a record of it. They show how the
engine treats handlers that fail, find nothing, or ask about other classes while they work.

* `Cue`: what to do in a phase;
* `Event`: what was done;
* `Scripted.handler`: the handler of a role.
-/

namespace ComponentAtlas

open ComponentAtlas.Script

/-- A question that a script asks about the class with a name. -/
inductive CueCall
  | analyze (name : String)
  | resolve (name : String)
  | all
  deriving DecidableEq, Repr, Inhabited

/-- What a script says about a phase of a class. -/
structure Cue where
  call : Option CueCall := none
  outcome : String := ""
  deriving DecidableEq, Repr, Inhabited

/-- The cues of the two phases. -/
structure Part where
  analyze : Cue := {}
  resolve : Cue := {}
  deriving DecidableEq, Repr, Inhabited

/-- Something that a scripted handler did for a class. -/
inductive Event
  | analyze (name : String) (trigger : Option String)
  | register (name : String)
  | resolve (name : String)
  /-- The engine answered a question asked in the first phase. -/
  | analyzeReply (name : String) (failure : Option Failure)
  /-- The engine answered a question asked in the second phase. -/
  | resolveReply (name : String) (failure : Option Failure)
  deriving Inhabited

namespace Scripted

/-- The steps of a scripted handler; its analyses are those of injectable classes. -/
abbrev Steps := Routine (List Event) Role Unit

/-- Keeps a record of something. -/
def act (e : Event) : Steps Unit := Routine.modify (· ++ [e])

/-- The question that a cue stands for; an unknown name stands for the class itself. -/
def question (p : Program) (self : DeclarationId) : CueCall → Query
  | .analyze name => .analyze (find name)
  | .resolve name => .resolve (find name)
  | .all => .analyzeAll
where
  /-- The first declaration with a name. -/
  find (name : String) : DeclarationId :=
    ((p.declarations.find? fun d => d.name == name).map fun (d : Declaration) => d.id).getD self

/-- Asks the question of a cue and keeps a record of the answer. -/
def consult (p : Program) (self : DeclarationId) (c : Cue) (record : Option Failure → Event) : Steps Unit :=
  match c.call with
  | none => return
  | some call => do
    match ← Routine.ask (question p self call) with
    | .ok _ => act (record none)
    | .error f => act (record (some f))

/-- A diagnostic about a class. -/
def complaint (d : Declaration) (category : Category) : Diagnostic :=
  ({ code := .valueHasWrongType, file := d.file, range := d.range
     message := .text (d.name ++ " is broken") } : Fault).toDiagnostic category

/-- What the first phase yields. -/
def findings (d : Declaration) : String → Findings Role
  | "error" => { diagnostics := [complaint d .error] }
  | "errorWithAnalysis" =>
    { analysis := some .injectable, diagnostics := [complaint d .warning, complaint d .error] }
  | "warning" => { analysis := some .injectable, diagnostics := [complaint d .warning] }
  | "warningOnly" => { diagnostics := [complaint d .suggestion] }
  | "skip" => {}
  | _ => { analysis := some .injectable }

/-- What the second phase yields. -/
def settlement (d : Declaration) : String → Settlement Unit
  | "error" => { diagnostics := [complaint d .error] }
  | "warning" => { diagnostics := [complaint d .warning] }
  | _ => {}

/-- The handler of a role that follows a script. -/
def handler (p : Program) (script : Table String Part) (role : Role) (precedence : Precedence) :
    Handler (List Event) Role Unit :=
  let declared (id : DeclarationId) : Declaration := (p.declaration? id).getD default
  let part (d : Declaration) : Part := (Table.get? d.name script).getD {}
  { precedence
    detect := fun id => role.among? (((p.cls? id).map (·.decorators)).getD [])
    analyze := fun id detected => do
      let d := declared id
      act (.analyze d.name detected.trigger?)
      consult p id (part d).analyze (.analyzeReply d.name)
      return findings d (part d).analyze.outcome
    register := fun id _ => act (.register (declared id).name)
    resolve := fun id _ => do
      let d := declared id
      act (.resolve d.name)
      consult p id (part d).resolve (.resolveReply d.name)
      return settlement d (part d).resolve.outcome }

end Scripted

end ComponentAtlas
