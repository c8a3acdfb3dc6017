import ComponentAtlas.Text.Chars

/-!
# Logs

A log keeps the lines of the levels that it is open to.

* `Level`: how important a line is;
* `Log.write`: one more line;
* `Log.silent`: a log that keeps nothing.
-/

namespace ComponentAtlas

/-- How important a line of a log is. -/
inductive Level
  | debug
  | info
  | warn
  | error
  deriving DecidableEq, Repr, Inhabited

namespace Level

/-- All levels, the least important first. -/
def all : List Level := [.debug, .info, .warn, .error]

/-- The place of a level in the order of importance. -/
def rank : Level → Nat
  | .debug => 0
  | .info => 1
  | .warn => 2
  | .error => 3

/-- The label in front of a line. -/
def label : Level → String
  | .debug => "DEBUG"
  | .info => "INFO"
  | .warn => "WARN"
  | .error => "ERROR"

/-- The level with a lower-case name. -/
def ofName? : String → Option Level
  | "debug" => some .debug
  | "info" => some .info
  | "warn" => some .warn
  | "error" => some .error
  | _ => none

end Level

/-- A log that is open to a level and those above it. -/
structure Log where
  level : Level
  /-- Whether lines are kept at all. -/
  keeps : Bool := true
  lines : List String := []
  deriving Repr, Inhabited

namespace Log

/-- A log that keeps nothing. -/
def silent : Log := { level := .error, keeps := false }

/-- Whether a log is open to a level. -/
def isOpen (log : Log) (level : Level) : Bool := log.level.rank ≤ level.rank

/-- The log with one more line, if it is open to the level. -/
def write (log : Log) (level : Level) (message : String) : Log :=
  if log.keeps && log.isOpen level then
    { log with lines := log.lines ++ ["[" ++ level.label ++ "] " ++ message] }
  else log

/-- The log with more lines of the least important level. -/
def notes (log : Log) (messages : List String) : Log := messages.foldl (·.write .debug ·) log

/-- Whether a text occurs in one of the lines. -/
def contains (log : Log) (text : String) : Bool := log.lines.any fun line => Text.contains line text

/-- The log without its lines. -/
def clear (log : Log) : Log := { log with lines := [] }

end Log

end ComponentAtlas
