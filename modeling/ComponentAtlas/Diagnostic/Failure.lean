import ComponentAtlas.Diagnostic.Basic
import ComponentAtlas.Program.Host

/-!
# Failures of queries

A problem of one declaration stays with that declaration and is a failure only of the queries that
need its analysis.

* `Failure`: why a query has no answer;
* `Failure.message`: the failure as shown to a user.
-/

namespace ComponentAtlas

/-- Why a query has no answer. -/
inductive Failure
  /-- The declaration has errors. -/
  | analysis (name : String) (diagnostics : List Diagnostic)
  | skipped (name : String)
  | configuration (text : String)
  /-- The analysis of a declaration needs the analysis of the same declaration. -/
  | reentrancy (trail : List String)
  | serviceCycle (trail : List String)
  | malformedInput (text : String)
  | lazyRouteCycle (trail : List String)
  deriving Inhabited

namespace Failure

/-- The failure as shown to a user. -/
def message : Failure → String
  | .analysis name ds => s!"analysis of '{name}' failed with {ds.length} diagnostic(s)"
  | .skipped name => s!"'{name}' was skipped by analysis"
  | .configuration text => "invalid configuration: " ++ text
  | .reentrancy trail => "re-entrant analysis: " ++ " -> ".intercalate trail
  | .serviceCycle trail => "cyclic service construction: " ++ " -> ".intercalate trail
  | .malformedInput text => "malformed input: " ++ text
  | .lazyRouteCycle trail => "lazy route cycle: " ++ " -> ".intercalate trail

/-- The diagnostics of a declaration with errors. -/
def diagnostics : Failure → List Diagnostic
  | .analysis _ ds => ds
  | _ => []

/-- Whether a failure concerns more than one declaration. -/
def isFatal : Failure → Bool
  | .analysis _ _ => false
  | .skipped _ => false
  | _ => true

/-- The failure to build a program as a failure of a query. -/
def ofProgram (f : Program.Failure) : Failure := .configuration f.message

end Failure

end ComponentAtlas
