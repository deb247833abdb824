import ValuePipeline.Pattern.Replace
import ValuePipeline.Step

/-!
# The replacing step

The pattern is read when the step is made, so a bad one is refused then.
-/

namespace ValuePipeline.Text

def replaceStep (pattern replacement : String) : Except StepError (Step String) :=
  match Pattern.compile pattern with
  | .ok compiled => return .total "replace" (compiled.replaceAll replacement)
  | .error reason => throw (.invalidPattern pattern reason)

end ValuePipeline.Text
