import ValuePipeline.Step
import ValuePipeline.Time.Delta

/-!
# Steps for lengths of time

Sums and differences outside the limits fail; the opposite and the absolute value
of a length within the limits are within them too, so these two cannot fail.
-/

namespace ValuePipeline.TimeDelta

def addStep (other : TimeDelta) : Step TimeDelta :=
  .checked "add" fun delta =>
    match delta.add? other with
    | some sum => .ok sum
    | none => .error (.overflow "add")

def subtractStep (other : TimeDelta) : Step TimeDelta :=
  .checked "subtract" fun delta =>
    match delta.sub? other with
    | some difference => .ok difference
    | none => .error (.overflow "subtract")

def negateStep : Step TimeDelta := .total "negate" neg

def absStep : Step TimeDelta := .total "abs" abs

end ValuePipeline.TimeDelta
