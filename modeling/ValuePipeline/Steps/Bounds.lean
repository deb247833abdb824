import ValuePipeline.Number.Comparison
import ValuePipeline.Step

/-!
# Bounds

Steps for values that can be compared.  A value that cannot be compared with a
bound is left as it is; bounds that cannot be compared with each other, or are
the wrong way round, are refused.
-/

namespace ValuePipeline.Bounds

variable {α : Type} [PartialComparison α]

def raise (bound value : α) : α :=
  if compare? value bound = some .lt then bound else value

def lower (bound value : α) : α :=
  if compare? value bound = some .gt then bound else value

def keepWithin (low high value : α) : α :=
  if compare? value low = some .lt then low
  else if compare? value high = some .gt then high
  else value

def max (bound : α) : Step α := .total "max" (raise bound)

def min (bound : α) : Step α := .total "min" (lower bound)

def clamp (low high : α) : Except StepError (Step α) :=
  match compare? low high with
  | some .lt | some .eq => return .total "clamp" (keepWithin low high)
  | _ => throw .invalidBounds

end ValuePipeline.Bounds
