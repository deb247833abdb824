import ValuePipeline.Number.Arithmetic
import ValuePipeline.Number.BoundedInt
import ValuePipeline.Step

/-!
# Steps for numbers
-/

namespace ValuePipeline

namespace BoundedInt

/-- The absolute value; the least integer of a signed type has none. -/
def absStep {low high : Int} : Step (BoundedInt low high) :=
  .checked "abs" fun n =>
    match n.abs? with
    | some size => .ok size
    | none => .error (.overflow "abs")

end BoundedInt

/-- Which way a number half-way between two candidates goes. -/
inductive Rounding where
  | toEven
  | awayFromZero
  deriving DecidableEq, Repr, Inhabited

def Rounding.mode : Rounding → BinaryFloat.IntegerRounding
  | toEven => .nearestEven
  | awayFromZero => .nearestAway

namespace BinaryFloat

variable {format : BinaryFormat}

def absStep : Step (BinaryFloat format) := .total "abs" abs

def floorStep : Step (BinaryFloat format) := .total "floor" (toIntegral .down)

def ceilStep : Step (BinaryFloat format) := .total "ceil" (toIntegral .up)

def truncateStep : Step (BinaryFloat format) := .total "truncate" (toIntegral .towardZero)

def sqrtStep : Step (BinaryFloat format) := .total "sqrt" sqrt

def powerStep (exponent : Int) : Step (BinaryFloat format) :=
  .total "powi" fun number => number.power exponent

/-- Rounds to so many fractional digits; more than fifteen are refused. -/
def roundStep (digits : Nat) (rounding : Rounding) : Except StepError (Step (BinaryFloat format)) :=
  if digits > maxRoundDigits then throw (.invalidDigits digits)
  else return .total "round" (roundDigits digits rounding.mode)

end BinaryFloat

end ValuePipeline
