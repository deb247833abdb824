import ValuePipeline.Number.Power

/-!
# Partial comparison

Values of some types can be compared, but not every pair of them: a number that
is no number is neither below nor above any other.
-/

namespace ValuePipeline

class PartialComparison (α : Type) where
  compare? : α → α → Option Ordering

export PartialComparison (compare?)

instance : PartialComparison Char where
  compare? a b := some (compare a.toNat b.toNat)

/-- False comes before true. -/
instance : PartialComparison Bool where
  compare? a b := some (compare a.toNat b.toNat)

end ValuePipeline
