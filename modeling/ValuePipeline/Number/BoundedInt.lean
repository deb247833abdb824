import ValuePipeline.Number.Comparison

/-!
# Bounded integers

An integer kept between two bounds, ends included.
-/

namespace ValuePipeline

structure BoundedInt (low high : Int) where
  val : Int
  low_le : low ≤ val
  le_high : val ≤ high
  deriving DecidableEq, Repr

namespace BoundedInt

variable {low high : Int}

def ofInt? (n : Int) : Option (BoundedInt low high) :=
  if inside : low ≤ n ∧ n ≤ high then some ⟨n, inside.1, inside.2⟩ else none

def abs? (n : BoundedInt low high) : Option (BoundedInt low high) :=
  ofInt? n.val.natAbs

instance : PartialComparison (BoundedInt low high) where
  compare? a b := some (compare a.val b.val)

end BoundedInt

/-- The integer types: a sign or none, and a width in bits. -/
structure IntWidth where
  signed : Bool
  bits : Nat
  deriving DecidableEq, Repr

namespace IntWidth

def low (width : IntWidth) : Int :=
  if width.signed then -(2 ^ (width.bits - 1) : Nat) else 0

def high (width : IntWidth) : Int :=
  if width.signed then (2 ^ (width.bits - 1) : Nat) - 1 else (2 ^ width.bits : Nat) - 1

end IntWidth

abbrev FixedInt (width : IntWidth) : Type := BoundedInt width.low width.high

end ValuePipeline
