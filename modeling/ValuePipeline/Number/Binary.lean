import ValuePipeline.Number.Comparison

/-!
# Binary floating-point numbers

A finite number is a sign, a significand and a power of two.  In a format of
precision `p` the significand is below `2 ^ p`, and it is at least `2 ^ (p - 1)`
unless the power is the least one there is; so each number has one form.

Results of arithmetic are first known exactly, as a quotient of two naturals
times a power of two.  `roundQuotient` takes that to the nearest number of the
format, a tie to the even significand, and to infinity past the largest.
-/

namespace ValuePipeline

structure BinaryFormat where
  precision : Nat
  exponentBits : Nat
  deriving DecidableEq, Repr

namespace BinaryFormat

def single : BinaryFormat := ⟨24, 8⟩

def double : BinaryFormat := ⟨53, 11⟩

def bias (format : BinaryFormat) : Nat := 2 ^ (format.exponentBits - 1) - 1

def minExponent (format : BinaryFormat) : Int :=
  2 - (format.bias : Int) - (format.precision : Int)

def maxExponent (format : BinaryFormat) : Int :=
  (format.bias : Int) - (format.precision : Int) + 1

/-- The significand and the power are in the one form the format has for a number. -/
def Canonical (format : BinaryFormat) (significand : Nat) (exponent : Int) : Prop :=
  significand < 2 ^ format.precision ∧
    format.minExponent ≤ exponent ∧ exponent ≤ format.maxExponent ∧
      (2 ^ (format.precision - 1) ≤ significand ∨ exponent = format.minExponent)

instance (format : BinaryFormat) (significand : Nat) (exponent : Int) :
    Decidable (format.Canonical significand exponent) := by
  unfold Canonical
  infer_instance

end BinaryFormat

inductive BinaryFloat (format : BinaryFormat) where
  | nan
  | infinite (negative : Bool)
  | finite (negative : Bool) (significand : Nat) (exponent : Int)
      (canonical : format.Canonical significand exponent)
  deriving DecidableEq

namespace BinaryFloat

variable {format : BinaryFormat}

def isFinite : BinaryFloat format → Bool
  | finite _ _ _ _ => true
  | nan | infinite _ => false

/-- A number in canonical form; one that has none is past the largest. -/
def ofParts (negative : Bool) (significand : Nat) (exponent : Int) : BinaryFloat format :=
  if canonical : format.Canonical significand exponent then
    finite negative significand exponent canonical
  else infinite negative

def zero (negative : Bool) : BinaryFloat format := ofParts negative 0 format.minExponent

/-! ## Rounding -/

/-- The quotient to the nearest natural, a half to the even one. -/
def divRoundEven (num den : Nat) : Nat :=
  let quotient := num / den
  let rest := num % den
  if 2 * rest > den ∨ (2 * rest = den ∧ quotient % 2 = 1) then quotient + 1 else quotient

def shifted (num den : Nat) (power : Int) : Nat × Nat :=
  if power < 0 then (num, den <<< (-power).toNat) else (num <<< power.toNat, den)

/-- The power of two for which the quotient has as many bits as the format is precise. -/
def unitExponent (format : BinaryFormat) (num den : Nat) (power : Int) : Int :=
  let guess := power + (Nat.log2 num : Int) - (Nat.log2 den : Int) - (format.precision : Int)
  let (n, d) := shifted num den (power - guess)
  let exact := if n / d < 2 ^ format.precision then guess else guess + 1
  max format.minExponent exact

/-- The number nearest to `num / den * 2 ^ power`. -/
def roundQuotient (negative : Bool) (num den : Nat) (power : Int) : BinaryFloat format :=
  if num = 0 then zero negative
  else
    let exponent := unitExponent format num den power
    let (n, d) := shifted num den (power - exponent)
    let significand := divRoundEven n d
    if significand = 2 ^ format.precision then
      ofParts negative (2 ^ (format.precision - 1)) (exponent + 1)
    else ofParts negative significand exponent

def ofNat (n : Nat) : BinaryFloat format := roundQuotient false n 1 0

/-! ## Interchange form -/

/-- The number with these bits: sign, exponent, significand without its leading bit. -/
def ofBits (format : BinaryFormat) (bits : Nat) : BinaryFloat format :=
  let width := format.precision - 1
  let fraction := bits % 2 ^ width
  let field := bits / 2 ^ width % 2 ^ format.exponentBits
  let negative := bits / 2 ^ (width + format.exponentBits) % 2 = 1
  if field + 1 = 2 ^ format.exponentBits then
    if fraction = 0 then infinite negative else nan
  else if field = 0 then ofParts negative fraction format.minExponent
  else ofParts negative (fraction + 2 ^ width) (format.minExponent + (field - 1 : Nat))

def toBits : BinaryFloat format → Nat
  | nan => ((2 ^ format.exponentBits - 1) * 2 + 1) * 2 ^ (format.precision - 2)
  | infinite negative =>
      (2 ^ format.exponentBits - 1 + negative.toNat * 2 ^ format.exponentBits) *
        2 ^ (format.precision - 1)
  | finite negative significand exponent _ =>
      let sign := negative.toNat * 2 ^ (format.precision - 1 + format.exponentBits)
      if significand < 2 ^ (format.precision - 1) then sign + significand
      else sign + (exponent - format.minExponent).toNat * 2 ^ (format.precision - 1) + significand

/-! ## Comparison -/

/-- A finite number counted in the smallest number above zero. -/
def units (format : BinaryFormat) (negative : Bool) (significand : Nat) (exponent : Int) : Int :=
  let size : Nat := significand <<< (exponent - format.minExponent).toNat
  if negative then -(size : Int) else size

def compareNumbers : BinaryFloat format → BinaryFloat format → Option Ordering
  | nan, _ | _, nan => none
  | infinite a, infinite b => some (compare b.toNat a.toNat)
  | infinite a, finite _ _ _ _ => some (if a then .lt else .gt)
  | finite _ _ _ _, infinite b => some (if b then .gt else .lt)
  | finite a m e _, finite b n f _ => some (compare (units format a m e) (units format b n f))

instance : PartialComparison (BinaryFloat format) where
  compare? := compareNumbers

end BinaryFloat

end ValuePipeline
