import ValuePipeline.Number.Binary

/-!
# Arithmetic on binary floating-point numbers

Every operation rounds the exact result once.  A zero keeps the sign that the
signs of the operands give it.
-/

namespace ValuePipeline.BinaryFloat

variable {format : BinaryFormat}

def abs : BinaryFloat format → BinaryFloat format
  | nan => nan
  | infinite _ => infinite false
  | finite _ m e canonical => finite false m e canonical

def mul : BinaryFloat format → BinaryFloat format → BinaryFloat format
  | nan, _ | _, nan => nan
  | infinite a, infinite b => infinite (a ^^ b)
  | infinite a, finite b m _ _ | finite b m _ _, infinite a =>
      if m = 0 then nan else infinite (a ^^ b)
  | finite a m e _, finite b n f _ => roundQuotient (a ^^ b) (m * n) 1 (e + f)

def div : BinaryFloat format → BinaryFloat format → BinaryFloat format
  | nan, _ | _, nan => nan
  | infinite _, infinite _ => nan
  | infinite a, finite b _ _ _ => infinite (a ^^ b)
  | finite a _ _ _, infinite b => zero (a ^^ b)
  | finite a m e _, finite b n f _ =>
      if n = 0 then if m = 0 then nan else infinite (a ^^ b)
      else roundQuotient (a ^^ b) m n (e - f)

/-! ## Square root -/

/-- The largest natural whose square is not above `n`. -/
def floorSqrt (n : Nat) : Nat :=
  if n = 0 then 0
  else
    let low := 2 * floorSqrt (n / 4)
    if (low + 1) * (low + 1) ≤ n then low + 1 else low
termination_by n

/-- The root of an exact number below, with one more bit that says whether anything is left. -/
def sqrt : BinaryFloat format → BinaryFloat format
  | nan => nan
  | infinite negative => if negative then nan else infinite false
  | finite negative m e canonical =>
      if m = 0 then finite negative m e canonical
      else if negative then nan
      else
        let shift := 2 * format.precision + 4 + ((e - 2 * (format.precision : Int)) % 2).toNat
        let scaled := m <<< shift
        let root := floorSqrt scaled
        let sticky := if root * root = scaled then 0 else 1
        roundQuotient false (2 * root + sticky) 1 ((e - shift) / 2 - 1)

/-! ## To an integer -/

inductive IntegerRounding where
  | down
  | up
  | towardZero
  | nearestEven
  | nearestAway
  deriving DecidableEq, Repr

def IntegerRounding.divide (mode : IntegerRounding) (negative : Bool) (num den : Nat) : Nat :=
  let quotient := num / den
  let rest := num % den
  match mode with
  | down => if negative ∧ rest ≠ 0 then quotient + 1 else quotient
  | up => if !negative ∧ rest ≠ 0 then quotient + 1 else quotient
  | towardZero => quotient
  | nearestEven => divRoundEven num den
  | nearestAway => if 2 * rest ≥ den then quotient + 1 else quotient

def toIntegral (mode : IntegerRounding) : BinaryFloat format → BinaryFloat format
  | finite negative m e canonical =>
      if 0 ≤ e then finite negative m e canonical
      else roundQuotient negative (mode.divide negative m (2 ^ (-e).toNat)) 1 0
  | number => number

def toInt? : BinaryFloat format → Option Int
  | finite negative m e _ =>
      let (n, d) := shifted m 1 e
      if n % d = 0 then some (if negative then -((n / d : Nat) : Int) else (n / d : Nat)) else none
  | nan | infinite _ => none

/-! ## Whole powers -/

/-- Multiplies `product` by `base` to a whole power, by repeated squaring. -/
def mulPower (product base : BinaryFloat format) (exponent : Nat) : BinaryFloat format :=
  let product := if exponent % 2 = 1 then product.mul base else product
  if exponent / 2 = 0 then product else mulPower product (base.mul base) (exponent / 2)
termination_by exponent

def one : BinaryFloat format := ofNat 1

/-- A negative power is one over the positive power. -/
def power (base : BinaryFloat format) (exponent : Int) : BinaryFloat format :=
  let product := mulPower one base exponent.natAbs
  if exponent < 0 then one.div product else product

/--
Rounds to a number of fractional digits: to an integer after scaling by a power of ten,
and back.  A number so large that scaling overflows is left as it is.
-/
def roundDigits (digits : Nat) (mode : IntegerRounding) (number : BinaryFloat format) :
    BinaryFloat format :=
  let scale := (ofNat 10).power digits
  let scaled := number.mul scale
  if scaled.isFinite then (scaled.toIntegral mode).div scale else number

end ValuePipeline.BinaryFloat
