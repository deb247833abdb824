import ValuePipeline.Number.Binary

/-!
# Decimal text of binary numbers

The text has the fewest digits that read back as the same number, and of those
the digits nearest to it; a tie goes up.  From `1e-4` up to `1e16` the point is
written in its place, with at least one digit after it; outside, the text has one
digit before the point and an exponent.
-/

namespace ValuePipeline.BinaryFloat

structure Decimal where
  digits : Nat
  exponent : Int
  deriving DecidableEq, Repr

def shiftedTen (num den : Nat) (power : Int) : Nat × Nat :=
  if power < 0 then (num, den * 10 ^ (-power).toNat) else (num * 10 ^ power.toNat, den)

/-- Numbers that round to one number: between two quarters of its unit, ends included or not. -/
structure Interval where
  /-- Ends and number in quarters of the unit, and the unit's power of two less two. -/
  low : Nat
  middle : Nat
  high : Nat
  exponent : Int
  closed : Bool

def intervalOf (format : BinaryFormat) (significand : Nat) (exponent : Int) : Interval :=
  let narrow := significand = 2 ^ (format.precision - 1) ∧ exponent ≠ format.minExponent
  { low := 4 * significand - (if narrow then 1 else 2), middle := 4 * significand,
    high := 4 * significand + 2, exponent := exponent - 2, closed := significand % 2 = 0 }

/-- Compares a decimal with so many quarters of a unit. -/
def Decimal.compareQuarters (decimal : Decimal) (quarters : Nat) (exponent : Int) : Ordering :=
  let (a, b) := shiftedTen decimal.digits 1 decimal.exponent
  let (c, d) := shifted quarters 1 exponent
  compare (a * d) (c * b)

def Interval.contains (interval : Interval) (decimal : Decimal) : Bool :=
  let atLow := decimal.compareQuarters interval.low interval.exponent
  let atHigh := decimal.compareQuarters interval.high interval.exponent
  if interval.closed then atLow ≠ .lt ∧ atHigh ≠ .gt else atLow = .gt ∧ atHigh = .lt

/-- Of the two decimals around the number, `floor` and the one after it, the one to write. -/
def Interval.choose? (interval : Interval) (floor : Nat) (exponent : Int) : Option Decimal :=
  let below : Decimal := ⟨floor, exponent⟩
  let above : Decimal := ⟨floor + 1, exponent⟩
  match interval.contains below, interval.contains above with
  | false, false => none
  | true, false => some below
  | false, true => some above
  | true, true =>
      let middle : Decimal := ⟨2 * floor + 1, exponent⟩
      if middle.compareQuarters (2 * interval.middle) interval.exponent = .gt then some below
      else some above

def searchDigits (interval : Interval) (num den : Nat) (leading : Int) :
    Nat → Nat → Decimal
  | 0, digits => ⟨num / den, leading - digits⟩
  | tries + 1, digits =>
      let exponent := leading - digits
      let (n, d) := shiftedTen num den (-exponent)
      match interval.choose? (n / d) exponent with
      | some decimal => decimal
      | none => searchDigits interval num den leading tries (digits + 1)

def leadingPlace (num den : Nat) : Int :=
  let whole := num / den
  if whole ≠ 0 then (Nat.toDigits 10 whole).length - 1
  else
    let places := Nat.log2 den + 1
    (Nat.toDigits 10 (num * 10 ^ places / den)).length - 1 - (places : Int)

def Decimal.stripZeros (decimal : Decimal) : Decimal :=
  if decimal.digits ≠ 0 ∧ decimal.digits % 10 = 0 then
    stripZeros ⟨decimal.digits / 10, decimal.exponent + 1⟩
  else decimal
termination_by decimal.digits
decreasing_by
  exact Nat.div_lt_self (Nat.pos_of_ne_zero (by simp_all)) (by decide)

def shortest (format : BinaryFormat) (significand : Nat) (exponent : Int) : Decimal :=
  let (num, den) := shifted significand 1 exponent
  let leading := leadingPlace num den
  (searchDigits (intervalOf format significand exponent) num den leading 17 0).stripZeros

/-! ## Layout -/

/-- A decimal from `10 ^ -4` up to `10 ^ 16` in positional form, others with an exponent. -/
def Decimal.text (decimal : Decimal) : String :=
  let digits := Nat.toDigits 10 decimal.digits
  let leading : Int := decimal.exponent + digits.length - 1
  if leading < -4 ∨ 16 ≤ leading then
    let fraction := digits.drop 1
    String.ofList (digits.take 1) ++
      (if fraction.isEmpty then "" else "." ++ String.ofList fraction) ++ "e" ++ toString leading
  else if decimal.exponent ≥ 0 then
    String.ofList (digits ++ List.replicate decimal.exponent.toNat '0') ++ ".0"
  else if leading ≥ 0 then
    String.ofList (digits.take (leading.toNat + 1)) ++ "." ++
      String.ofList (digits.drop (leading.toNat + 1))
  else
    "0." ++ String.ofList (List.replicate (-leading - 1).toNat '0' ++ digits)

def text {format : BinaryFormat} : BinaryFloat format → String
  | nan => "NaN"
  | infinite negative => if negative then "-inf" else "inf"
  | finite negative significand exponent _ =>
      (if negative then "-" else "") ++
        if significand = 0 then "0.0" else (shortest format significand exponent).text

end ValuePipeline.BinaryFloat
