import ValuePipeline.Number.Power

/-!
# Numerals

The digits of a number as documents write them, in several bases, and of decimal
numbers with a point and an exponent.
-/

namespace ValuePipeline.Numeral

def digitValue? (base : Nat) (c : Char) : Option Nat :=
  let value :=
    if c.isDigit then some (c.toNat - '0'.toNat)
    else if 'a' ≤ c ∧ c ≤ 'f' then some (c.toNat - 'a'.toNat + 10)
    else if 'A' ≤ c ∧ c ≤ 'F' then some (c.toNat - 'A'.toNat + 10)
    else none
  value.filter (· < base)

def digits? (base : Nat) (chars : List Char) : Option Nat :=
  if chars.isEmpty then none
  else chars.foldlM (fun total c => (digitValue? base c).map (total * base + ·)) 0

/-! ## Decimal numbers -/

def isMantissa (chars : List Char) : Bool :=
  let whole := chars.takeWhile Char.isDigit
  match chars.dropWhile Char.isDigit with
  | [] => !whole.isEmpty
  | '.' :: part => part.all Char.isDigit && !(whole.isEmpty && part.isEmpty)
  | _ => false

def exponent? : List Char → Option Int
  | '+' :: digits => (digits? 10 digits).map (fun n => (n : Int))
  | '-' :: digits => (digits? 10 digits).map (fun n => -(n : Int))
  | digits => (digits? 10 digits).map (fun n => (n : Int))

def decimal? (chars : List Char) : Option (List Char × Nat × Int) := do
  let mantissa := chars.takeWhile fun c => c ≠ 'e' ∧ c ≠ 'E'
  guard (isMantissa mantissa)
  let exponent ←
    match chars.dropWhile fun c => c ≠ 'e' ∧ c ≠ 'E' with
    | [] => pure 0
    | _ :: digits => exponent? digits
  return (mantissa.filter Char.isDigit, (mantissa.dropWhile (· ≠ '.')).length - 1, exponent)

/--
Is a number small enough to be a binary number of double precision?  The least
one that is not lies half a unit above the largest that is.
-/
def isFinite (digits : List Char) (places : Nat) (exponent : Int) : Bool :=
  let significant := digits.dropWhile (· = '0')
  let position : Int := significant.length - places + exponent
  if significant.isEmpty ∨ position < 309 then true
  else if position > 309 then false
  else
    let limit := 2 ^ 1024 - 2 ^ 970
    let mantissa := (digits? 10 significant).getD 0
    let scale : Int := exponent - places
    if 0 ≤ scale then mantissa * 10 ^ scale.toNat < limit
    else mantissa < limit * 10 ^ (-scale).toNat

end ValuePipeline.Numeral
