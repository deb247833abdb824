import ValuePipeline.Document.Node
import ValuePipeline.Document.Numeral

/-!
# Numbers, truth values and dates in TOML

Digits may be grouped by single underscores.  A date is read as a table with one
member, whose name no document would use for something else.
-/

namespace ValuePipeline.Toml

def grouped? (base : Nat) (chars : List Char) : Option (List Char) :=
  let groups := (String.ofList chars).splitOn "_"
  if groups.all fun group => group ≠ "" ∧ (Numeral.digits? base group.toList).isSome then
    some (groups.flatMap String.toList)
  else none

/-- Splits a sign off, if there is one. -/
def signed (chars : List Char) : Bool × List Char :=
  match chars with
  | '-' :: rest => (true, rest)
  | '+' :: rest => (false, rest)
  | chars => (false, chars)

def wholeDigits? (chars : List Char) : Option (List Char) :=
  (grouped? 10 chars).filter fun digits => digits.head? ≠ some '0' ∨ digits.length = 1

def inBase? (base : Nat) (chars : List Char) : Option Int := do
  return ((← Numeral.digits? base (← grouped? base chars)) : Int)

def integer? (chars : List Char) : Option Int :=
  match chars with
  | '0' :: 'x' :: digits => inBase? 16 digits
  | '0' :: 'o' :: digits => inBase? 8 digits
  | '0' :: 'b' :: digits => inBase? 2 digits
  | chars => do
      let (negative, chars) := signed chars
      let n ← Numeral.digits? 10 (← wholeDigits? chars)
      return if negative then -(n : Int) else n

/-- Integers of more than 128 bits are refused; those of more than 64 cannot be read. -/
def integerNode? (n : Int) : Option Node :=
  if -2 ^ 63 ≤ n ∧ n < 2 ^ 64 then some (.integer n)
  else if -2 ^ 127 ≤ n ∧ n < 2 ^ 128 then some .unreadable
  else none

def isDecimal (chars : List Char) : Bool :=
  let (_, chars) := signed chars
  if chars = ['i', 'n', 'f'] ∨ chars = ['n', 'a', 'n'] then true
  else
    let isMark := fun c => c = 'e' ∨ c = 'E'
    let mantissa := chars.takeWhile (!isMark ·)
    let part := (mantissa.dropWhile (· ≠ '.')).drop 1
    let whole? := wholeDigits? (mantissa.takeWhile (· ≠ '.'))
    let part? := if mantissa.contains '.' then grouped? 10 part else some []
    let exponent? : Option Int :=
      match chars.dropWhile (!isMark ·) with
      | [] => some 0
      | _ :: exponent => do
          let (negative, digits) := signed exponent
          let n ← Numeral.digits? 10 (← grouped? 10 digits)
          return if negative then -(n : Int) else n
    match whole?, part?, exponent? with
    | some whole, some part, some exponent =>
        (mantissa.contains '.' || chars.any isMark) &&
          Numeral.isFinite (whole ++ part) part.length exponent
    | _, _, _ => false

/-! ## Dates and times -/

def fixed? (width : Nat) (chars : List Char) : Option Nat :=
  if chars.length = width then Numeral.digits? 10 chars else none

def daysInMonth (year month : Nat) : Nat :=
  if month = 2 then if year % 4 = 0 ∧ (year % 100 ≠ 0 ∨ year % 400 = 0) then 29 else 28
  else if [4, 6, 9, 11].contains month then 30 else 31

def isDate (text : String) : Bool :=
  match (text.splitOn "-").map String.toList with
  | [year, month, day] =>
      match fixed? 4 year, fixed? 2 month, fixed? 2 day with
      | some year, some month, some day =>
          1 ≤ month ∧ month ≤ 12 ∧ 1 ≤ day ∧ day ≤ daysInMonth year month
      | _, _, _ => false
  | _ => false

def isBelow (limit : Nat) (chars : List Char) : Bool :=
  match fixed? 2 chars with
  | some n => n < limit
  | none => false

def isSecond (text : String) : Bool :=
  match text.splitOn "." with
  | [second] => isBelow 61 second.toList
  | [second, fraction] => isBelow 61 second.toList && (Numeral.digits? 10 fraction.toList).isSome
  | _ => false

/-- A time of day; the seconds may be left out. -/
def isTime (text : String) : Bool :=
  match text.splitOn ":" with
  | [hour, minute] => isBelow 24 hour.toList && isBelow 60 minute.toList
  | [hour, minute, second] =>
      isBelow 24 hour.toList && isBelow 60 minute.toList && isSecond second
  | _ => false

def isOffset (text : String) : Bool :=
  match text.splitOn ":" with
  | [hour, minute] => isBelow 24 hour.toList && isBelow 60 minute.toList
  | _ => false

/-- A time of day, perhaps with an offset if the day is known. -/
def isClock (dated : Bool) (chars : List Char) : Bool :=
  let isSign := fun c => c = '+' ∨ c = '-'
  let time := String.ofList (chars.takeWhile fun c => !isSign c ∧ c ≠ 'Z' ∧ c ≠ 'z')
  isTime time &&
    match chars.dropWhile fun c => !isSign c ∧ c ≠ 'Z' ∧ c ≠ 'z' with
    | [] => true
    | [c] => dated && !isSign c
    | c :: offset => dated && isSign c && isOffset (String.ofList offset)

def isMoment (chars : List Char) : Bool :=
  let date := String.ofList (chars.take 10)
  isClock false chars ||
    (isDate date &&
      match chars.drop 10 with
      | [] => true
      | c :: clock => ['T', 't', ' '].contains c && isClock true clock)

def momentKey : String := "$__toml_private_datetime"

def momentNode (chars : List Char) : Node :=
  .table [(.text momentKey, .text (String.ofList (chars.map Char.toUpper)))]

/-! ## Scalars -/

def endsScalar (c : Char) : Bool := [' ', '\t', '\n', '\r', ',', ']', '\x7d', '#'].contains c

/-- The characters of a scalar: a blank stands inside only between a date and a time. -/
def scalarChars (chars : List Char) : List Char :=
  let run := chars.takeWhile (!endsScalar ·)
  match isDate (String.ofList run), chars.dropWhile (!endsScalar ·) with
  | true, ' ' :: c :: rest =>
      if c.isDigit then run ++ ' ' :: (c :: rest).takeWhile (!endsScalar ·) else run
  | _, _ => run

def scalarNode? (chars : List Char) : Option Node :=
  if chars = ['t', 'r', 'u', 'e'] then some (.bool true)
  else if chars = ['f', 'a', 'l', 's', 'e'] then some (.bool false)
  else
    match integer? chars with
    | some n => integerNode? n
    | none =>
        if isDecimal chars then some .decimal
        else if isMoment chars then some (momentNode chars)
        else none

def scalar? (chars : List Char) : Option (Node × List Char) := do
  let scalar := scalarChars chars
  return (← scalarNode? scalar, chars.drop scalar.length)

end ValuePipeline.Toml
