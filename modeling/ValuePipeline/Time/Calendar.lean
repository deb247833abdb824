/-!
# The calendar

The proleptic Gregorian calendar.  Days are counted from 1 January 1970.
-/

namespace ValuePipeline

structure Date where
  year : Int
  month : Nat
  day : Nat
  deriving DecidableEq, Repr

namespace Date

def minYear : Int := -262143

def maxYear : Int := 262142

def isLeapYear (year : Int) : Bool :=
  year % 4 = 0 && (year % 100 ≠ 0 || year % 400 = 0)

def monthLengths (year : Int) : List Nat :=
  [31, if isLeapYear year then 29 else 28, 31, 30, 31, 30, 31, 31, 30, 31, 30, 31]

def daysInMonth (year : Int) (month : Nat) : Nat :=
  ((monthLengths year)[month - 1]?).getD 0

def daysBeforeYear (year : Int) : Int :=
  365 * year + (year + 3) / 4 - (year + 99) / 100 + (year + 399) / 400

def daysBeforeMonth (year : Int) (month : Nat) : Nat :=
  ((monthLengths year).take (month - 1)).foldr (· + ·) 0

def epoch : Int := 719528

def toDays (date : Date) : Int :=
  daysBeforeYear date.year + daysBeforeMonth date.year date.month + (date.day : Int) - 1 - epoch

/-- The year that holds a day, counted from the start of year 0. -/
def yearOfDay (day : Int) : Int :=
  let guess := day * 400 / 146097
  if day < daysBeforeYear guess then guess - 1
  else if daysBeforeYear (guess + 1) ≤ day then guess + 1
  else guess

/-- The month that holds a day of the year, and the days before it in that month. -/
def monthOfDay : List Nat → Nat → Nat → Nat × Nat
  | [], month, day => (month, day)
  | length :: lengths, month, day =>
      if day < length then (month, day) else monthOfDay lengths (month + 1) (day - length)

def ofDays (days : Int) : Date :=
  let day := days + epoch
  let year := yearOfDay day
  let (month, before) := monthOfDay (monthLengths year) 1 (day - daysBeforeYear year).toNat
  ⟨year, month, before + 1⟩

/--
The date so many months on, or back.  A day past the end of the month becomes its
last; a year outside the calendar has no dates.
-/
def addMonths? (date : Date) (months : Int) : Option Date :=
  let index := 12 * date.year + ((date.month : Int) - 1) + months
  let year := index / 12
  let month := (index % 12).toNat + 1
  if minYear ≤ year ∧ year ≤ maxYear then
    some ⟨year, month, min date.day (daysInMonth year month)⟩
  else none

end Date

end ValuePipeline
