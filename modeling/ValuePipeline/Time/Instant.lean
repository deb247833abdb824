import ValuePipeline.Time.Calendar
import ValuePipeline.Time.Delta

/-!
# Instants and date-times

An instant is a number of whole seconds since the start of 1970 in universal
time, rounded down, and the nanoseconds above them.  A date-time is an instant
with the offset, in seconds east, of the clock it was read from.

Leap seconds are left out.  A clock that has them writes one as nanoseconds of a whole
second or more, which is not `Valid` here: the operations never answer with one, and what
they do to one is not meant to be what such a clock does.
-/

namespace ValuePipeline

def secondsPerDay : Int := 86400

structure Instant where
  seconds : Int
  nanos : Nat
  deriving DecidableEq, Repr

namespace Instant

def epoch : Instant := ⟨0, 0⟩

def minSeconds : Int := Date.toDays ⟨Date.minYear, 1, 1⟩ * secondsPerDay

def maxSeconds : Int := Date.toDays ⟨Date.maxYear, 12, 31⟩ * secondsPerDay + (secondsPerDay - 1)

def toNanos (instant : Instant) : Int := instant.seconds * nanosPerSecond + instant.nanos

/-- Within the calendar, and not within a leap second. -/
def Valid (instant : Instant) : Prop :=
  instant.nanos < nanosPerSecond ∧ minSeconds ≤ instant.seconds ∧ instant.seconds ≤ maxSeconds

instance (instant : Instant) : Decidable instant.Valid := by
  unfold Valid
  infer_instance

def make? (seconds : Int) (nanos : Nat) : Option Instant :=
  if Valid ⟨seconds, nanos⟩ then some ⟨seconds, nanos⟩ else none

def add? (instant : Instant) (delta : TimeDelta) : Option Instant :=
  let nanos := instant.nanos + delta.nanos
  if nanos < nanosPerSecond then make? (instant.seconds + delta.seconds) nanos
  else make? (instant.seconds + delta.seconds + 1) (nanos - nanosPerSecond)

def date (instant : Instant) (offset : Int) : Date :=
  .ofDays ((instant.seconds + offset) / secondsPerDay)

def timeOfDay (instant : Instant) (offset : Int) : Int :=
  (instant.seconds + offset) % secondsPerDay

/--
Moves the date on a clock with this offset by whole months and keeps the time on
that clock.  No months at all is no move.
-/
def moveMonths? (instant : Instant) (offset months : Int) : Option Instant :=
  if months = 0 then some instant
  else
    match (instant.date offset).addMonths? months with
    | none => none
    | some date =>
        make? (date.toDays * secondsPerDay + instant.timeOfDay offset - offset) instant.nanos

def addMonths? (instant : Instant) (offset : Int) (months : Nat) : Option Instant :=
  instant.moveMonths? offset months

def subMonths? (instant : Instant) (offset : Int) (months : Nat) : Option Instant :=
  instant.moveMonths? offset (-months)

instance : PartialComparison Instant where
  compare? a b := some ((compare a.seconds b.seconds).then (compare a.nanos b.nanos))

end Instant

structure DateTime where
  instant : Instant
  offset : Int
  deriving DecidableEq, Repr

/-- Date-times are compared by their instants; the offsets play no part. -/
instance : PartialComparison DateTime where
  compare? a b := compare? a.instant b.instant

/-! ## Text -/

namespace Instant

def twoDigits (n : Nat) : String :=
  String.ofList [Nat.digitChar (n / 10 % 10), Nat.digitChar (n % 10)]

def padZeros (width n : Nat) : String :=
  let digits := Nat.toDigits 10 n
  String.ofList (List.replicate (width - digits.length) '0' ++ digits)

def yearText (year : Int) : String :=
  if 0 ≤ year ∧ year ≤ 9999 then padZeros 4 year.toNat
  else (if year < 0 then "-" else "+") ++ padZeros 4 year.natAbs

def fractionText (nanos : Nat) : String :=
  if nanos = 0 then ""
  else if nanos % 1000000 = 0 then "." ++ padZeros 3 (nanos / 1000000)
  else if nanos % 1000 = 0 then "." ++ padZeros 6 (nanos / 1000)
  else "." ++ padZeros 9 nanos

def clockText (instant : Instant) (offset : Int) : String :=
  let date := instant.date offset
  let time := (instant.timeOfDay offset).toNat
  yearText date.year ++ "-" ++ twoDigits date.month ++ "-" ++ twoDigits date.day ++ "T" ++
    twoDigits (time / 3600) ++ ":" ++ twoDigits (time / 60 % 60) ++ ":" ++ twoDigits (time % 60) ++
      fractionText instant.nanos

def text (instant : Instant) : String := instant.clockText 0 ++ "Z"

end Instant

namespace DateTime

def offsetText (offset : Int) : String :=
  let size := offset.natAbs
  (if offset < 0 then "-" else "+") ++ Instant.twoDigits (size / 3600) ++ ":" ++
    Instant.twoDigits (size / 60 % 60) ++
      if size % 60 = 0 then "" else ":" ++ Instant.twoDigits (size % 60)

def text (dateTime : DateTime) : String :=
  dateTime.instant.clockText dateTime.offset ++ offsetText dateTime.offset

end DateTime

end ValuePipeline
