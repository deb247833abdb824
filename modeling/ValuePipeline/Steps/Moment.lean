import ValuePipeline.Number.Arithmetic
import ValuePipeline.Step
import ValuePipeline.Time.Instant

/-!
# Steps for instants and date-times

Both kinds of value are moved in the same way: by a length of time, by whole
months on their own clock, or by a possibly fractional number of days, hours and
so on, which is rounded to whole milliseconds first.  A move that leaves the
calendar fails and names the step.
-/

namespace ValuePipeline

/-- Values that are an instant seen from a clock with some offset. -/
class Moment (α : Type) where
  instant : α → Instant
  offset : α → Int
  withInstant : α → Instant → α

instance : Moment Instant where
  instant := id
  offset _ := 0
  withInstant _ instant := instant

instance : Moment DateTime where
  instant := DateTime.instant
  offset := DateTime.offset
  withInstant dateTime instant := { dateTime with instant }

namespace Moment

variable {α : Type} [Moment α]

def shift (step : String) (moment : α) (delta : TimeDelta) : Except StepError α :=
  match (instant moment).add? delta with
  | some moved => .ok (withInstant moment moved)
  | none => .error (.dateOutOfRange step)

def shiftMonths (step : String) (moment : α) (months : Int) : Except StepError α :=
  let moved :=
    if 0 ≤ months then (instant moment).addMonths? (offset moment) months.natAbs
    else (instant moment).subMonths? (offset moment) months.natAbs
  match moved with
  | some moved => .ok (withInstant moment moved)
  | none => .error (.dateOutOfRange step)

/-- So many units of so many milliseconds, to the nearest millisecond, a half away from zero. -/
def fractionalDelta? (amount : BinaryFloat .double) (unitMillis : Nat) : Option TimeDelta :=
  match ((amount.mul (.ofNat unitMillis)).toIntegral .nearestAway).toInt? with
  | some millis => if millis.natAbs < 2 ^ 63 then TimeDelta.ofMillis? millis else none
  | none => none

def shiftFraction (step : String) (moment : α) (amount : BinaryFloat .double)
    (unitMillis : Nat) : Except StepError α :=
  match fractionalDelta? amount unitMillis with
  | some delta => shift step moment delta
  | none => .error (.dateOutOfRange step)

/-! ## The steps -/

def addStep (delta : TimeDelta) : Step α :=
  .checked "add" fun moment => shift "add" moment delta

def subtractStep (delta : TimeDelta) : Step α :=
  .checked "subtract" fun moment =>
    match TimeDelta.zero.sub? delta with
    | some opposite => shift "subtract" moment opposite
    | none => .error (.dateOutOfRange "subtract")

def addMonthsStep (months : Int) : Step α :=
  .checked "add_months" fun moment => shiftMonths "add_months" moment months

/-- A number of years is counted in months, which must fit in 32 bits. -/
def addYearsStep (years : Int) : Step α :=
  .checked "add_years" fun moment =>
    if -2 ^ 31 ≤ 12 * years ∧ 12 * years < 2 ^ 31 then
      shiftMonths "add_years" moment (12 * years)
    else .error (.dateOutOfRange "add_years")

def fractionStep (step : String) (unitMillis : Nat) (amount : BinaryFloat .double) : Step α :=
  .checked step fun moment => shiftFraction step moment amount unitMillis

def addDaysStep : BinaryFloat .double → Step α := fractionStep "add_days" 86400000

def addHoursStep : BinaryFloat .double → Step α := fractionStep "add_hours" 3600000

def addMinutesStep : BinaryFloat .double → Step α := fractionStep "add_minutes" 60000

def addSecondsStep : BinaryFloat .double → Step α := fractionStep "add_seconds" 1000

def addMillisecondsStep : BinaryFloat .double → Step α := fractionStep "add_milliseconds" 1

end Moment

namespace DateTime

def withOffset (dateTime : DateTime) (offset : Int) : DateTime := { dateTime with offset }

def toUtcStep : Step DateTime := .total "to_utc_offset" (withOffset · 0)

/-- The offset of a place may be another one at another instant. -/
def toZoneStep (zone : Instant → Int) : Step DateTime :=
  .total "to_local_offset" fun dateTime => dateTime.withOffset (zone dateTime.instant)

def toLocalStep (localOffset : Int) : Step DateTime := toZoneStep fun _ => localOffset

end DateTime

end ValuePipeline
