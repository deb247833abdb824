import ValuePipeline.Number.Comparison
import ValuePipeline.Text.Described

/-!
# Lengths of time

A length of time is a number of whole seconds, rounded down, and the nanoseconds
above them.  So half a second back is one second back and half a second on.  The
whole must be within `2 ^ 63 - 1` milliseconds either way.
-/

namespace ValuePipeline

def nanosPerSecond : Nat := 1000000000

structure TimeDelta where
  seconds : Int
  nanos : Nat
  deriving DecidableEq, Repr

namespace TimeDelta

def zero : TimeDelta := ⟨0, 0⟩

def maxMillis : Int := 2 ^ 63 - 1

def toNanos (delta : TimeDelta) : Int := delta.seconds * nanosPerSecond + delta.nanos

def Valid (delta : TimeDelta) : Prop :=
  delta.nanos < nanosPerSecond ∧
    -(maxMillis * 1000000) ≤ delta.toNanos ∧ delta.toNanos ≤ maxMillis * 1000000

instance (delta : TimeDelta) : Decidable delta.Valid := by
  unfold Valid
  infer_instance

def make? (seconds : Int) (nanos : Nat) : Option TimeDelta :=
  if Valid ⟨seconds, nanos⟩ then some ⟨seconds, nanos⟩ else none

def ofMillis? (millis : Int) : Option TimeDelta :=
  make? (millis / 1000) ((millis % 1000).toNat * 1000000)

def add? (a b : TimeDelta) : Option TimeDelta :=
  let nanos := a.nanos + b.nanos
  if nanos < nanosPerSecond then make? (a.seconds + b.seconds) nanos
  else make? (a.seconds + b.seconds + 1) (nanos - nanosPerSecond)

def sub? (a b : TimeDelta) : Option TimeDelta :=
  if b.nanos ≤ a.nanos then make? (a.seconds - b.seconds) (a.nanos - b.nanos)
  else make? (a.seconds - b.seconds - 1) (a.nanos + nanosPerSecond - b.nanos)

/-- The opposite length.  Nanoseconds above the second are borrowed from the next one. -/
def neg (delta : TimeDelta) : TimeDelta :=
  if delta.nanos = 0 then ⟨-delta.seconds, 0⟩
  else ⟨-delta.seconds - 1, nanosPerSecond - delta.nanos⟩

def abs (delta : TimeDelta) : TimeDelta :=
  if delta.seconds < 0 ∧ delta.nanos ≠ 0 then
    ⟨(delta.seconds + 1).natAbs, nanosPerSecond - delta.nanos⟩
  else ⟨delta.seconds.natAbs, delta.nanos⟩

instance : PartialComparison TimeDelta where
  compare? a b := some ((compare a.seconds b.seconds).then (compare a.nanos b.nanos))

def text (delta : TimeDelta) : String :=
  Text.described "TimeDelta"
    [("secs", toString delta.seconds), ("nanos", toString delta.nanos)]

end TimeDelta

end ValuePipeline
