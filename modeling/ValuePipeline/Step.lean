import ValuePipeline.Error
import ValuePipeline.Run

/-!
# Steps

A step is a named unit of work on values of one type.  It always leaves a value
behind: a step that fails half-way leaves what it had done, and the caller sees
both the value and the failure.
-/

namespace ValuePipeline

/-- The value a computation leaves, and the failure that ended it, if one did. -/
structure Outcome (α : Type) where
  value : α
  failure : Option Failure
  deriving DecidableEq, Repr

namespace Outcome

variable {α : Type}

def ok (value : α) : Outcome α := ⟨value, none⟩

def failed (value : α) (failure : Failure) : Outcome α := ⟨value, some failure⟩

/-- Runs what comes next, unless the outcome is a failure. -/
def andThen (outcome : Outcome α) (next : α → Run (Outcome α)) : Run (Outcome α) :=
  match outcome.failure with
  | some _ => .done outcome
  | none => next outcome.value

@[simp] theorem andThen_ok (value : α) (next : α → Run (Outcome α)) :
    (ok value).andThen next = next value := rfl
@[simp] theorem andThen_failed (value : α) (f : Failure) (next : α → Run (Outcome α)) :
    (failed value f).andThen next = .done (failed value f) := rfl

end Outcome

structure Step (α : Type) where
  name : String
  apply : α → Run (Outcome α)

namespace Step

variable {α : Type}

/-- A step that cannot fail and reports nothing. -/
def total (name : String) (f : α → α) : Step α :=
  ⟨name, fun value => .done (.ok (f value))⟩

/-- A step that either replaces the value or fails and leaves it alone. -/
def checked (name : String) (f : α → Except StepError α) : Step α :=
  ⟨name, fun value => .done <|
    match f value with
    | .ok changed => .ok changed
    | .error error => .failed value (.step error)⟩

section Apply

variable {name : String} {value changed : α} {error : StepError}

theorem apply_checked_of_ok {f : α → Except StepError α} (hf : f value = .ok changed) :
    (checked name f).apply value = .done (.ok changed) := by
  simp [checked, hf]

theorem apply_checked_of_error {f : α → Except StepError α} (hf : f value = .error error) :
    (checked name f).apply value = .done (.failed value (.step error)) := by
  simp [checked, hf]

end Apply

/-! ## Steps from a caller's own function -/

/-- The function cannot fail. -/
def ofFn (f : α → Run α) : Step α :=
  ⟨"fn", fun value => Outcome.ok <$> f value⟩

/-- The function may fail. -/
def ofTryFn (f : α → Run (Outcome α)) : Step α :=
  ⟨"try_fn", f⟩

/-- The function may fail, and may suspend before it is done. -/
def ofAsyncFn (f : α → Run (Outcome α)) : Step α :=
  ⟨"async_fn", f⟩

end Step

end ValuePipeline
