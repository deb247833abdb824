import ValuePipeline.Builder

/-!
# Sanitizers

A sanitizer runs a plan.  It can wait until the plan is done, or hand out the
run for a caller who takes it up each time it suspends.
-/

namespace ValuePipeline

variable {Ty : Type} [TypeCode Ty] [DecidableEq Ty]

structure Sanitizer (type : Ty) where
  plan : Plan type

namespace Sanitizer

variable {type : Ty}

def unchanged (type : Ty) : Sanitizer type := ⟨.finish⟩

def ofStep {m : Type → Type} [Monad m] (step : Step (Carrier type)) :
    SetupT Ty m (Sanitizer type) := do
  let builder ← Builder.new type
  builder.addStep step
  return ⟨← builder.build⟩

def sanitizeAsync (sanitizer : Sanitizer type) (value : Carrier type) :
    Run (Outcome (Carrier type)) :=
  sanitizer.plan.run value

def sanitize (sanitizer : Sanitizer type) (value : Carrier type) :
    List Event × Outcome (Carrier type) :=
  (sanitizer.sanitizeAsync value).drive

def described (sanitizer : Sanitizer type) : String :=
  Text.described "Sanitizer" [("mutator", sanitizer.plan.described)]

end Sanitizer

end ValuePipeline
