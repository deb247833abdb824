import ValuePipeline.Path.Chain

/-!
# Plans

A plan is what a builder is compiled to: the steps for the value itself, and for
each registered field a chain to its place and the plan for what is found there.
A run follows the plan in order and stops at the first failure, at any depth.
Each instruction is announced with its number, counted anew for each plan, and
its name; the instructions of a field's plan are announced after the field.
-/

namespace ValuePipeline

variable {Ty : Type} [TypeCode Ty] [DecidableEq Ty]

inductive Plan {Ty : Type} [TypeCode Ty] : Ty → Type where
  | finish {type : Ty} : Plan type
  | step {type : Ty} (step : Step (Carrier type)) (rest : Plan type) : Plan type
  | field {type leaf : Ty} (chain : Chain type leaf) (inner : Plan leaf) (rest : Plan type) :
      Plan type

namespace Plan

def ofParts {type : Ty} (steps : List (Step (Carrier type))) (fields : Plan type) : Plan type :=
  steps.foldr .step fields

def stepCount {type : Ty} : Plan type → Nat
  | finish => 0
  | step _ rest => rest.stepCount + 1
  | field _ _ rest => rest.stepCount

def fieldCount {type : Ty} : Plan type → Nat
  | finish => 0
  | step _ rest => rest.fieldCount
  | field _ _ rest => rest.fieldCount + 1

def length {type : Ty} (plan : Plan type) : Nat := plan.stepCount + plan.fieldCount

/-- The name under which a field is announced. -/
def fieldLabel {type leaf : Ty} (chain : Chain type leaf) : String := "field:" ++ chain.path

def announce (type : Ty) (index : Nat) (name : String) : Run Unit :=
  Run.tell (.applying (TypeCode.name type) index name)

/-- Runs the instructions; the first one has the number given. -/
def runFrom {type : Ty} (plan : Plan type) (index : Nat) (value : Carrier type) :
    Run (Outcome (Carrier type)) :=
  match plan with
  | finish => return .ok value
  | step s rest => do
      announce type index s.name
      let outcome ← s.apply value
      outcome.andThen fun value => rest.runFrom (index + 1) value
  | field chain inner rest => do
      announce type index (fieldLabel chain)
      let outcome ← chain.update (fun leaf => inner.runFrom 0 leaf) value
      outcome.andThen fun value => rest.runFrom (index + 1) value

def run {type : Ty} (plan : Plan type) (value : Carrier type) : Run (Outcome (Carrier type)) :=
  plan.runFrom 0 value

def described {type : Ty} (plan : Plan type) : String :=
  Text.described "CompiledMutator"
    [("target", Text.quoted (TypeCode.name type)), ("transforms", toString plan.stepCount),
      ("bridges", toString plan.fieldCount)]

end Plan

end ValuePipeline
