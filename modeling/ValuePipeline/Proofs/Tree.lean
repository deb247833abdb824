import ValuePipeline.Plan
import ValuePipeline.Proofs.Bridge

/-!
# Trees of steps

A tree is a plan whose chains are routes.  Its run is what a pipeline means: the
steps of a node in order, then for each field a change of the part at the end of
its route by the tree below, up to the first step that fails.  A plan made of
resolved chains is the plan of a tree and runs as the tree does, so what holds of
trees holds of plans.
-/

namespace ValuePipeline

variable {Ty : Type} [TypeCode Ty]

/-- Runs steps one after another, each announced with its number, up to one that fails. -/
def Step.sequence (type : Ty) : Nat → List (Step (Carrier type)) → Carrier type →
    Run (Outcome (Carrier type))
  | _, [], value => return .ok value
  | index, step :: steps, value => do
      Run.tell (.applying (TypeCode.name type) index step.name)
      let outcome ← step.apply value
      match outcome.failure with
      | some _ => return outcome
      | none => sequence type (index + 1) steps outcome.value

def Step.leave {α : Type} : List (Step α) → α → Outcome α
  | [], value => .ok value
  | step :: steps, value =>
      match (step.apply value).result.failure with
      | some _ => (step.apply value).result
      | none => leave steps (step.apply value).result.value

theorem Step.result_sequence {type : Ty} (index : Nat) (steps : List (Step (Carrier type)))
    (value : Carrier type) : (sequence type index steps value).result = leave steps value := by
  induction steps generalizing index value with
  | nil => rfl
  | cons step steps ih =>
      simp only [sequence, leave, Run.result_bind]
      cases (step.apply value).result.failure with
      | none => exact ih (index + 1) _
      | some failure => rfl

theorem Step.leave_append {α : Type} (first second : List (Step α)) (value : α) :
    leave (first ++ second) value =
      match (leave first value).failure with
      | some _ => leave first value
      | none => leave second (leave first value).value := by
  induction first generalizing value with
  | nil => rfl
  | cons step first ih =>
      simp only [List.cons_append, leave]
      cases hstep : (step.apply value).result.failure with
      | none => exact ih _
      | some failure => simp only [hstep]

theorem Step.leave_total {α σ : Type} (name : σ → String) (f : σ → α → α) (ops : List σ)
    (value : α) :
    leave (ops.map fun op => total (name op) (f op)) value =
      .ok (ops.foldl (fun value op => f op value) value) := by
  induction ops generalizing value with
  | nil => rfl
  | cons op ops ih => exact ih (f op value)

/-- A node: its own steps, then its fields, each with at least one hop to the node below. -/
inductive Tree : Ty → Type where
  | finish {type : Ty} : Tree type
  | step {type : Ty} (step : Step (Carrier type)) (rest : Tree type) : Tree type
  | field {type leaf : Ty} (route : Route type leaf) (hroute : 0 < route.length)
      (inner : Tree leaf) (rest : Tree type) : Tree type

namespace Tree

/-- A field is a step too: it gets the part, runs the tree below on it, and sets it. -/
def steps {type : Ty} : Tree type → List (Step (Carrier type))
  | finish => []
  | step s rest => s :: rest.steps
  | @field _ _ _ leaf route _ inner rest =>
      ⟨Plan.fieldLabel route.chain, route.update (Step.sequence leaf 0 inner.steps)⟩ :: rest.steps

def run {type : Ty} (tree : Tree type) (value : Carrier type) : Run (Outcome (Carrier type)) :=
  Step.sequence type 0 tree.steps value

def plan {type : Ty} : Tree type → Plan type
  | finish => .finish
  | step s rest => .step s rest.plan
  | field route _ inner rest => .field route.chain inner.plan rest.plan

variable {type leaf : Ty}

@[simp] theorem steps_finish : (finish : Tree type).steps = [] := rfl

@[simp] theorem steps_step (s : Step (Carrier type)) (rest : Tree type) :
    (step s rest).steps = s :: rest.steps := rfl

@[simp] theorem steps_field (route : Route type leaf) (hroute : 0 < route.length)
    (inner : Tree leaf) (rest : Tree type) :
    (field route hroute inner rest).steps =
      ⟨Plan.fieldLabel route.chain, route.update inner.run⟩ :: rest.steps := rfl

theorem result_run (tree : Tree type) (value : Carrier type) :
    (tree.run value).result = Step.leave tree.steps value :=
  Step.result_sequence 0 tree.steps value

/-! ## The plan of a tree -/

variable [DecidableEq Ty]

theorem runFrom_plan (tree : Tree type) (index : Nat) (value : Carrier type) :
    tree.plan.runFrom index value = Step.sequence type index tree.steps value := by
  induction tree generalizing index with
  | finish => rfl
  | step s rest ih =>
      simp only [plan, Plan.runFrom, steps_step, Step.sequence, Outcome.andThen, ih]
      rfl
  | field route hroute inner rest ihInner ihRest =>
      have hinner : (fun part => inner.plan.runFrom 0 part) = inner.run := by
        funext part
        exact ihInner 0 part
      simp only [plan, Plan.runFrom, steps_field, Step.sequence, Outcome.andThen, hinner,
        Chain.update_chain hroute, ihRest]
      rfl

theorem run_plan (tree : Tree type) (value : Carrier type) :
    tree.plan.run value = tree.run value :=
  tree.runFrom_plan 0 value

end Tree

/-! ## Steps before fields -/

theorem Plan.result_runFrom_ofParts [DecidableEq Ty] {type : Ty}
    (steps : List (Step (Carrier type))) (fields : Plan type) (index : Nat)
    (value : Carrier type) :
    ((ofParts steps fields).runFrom index value).result =
      ((Step.leave steps value).andThen (fields.runFrom (index + steps.length))).result := by
  induction steps generalizing index value with
  | nil => rfl
  | cons step steps ih =>
      change ((Plan.step step (ofParts steps fields)).runFrom index value).result = _
      rw [runFrom, Run.result_bind, Run.result_bind, Step.leave, Outcome.andThen]
      cases hfailure : (step.apply value).result.failure with
      | none =>
          dsimp only
          rw [ih, List.length_cons, Nat.add_right_comm, Nat.add_assoc]
      | some failure => simp only [hfailure, Outcome.andThen, Run.result_done]

end ValuePipeline
