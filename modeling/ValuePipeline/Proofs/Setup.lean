import ValuePipeline.Registry

/-!
# Setting up on a bench

Work that sets pipelines up is carried out on a bench: it gives an answer or fails, and
leaves the bench changed either way.  Work put together from two parts carries out the
first, and the second on what that has left, unless the first has failed.
-/

namespace ValuePipeline

variable {Ty : Type} [TypeCode Ty] {type : Ty} {α β : Type}

namespace Setup

/-- The answer or the failure, and the bench that is left. -/
def on (work : Setup Ty α) (bench : Workbench Ty) : Except SetupError α × Workbench Ty :=
  (work.run.run bench).run

variable {bench : Workbench Ty}

@[simp] theorem on_pure (a : α) : on (pure a : Setup Ty α) bench = (.ok a, bench) := rfl

@[simp] theorem on_throw (error : SetupError) :
    on (throw error : Setup Ty α) bench = (.error error, bench) := rfl

theorem on_bind (work : Setup Ty α) (further : α → Setup Ty β) :
    on (work >>= further) bench =
      match on work bench with
      | (.ok a, after) => on (further a) after
      | (.error error, after) => (.error error, after) := by
  simp only [on, ExceptT.run_bind, StateT.run_bind, Id.run_bind]
  rcases (work.run.run bench).run with ⟨_ | _, after⟩ <;> rfl

@[simp] theorem on_note (notices : List Notice) :
    on (SetupT.note notices : Setup Ty Unit) bench = (.ok (), bench.note notices) := rfl

@[simp] theorem on_new (type : Ty) :
    on (Builder.new type : Setup Ty (Builder type)) bench =
      (.ok (bench.place type).1, (bench.place type).2) := rfl

@[simp] theorem on_addStep [DecidableEq Ty] (builder : Builder type) (step : Step (Carrier type)) :
    on (builder.addStep step : Setup Ty Unit) bench = (.ok (), bench.addStep builder step) := rfl

@[simp] theorem on_build [DecidableEq Ty] (builder : Builder type) :
    on (builder.build : Setup Ty (Plan type)) bench =
      (.ok (bench.compile builder), bench.note (bench.compile builder).notices) := rfl

@[simp] theorem on_ofExcept (result : Except SetupError α) :
    on (SetupT.ofExcept result : Setup Ty α) bench = (result, bench) := rfl

end Setup

end ValuePipeline
