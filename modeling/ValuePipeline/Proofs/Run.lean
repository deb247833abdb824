import ValuePipeline.Run

/-!
# What a run reports and gives

A run put together from two runs reports what the first reports and then what the
second reports, and gives what the second gives.  These two laws are all that the
comparisons of runs in the later modules use.
-/

namespace ValuePipeline.Run

variable {α β : Type}

@[simp] theorem events_done (a : α) : (done a).events = [] := rfl
@[simp] theorem result_done (a : α) : (done a).result = a := rfl

theorem map_eq_bind (f : α → β) (run : Run α) : f <$> run = run >>= fun a => done (f a) := rfl

@[simp] theorem events_bind (run : Run α) (further : α → Run β) :
    (run >>= further).events = run.events ++ (further run.result).events := by
  induction run with
  | done a => rfl
  | emit event next ih => simp [events, result, ih]
  | suspend next ih => simp [events, result, ih]

@[simp] theorem result_bind (run : Run α) (further : α → Run β) :
    (run >>= further).result = (further run.result).result := by
  induction run with
  | done a => rfl
  | emit event next ih => simp [result, ih]
  | suspend next ih => simp [result, ih]

@[simp] theorem events_tell (event : Event) : (tell event).events = [event] := rfl
@[simp] theorem result_tell (event : Event) : (tell event).result = () := rfl

def tells (events : List Event) : Run Unit :=
  events.foldr emit (done ())

@[simp] theorem tells_nil : tells [] = done () := rfl

theorem tells_cons (event : Event) (events : List Event) :
    tells (event :: events) = tell event >>= fun _ => tells events := rfl

theorem tells_append (first second : List Event) :
    tells (first ++ second) = tells first >>= fun _ => tells second := by
  induction first with
  | nil => rfl
  | cons event first ih => simp [tells_cons, ih]

@[simp] theorem events_tells (events : List Event) : (tells events).events = events := by
  induction events with
  | nil => rfl
  | cons event events ih => simp [tells_cons, ih]

/-! ## Runs without their announcements -/

/-- Leaves out which instruction is carried out, and keeps what is done for it. -/
def quiet : Run α → Run α
  | done a => done a
  | emit (.applying _ _ _) next => next.quiet
  | emit event next => emit event next.quiet
  | suspend next => suspend next.quiet

@[simp] theorem quiet_done (a : α) : (done a).quiet = done a := rfl

@[simp] theorem quiet_announcement (type : String) (index : Nat) (step : String) :
    (tell (.applying type index step)).quiet = done () := rfl

@[simp] theorem result_quiet (run : Run α) : run.quiet.result = run.result := by
  fun_induction quiet run <;> simp_all [result]

@[simp] theorem quiet_bind (run : Run α) (further : α → Run β) :
    (run >>= further).quiet = run.quiet >>= fun a => (further a).quiet := by
  induction run with
  | done a => rfl
  | emit event next ih => cases event <;> simp [quiet, ih]
  | suspend next ih => simp [quiet, ih]

end ValuePipeline.Run
