/-!
# Runs

A run is a computation that reports what it does and may stop half-way to be
taken up again.  It is finite data: reports and suspensions in the order they
happen, then the result.  So a caller who takes it up whenever it stops
(`polls`) and one who waits for the result (`drive`) look at the same run, and
both always come to its end.
-/

namespace ValuePipeline

inductive Event where
  /-- The step with this number and name starts on a value of the type named. -/
  | applying (type : String) (index : Nat) (step : String)
  | read (owner field : String) (watched : Bool)
  | write (owner field : String) (watched : Bool)
  | note (text : String)
  deriving DecidableEq, Repr

/-- The line an event adds to the log: notes, and accesses to watched fields. -/
def Event.logLine? : Event → Option String
  | read _ field true => some ("read " ++ field)
  | write _ field true => some ("write " ++ field)
  | note text => some text
  | _ => none

inductive Run (α : Type) where
  | done (result : α)
  | emit (event : Event) (next : Run α)
  | suspend (next : Run α)

namespace Run

variable {α β γ : Type}

protected def bind : Run α → (α → Run β) → Run β
  | done result, further => further result
  | emit event next, further => emit event (next.bind further)
  | suspend next, further => suspend (next.bind further)

instance : Monad Run where
  pure := done
  bind := Run.bind

@[simp] theorem pure_eq (a : α) : (pure a : Run α) = done a := rfl
@[simp] theorem done_bind (a : α) (f : α → Run β) : (done a >>= f) = f a := rfl
@[simp] theorem emit_bind (e : Event) (r : Run α) (f : α → Run β) :
    (emit e r >>= f) = emit e (r >>= f) := rfl
@[simp] theorem suspend_bind (r : Run α) (f : α → Run β) :
    (suspend r >>= f) = suspend (r >>= f) := rfl

theorem bind_done (r : Run α) : (r >>= done) = r := by
  induction r with
  | done a => rfl
  | emit e r ih => simp [ih]
  | suspend r ih => simp [ih]

theorem bind_assoc (r : Run α) (f : α → Run β) (g : β → Run γ) :
    (r >>= f >>= g) = (r >>= fun a => f a >>= g) := by
  induction r with
  | done a => rfl
  | emit e r ih => simp [ih]
  | suspend r ih => simp [ih]

instance : LawfulMonad Run :=
  LawfulMonad.mk' Run (fun r => bind_done r) (fun _ _ => rfl) bind_assoc

def tell (event : Event) : Run Unit :=
  emit event (done ())

def delay : Nat → Run α → Run α
  | 0, run => run
  | times + 1, run => suspend (delay times run)

def events : Run α → List Event
  | done _ => []
  | emit event next => event :: next.events
  | suspend next => next.events

def result : Run α → α
  | done a => a
  | emit _ next => next.result
  | suspend next => next.result

/-! ## Taking a run up -/

inductive Progress (α : Type) where
  | pending (rest : Run α)
  | ready (result : α)

def poll : Run α → List Event × Progress α
  | done a => ([], .ready a)
  | emit event next => (event :: next.poll.1, next.poll.2)
  | suspend next => ([], .pending next)

/-- The reports of every poll until the run is ready, and its result. -/
def polls : Run α → List (List Event) × α
  | done a => ([[]], a)
  | emit event next =>
      match next.polls with
      | ([], a) => ([[event]], a)
      | (first :: rest, a) => ((event :: first) :: rest, a)
  | suspend next => ([] :: next.polls.1, next.polls.2)

/-- Waits on the calling thread: every suspension is taken up at once. -/
def drive (run : Run α) : List Event × α :=
  (run.events, run.result)

end Run

end ValuePipeline
