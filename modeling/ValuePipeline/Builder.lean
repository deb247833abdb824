import ValuePipeline.Journal
import ValuePipeline.Plan

/-!
# Builders

A builder is a handle to a draft: a list of steps, and a list of registered
fields, each with the builder for its value.  All drafts lie on one workbench.
Copies of a handle reach the same draft, so a field's builder can be given steps
after its parent has moved on; `compile` looks at the drafts as they are then.

A draft is put on the bench after the one it is registered on, so following the
fields down always goes to later drafts.
-/

namespace ValuePipeline

variable {Ty : Type} [TypeCode Ty] [DecidableEq Ty]

structure Builder (type : Ty) where
  index : Nat
  deriving DecidableEq, Repr

structure Entry (type : Ty) where
  leaf : Ty
  chain : Chain type leaf
  child : Nat

structure Draft (type : Ty) where
  steps : List (Step (Carrier type)) := []
  fields : List (Entry type) := []

namespace Draft

variable {type : Ty}

def addStep (draft : Draft type) (step : Step (Carrier type)) : Draft type :=
  { draft with steps := draft.steps ++ [step] }

def addField (draft : Draft type) (entry : Entry type) : Draft type :=
  { draft with fields := draft.fields ++ [entry] }

def stepCount (draft : Draft type) : Nat := draft.steps.length

def fieldPaths (draft : Draft type) : List String :=
  draft.fields.map fun entry => entry.chain.path

def described (draft : Draft type) : String :=
  Text.described "PipelineBuilder"
    [("target", Text.quoted (TypeCode.name type)), ("transforms", toString draft.stepCount),
      ("fields", Text.listed (draft.fieldPaths.map Text.quoted))]

end Draft

structure Slot (Ty : Type) [TypeCode Ty] where
  type : Ty
  draft : Draft type

/-- All drafts, oldest first, and what has been noted about them. -/
structure Workbench (Ty : Type) [TypeCode Ty] where
  slots : List (Slot Ty) := []
  journal : List Notice := []

namespace Workbench

variable {type leaf : Ty}

def note (bench : Workbench Ty) (notices : List Notice) : Workbench Ty :=
  { bench with journal := bench.journal ++ notices }

def draft (bench : Workbench Ty) (builder : Builder type) : Draft type :=
  match bench.slots[builder.index]? with
  | some slot => if same : slot.type = type then same ▸ slot.draft else {}
  | none => {}

def place (bench : Workbench Ty) (type : Ty) : Builder type × Workbench Ty :=
  (⟨bench.slots.length⟩, { bench with slots := bench.slots ++ [⟨type, {}⟩] })

def revise (bench : Workbench Ty) (builder : Builder type) (f : Draft type → Draft type) :
    Workbench Ty :=
  { bench with
    slots := bench.slots.modify builder.index fun slot =>
      if same : slot.type = type then ⟨type, f (same ▸ slot.draft)⟩ else slot }

def addStep (bench : Workbench Ty) (builder : Builder type) (step : Step (Carrier type)) :
    Workbench Ty :=
  bench.revise builder (·.addStep step)

/--
Registers a path and gives the builder for its value.  The path must resolve and
its keys must differ from those of every path the draft has already.
-/
def addField (bench : Workbench Ty) (builder : Builder type) (path : PathExpression type leaf) :
    Except SetupError (Builder leaf × Workbench Ty) := do
  let chain ← resolve path
  if (bench.draft builder).fields.any fun entry => entry.chain.keys = chain.keys then
    throw (.duplicateField chain.path)
  let (child, placed) := bench.place leaf
  let registered := placed.revise builder (·.addField ⟨leaf, chain, child.index⟩)
  return (child,
    registered.note [.fieldRegistered (TypeCode.name type) chain.path chain.length])

/-- The plan of a draft and of all drafts below it, as they are now. -/
def compile (bench : Workbench Ty) {type : Ty} (builder : Builder type) : Plan type :=
  let draft := bench.draft builder
  .ofParts draft.steps <| draft.fields.foldr (fun entry rest =>
    if _later : builder.index < entry.child ∧ entry.child < bench.slots.length then
      .field entry.chain (bench.compile (⟨entry.child⟩ : Builder entry.leaf)) rest
    else rest) .finish
termination_by bench.slots.length - builder.index

end Workbench

/-! ## What is noted when a plan is compiled -/

namespace Plan

variable {type : Ty}

def compiledNotice (plan : Plan type) : Notice :=
  .planCompiled (TypeCode.name type) plan.stepCount plan.fieldCount

/-- The notices of the plans of the fields, each after those below it. -/
def innerNotices {type : Ty} : Plan type → List Notice
  | finish => []
  | step _ rest => rest.innerNotices
  | field _ inner rest => inner.innerNotices ++ inner.compiledNotice :: rest.innerNotices

def notices (plan : Plan type) : List Notice := plan.innerNotices ++ [plan.compiledNotice]

end Plan

/-! ## Setting pipelines up -/

/--
Work on the bench that may fail.  What was done before a failure stays done.
The inner monad is the caller's own, for whatever else its functions do.
-/
abbrev SetupT (Ty : Type) [TypeCode Ty] (m : Type → Type) : Type → Type :=
  ExceptT SetupError (StateT (Workbench Ty) m)

abbrev Setup (Ty : Type) [TypeCode Ty] : Type → Type := SetupT Ty Id

namespace SetupT

variable {m : Type → Type} [Monad m] {α : Type}

def note (notices : List Notice) : SetupT Ty m Unit :=
  modifyThe (Workbench Ty) (·.note notices)

def ofExcept (result : Except SetupError α) : SetupT Ty m α :=
  ExceptT.mk (pure result)

end SetupT

namespace Builder

variable {m : Type → Type} [Monad m] {type leaf : Ty}

def new (type : Ty) : SetupT Ty m (Builder type) :=
  modifyGetThe (Workbench Ty) (·.place type)

def addStep (builder : Builder type) (step : Step (Carrier type)) : SetupT Ty m Unit :=
  modifyThe (Workbench Ty) (·.addStep builder step)

def addField (builder : Builder type) (path : PathExpression type leaf) :
    SetupT Ty m (Builder leaf) := do
  match (← getThe (Workbench Ty)).addField builder path with
  | .ok (child, bench) =>
      set bench
      return child
  | .error error => throw error

def build (builder : Builder type) : SetupT Ty m (Plan type) := do
  let plan := (← getThe (Workbench Ty)).compile builder
  SetupT.note plan.notices
  return plan

end Builder

end ValuePipeline
