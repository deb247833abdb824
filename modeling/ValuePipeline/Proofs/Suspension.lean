import ValuePipeline.Proofs.Execution
import ValuePipeline.Proofs.Polling
import ValuePipeline.Sanitizer

/-!
# Suspended pipelines

A pipeline suspends when the step at work suspends, at whatever depth that is.  All
that came before the step has been done and nothing of what comes after it: no later
step has started, and each field that leads to the step has been read but not written
back.  What is left does the rest, so the suspensions do not show in the outcome, and
the pipeline runs as if its steps never suspended.
-/

namespace ValuePipeline

variable {Ty : Type} [TypeCode Ty] {type root leaf : Ty}

/-! ## The step at work -/

namespace Tree

/--
The step of `execution` is at work at `place`, after all that happened `earlier` and
before all that comes `later`.  The fields on the way to the place were read and are
to be written back.
-/
inductive Stands : {type : Ty} → Tree type → Nat → Carrier type → List (Act Ty) →
    (execution : Execution Ty) → Route type execution.type → List (Act Ty) → Prop where
  | atStep {type : Ty} {s : Step (Carrier type)} {rest : Tree type} {index : Nat}
      {value : Carrier type} :
      Stands (.step s rest) index value
        [.report (.applying (TypeCode.name type) index s.name)] ⟨type, s, value⟩ .stay
        ((s.apply value).result.followedBy fun changed => rest.actsFrom (index + 1) changed)
  | pastStep {type : Ty} {s : Step (Carrier type)} {rest : Tree type} {index : Nat}
      {value : Carrier type} {earlier later : List (Act Ty)} {execution : Execution Ty}
      {place : Route type execution.type} (hdone : (s.apply value).result.failure = none)
      (hrest : Stands rest (index + 1) (s.apply value).result.value earlier execution place
        later) :
      Stands (.step s rest) index value
        (.report (.applying (TypeCode.name type) index s.name) :: .work ⟨type, s, value⟩ ::
          earlier)
        execution place later
  | inField {type leaf : Ty} {route : Route type leaf} {hroute : 0 < route.length}
      {inner : Tree leaf} {rest : Tree type} {index : Nat} {value : Carrier type}
      {earlier later : List (Act Ty)} {execution : Execution Ty}
      {place : Route leaf execution.type}
      (hinner : Stands inner 0 (route.get value) earlier execution place later) :
      Stands (.field route hroute inner rest) index value
        (.report (.applying (TypeCode.name type) index (Plan.fieldLabel route.chain)) ::
          (route.reads.map .report ++ earlier))
        execution (route.trans place)
        (later ++ route.writes.map .report ++
          (inner.run (route.get value)).result.followedBy fun changed =>
            rest.actsFrom (index + 1) (route.set value changed))
  | pastField {type leaf : Ty} {route : Route type leaf} {hroute : 0 < route.length}
      {inner : Tree leaf} {rest : Tree type} {index : Nat} {value : Carrier type}
      {earlier later : List (Act Ty)} {execution : Execution Ty}
      {place : Route type execution.type}
      (hdone : (inner.run (route.get value)).result.failure = none)
      (hrest : Stands rest (index + 1)
        (route.set value (inner.run (route.get value)).result.value) earlier execution place
        later) :
      Stands (.field route hroute inner rest) index value
        (.report (.applying (TypeCode.name type) index (Plan.fieldLabel route.chain)) ::
          (route.reads.map .report ++ inner.actsFrom 0 (route.get value) ++
            route.writes.map .report ++ earlier))
        execution place later

namespace Stands

variable {tree : Tree type} {index : Nat} {value : Carrier type} {earlier later : List (Act Ty)}
  {execution : Execution Ty} {place : Route type execution.type}

theorem acts_eq (hstands : tree.Stands index value earlier execution place later) :
    tree.actsFrom index value = earlier ++ .work execution :: later := by
  induction hstands with
  | atStep => rfl
  | pastStep hdone hrest ih => simp [actsFrom, Outcome.followedBy, hdone, ih]
  | inField hinner ih => simp [actsFrom, ih]
  | pastField hdone hrest ih => simp [actsFrom, Outcome.followedBy, hdone, ih]

theorem reads_sublist (hstands : tree.Stands index value earlier execution place later) :
    (place.reads.map (.report : Event → Act Ty)).Sublist earlier := by
  induction hstands with
  | atStep => simp [Route.reads, Route.fields]
  | pastStep hdone hrest ih => exact (ih.cons _).cons _
  | inField hinner ih =>
      rw [Route.reads_trans, List.map_append]
      exact (List.Sublist.append_left ih _).cons _
  | pastField hdone hrest ih => exact (ih.trans (List.sublist_append_right _ _)).cons _

theorem writes_sublist (hstands : tree.Stands index value earlier execution place later) :
    (place.writes.map (.report : Event → Act Ty)).Sublist later := by
  induction hstands with
  | atStep => simp [Route.writes, Route.fields]
  | pastStep hdone hrest ih => exact ih
  | inField hinner ih =>
      rw [Route.writes_trans, List.map_append]
      exact (ih.append_right _).trans (List.sublist_append_left _ _)
  | pastField hdone hrest ih => exact ih

end Stands

end Tree

/-! ## Where a pipeline pauses -/

namespace Step

variable {s : Step (Carrier type)} {steps : List (Step (Carrier type))} {index : Nat}
  {value : Carrier type}

theorem exists_pauses_sequence_iff {events : List Event} :
    (∃ rest, (sequence type index (s :: steps) value).Pauses events rest) ↔
      (∃ done left, (s.apply value).Pauses done left ∧
        events = .applying (TypeCode.name type) index s.name :: done) ∨
      (s.apply value).result.failure = none ∧
        ∃ more, events =
            .applying (TypeCode.name type) index s.name :: ((s.apply value).events ++ more) ∧
          ∃ rest, (sequence type (index + 1) steps (s.apply value).result.value).Pauses
            more rest := by
  constructor
  · rintro ⟨rest, hpauses⟩
    obtain ⟨others, rfl, hothers⟩ := Run.pauses_tell_bind_iff.mp hpauses
    rcases Run.pauses_bind_iff.mp hothers with ⟨left, hleft, -⟩ | ⟨more, rfl, hmore⟩
    · exact .inl ⟨others, left, hleft, rfl⟩
    · cases hdone : (s.apply value).result.failure with
      | some failure =>
          simp only [hdone] at hmore
          exact absurd hmore Run.not_pauses_done
      | none =>
          simp only [hdone] at hmore
          exact .inr ⟨rfl, more, rfl, rest, hmore⟩
  · rintro (⟨done, left, hleft, rfl⟩ | ⟨hdone, more, rfl, rest, hmore⟩)
    · exact ⟨_, Run.pauses_tell_bind_iff.mpr
        ⟨done, rfl, Run.pauses_bind_iff.mpr (.inl ⟨left, hleft, rfl⟩)⟩⟩
    · refine ⟨rest, Run.pauses_tell_bind_iff.mpr ⟨_, rfl, Run.pauses_bind_iff.mpr (.inr ?_)⟩⟩
      simp only [hdone]
      exact ⟨more, rfl, hmore⟩

end Step

theorem Route.exists_pauses_update_iff {route : Route root leaf}
    {change : Carrier leaf → Run (Outcome (Carrier leaf))} {whole : Carrier root}
    {events : List Event} :
    (∃ rest, (route.update change whole).Pauses events rest) ↔
      ∃ done left, (change (route.get whole)).Pauses done left ∧ events = route.reads ++ done := by
  constructor
  · rintro ⟨rest, hpauses⟩
    obtain ⟨done, rfl, hchange⟩ := Run.pauses_tells_bind_iff.mp hpauses
    rcases Run.pauses_bind_iff.mp hchange with ⟨left, hleft, -⟩ | ⟨more, -, hwrites⟩
    · exact ⟨done, left, hleft, rfl⟩
    · obtain ⟨_, -, hdone⟩ := Run.pauses_tells_bind_iff.mp hwrites
      exact absurd hdone Run.not_pauses_done
  · rintro ⟨done, left, hleft, rfl⟩
    exact ⟨_, Run.pauses_tells_bind_iff.mpr
      ⟨done, rfl, Run.pauses_bind_iff.mpr (.inl ⟨left, hleft, rfl⟩)⟩⟩

namespace Tree

theorem exists_stands_of_pauses {tree : Tree type} {index : Nat} {value : Carrier type}
    {events : List Event}
    (hpauses : ∃ rest, (Step.sequence type index tree.steps value).Pauses events rest) :
    ∃ earlier execution, ∃ place : Route type execution.type, ∃ later done left,
      tree.Stands index value earlier execution place later ∧
        execution.run.Pauses done left ∧ events = earlier.flatMap Act.events ++ done := by
  induction tree generalizing index events with
  | finish =>
      obtain ⟨rest, hdone⟩ := hpauses
      exact absurd hdone Run.not_pauses_done
  | step s remaining ih =>
      rcases Step.exists_pauses_sequence_iff.mp hpauses with
        ⟨done, left, hleft, rfl⟩ | ⟨hdone, more, rfl, hmore⟩
      · exact ⟨_, ⟨_, s, value⟩, .stay, _, done, left, .atStep, hleft, rfl⟩
      · obtain ⟨earlier, execution, place, later, done, left, hstands, hleft, rfl⟩ := ih hmore
        refine ⟨_, _, _, _, done, left, .pastStep hdone hstands, hleft, ?_⟩
        simp [Act.events, Execution.run]
  | @field type leaf route hroute inner remaining ihInner ihRest =>
      rcases Step.exists_pauses_sequence_iff.mp hpauses with
        ⟨reported, left, hfield, rfl⟩ | ⟨hdone, more, rfl, hmore⟩
      · obtain ⟨_, left, hinner, rfl⟩ := Route.exists_pauses_update_iff.mp ⟨left, hfield⟩
        obtain ⟨earlier, execution, place, later, done, left, hstands, hleft, rfl⟩ :=
          ihInner ⟨left, hinner⟩
        refine ⟨_, _, _, _, done, left, .inField hstands, hleft, ?_⟩
        simp [Act.events]
      · simp only [Route.result_update] at hdone hmore
        obtain ⟨earlier, execution, place, later, done, left, hstands, hleft, rfl⟩ := ihRest hmore
        refine ⟨_, _, _, _, done, left, .pastField hdone hstands, hleft, ?_⟩
        simp [Act.events, Route.events_update, events_sequence]

theorem Stands.exists_pauses {tree : Tree type} {index : Nat} {value : Carrier type}
    {earlier later : List (Act Ty)} {execution : Execution Ty} {place : Route type execution.type}
    (hstands : tree.Stands index value earlier execution place later) {done : List Event}
    {left : Run (Outcome (Carrier execution.type))} (hleft : execution.run.Pauses done left) :
    ∃ rest, (Step.sequence type index tree.steps value).Pauses
      (earlier.flatMap Act.events ++ done) rest := by
  induction hstands with
  | atStep => exact Step.exists_pauses_sequence_iff.mpr (.inl ⟨done, left, hleft, rfl⟩)
  | pastStep hdone hrest ih =>
      refine Step.exists_pauses_sequence_iff.mpr (.inr ⟨hdone, _, ?_, ih hleft⟩)
      simp [Act.events, Execution.run]
  | @inField _ _ _ _ _ _ _ _ _ _ _ _ hinner ih =>
      obtain ⟨paused, hpaused⟩ := ih hleft
      obtain ⟨rest, hfield⟩ := Route.exists_pauses_update_iff.mpr ⟨_, paused, hpaused, rfl⟩
      refine Step.exists_pauses_sequence_iff.mpr (.inl ⟨_, rest, hfield, ?_⟩)
      simp [Act.events]
  | @pastField _ _ _ _ _ _ _ _ earlier _ _ _ hdone hrest ih =>
      refine Step.exists_pauses_sequence_iff.mpr
        (.inr ⟨?_, earlier.flatMap Act.events ++ done, ?_, ?_⟩)
      · rw [Route.result_update]
        exact hdone
      · simp [Act.events, Route.events_update, events_sequence]
      · simp only [Route.result_update]
        exact ih hleft

/--
All that comes before the step at work is reported, and what this step has reported so
far.  What comes later, the write-backs of the fields that lead to it among it, is left.
-/
def Waits (tree : Tree type) (value : Carrier type) (events : List Event)
    (rest : Run (Outcome (Carrier type))) : Prop :=
  ∃ earlier execution, ∃ place : Route type execution.type, ∃ later done left,
    tree.Stands 0 value earlier execution place later ∧
    tree.acts value = earlier ++ .work execution :: later ∧
    (place.reads.map .report).Sublist earlier ∧ (place.writes.map .report).Sublist later ∧
    execution.run.Pauses done left ∧
    events = earlier.flatMap Act.events ++ done ∧
    rest.events = left.events ++ later.flatMap Act.events

theorem waits_of_pauses {tree : Tree type} {value : Carrier type} {events : List Event}
    {rest : Run (Outcome (Carrier type))} (hpauses : (tree.run value).Pauses events rest) :
    tree.Waits value events rest := by
  obtain ⟨earlier, execution, place, later, done, left, hstands, hleft, rfl⟩ :=
    exists_stands_of_pauses ⟨rest, hpauses⟩
  refine ⟨earlier, execution, place, later, done, left, hstands, hstands.acts_eq,
    hstands.reads_sublist, hstands.writes_sublist, hleft, rfl, ?_⟩
  have hevents : (tree.run value).events = (tree.acts value).flatMap Act.events :=
    tree.events_sequence 0 value
  rw [hpauses.eq.1, acts, hstands.acts_eq] at hevents
  simpa [Act.events, hleft.eq.1] using hevents

end Tree

/-! ## Pipelines that never suspend -/

def Step.prompt {α : Type} (step : Step α) : Step α :=
  ⟨step.name, fun value => (step.apply value).prompt⟩

/-- The plan with the same instructions, none of which suspends. -/
def Plan.prompt {type : Ty} : Plan type → Plan type
  | finish => .finish
  | step s rest => .step s.prompt rest.prompt
  | field chain inner rest => .field chain inner.prompt rest.prompt

theorem Step.sequence_map_prompt (index : Nat) (steps : List (Step (Carrier type)))
    (value : Carrier type) :
    sequence type index (steps.map prompt) value = (sequence type index steps value).prompt := by
  induction steps generalizing index value with
  | nil => rfl
  | cons s steps ih =>
      simp only [List.map_cons, sequence, prompt, Run.prompt_bind, Run.prompt_tell]
      congr 1
      funext _
      congr 1
      funext outcome
      cases outcome.failure with
      | none => exact ih (index + 1) outcome.value
      | some failure => rfl

theorem Route.prompt_update (route : Route root leaf)
    (change : Carrier leaf → Run (Outcome (Carrier leaf))) (whole : Carrier root) :
    (route.update change whole).prompt = route.update (fun part => (change part).prompt) whole := by
  simp [update]

namespace Tree

def prompt {type : Ty} : Tree type → Tree type
  | finish => .finish
  | step s rest => .step s.prompt rest.prompt
  | field route hroute inner rest => .field route hroute inner.prompt rest.prompt

theorem plan_prompt (tree : Tree type) : tree.prompt.plan = tree.plan.prompt := by
  induction tree with
  | finish => rfl
  | step s rest ih => simp [prompt, plan, Plan.prompt, ih]
  | field route hroute inner rest ihInner ihRest =>
      simp [prompt, plan, Plan.prompt, ihInner, ihRest]

theorem steps_prompt (tree : Tree type) : tree.prompt.steps = tree.steps.map Step.prompt := by
  induction tree with
  | finish => rfl
  | step s rest ih => simp [prompt, ih]
  | @field type leaf route hroute inner rest ihInner ihRest =>
      have hinner : inner.prompt.run = fun part => (inner.run part).prompt := by
        funext part
        rw [run, ihInner, Step.sequence_map_prompt]
        rfl
      simp [prompt, steps_field, hinner, ihRest, Step.prompt, Route.prompt_update]

theorem run_prompt (tree : Tree type) (value : Carrier type) :
    tree.prompt.run value = (tree.run value).prompt := by
  rw [run, steps_prompt, Step.sequence_map_prompt]
  rfl

end Tree

/-! ## Sanitizers of sessions -/

namespace Goods

def patientRecountStep : Step Nat := .ofAsyncFn fun count => Run.delay 2 (recount count)

def patient : List (Call Goods) :=
  [.new order, .property 0 countPath, .append count 1 (.ok patientRecountStep),
    .append order 0 (.ok renumberStep)]

def patientTree : Tree order :=
  .step renumberStep
    (.field countRoute countRoute_length_pos (.step patientRecountStep .finish) .finish)

end Goods

variable [DecidableEq Ty]

namespace Session

/--
Waiting for a sanitizer and polling it give the outcome of the tree and its reports in
order, as the plan whose steps never suspend does.  A poll finds it pending where the
step at work has paused, with nothing begun of what comes later.
-/
theorem suspensions_do_not_show (calls : List (Call Ty)) {builder : Builder type}
    (hknown : ⟨type, builder⟩ ∈ (after calls).handles) :
    ∃ tree, Describes (after calls).record builder tree ∧
      ∀ (sanitizer : Sanitizer type), sanitizer.plan = (after calls).bench.compile builder →
      ∀ value,
        sanitizer.sanitize value =
          ((tree.acts value).flatMap Act.events, (tree.run value).result) ∧
        (sanitizer.sanitizeAsync value).Completes (sanitizer.sanitizeAsync value).polls.1
          (sanitizer.sanitizeAsync value).polls.2 ∧
        (sanitizer.sanitizeAsync value).polls.1.flatten = (sanitizer.sanitize value).1 ∧
        (sanitizer.sanitizeAsync value).polls.2 = (sanitizer.sanitize value).2 ∧
        ((⟨sanitizer.plan.prompt⟩ : Sanitizer type).sanitizeAsync value).poll =
          ((sanitizer.sanitize value).1, .ready (sanitizer.sanitize value).2) ∧
        (⟨sanitizer.plan.prompt⟩ : Sanitizer type).sanitize value = sanitizer.sanitize value ∧
        (∀ events rest, (sanitizer.sanitizeAsync value).Pauses events rest →
          tree.Waits value events rest) ∧
        ∀ earlier execution (place : Route type execution.type) later done left,
          tree.Stands 0 value earlier execution place later → execution.run.Pauses done left →
          ∃ rest, (sanitizer.sanitizeAsync value).Pauses
            (earlier.flatMap Act.events ++ done) rest := by
  obtain ⟨tree, hdescribes⟩ := exists_describes hknown
  refine ⟨tree, hdescribes, ?_⟩
  rintro ⟨plan⟩ hplan value
  obtain rfl : plan = tree.plan := hplan.trans (compile_eq_plan hknown hdescribes)
  have hrun : (⟨tree.plan⟩ : Sanitizer type).sanitizeAsync value = tree.run value :=
    tree.run_plan value
  have hprompt : (⟨tree.plan.prompt⟩ : Sanitizer type).sanitizeAsync value =
      (tree.run value).prompt := by
    rw [← tree.run_prompt, ← tree.prompt.run_plan, tree.plan_prompt]
    rfl
  have hacts : (tree.run value).events = (tree.acts value).flatMap Act.events :=
    tree.events_sequence 0 value
  have hcompletes := Run.completes_polls (tree.run value)
  obtain ⟨hevents, hresult⟩ := hcompletes.eq
  simp only [Sanitizer.sanitize, Run.drive, hrun, hprompt]
  refine ⟨?_, hcompletes, hevents, hresult, Run.poll_prompt _, ?_, ?_, ?_⟩
  · rw [hacts]
  · rw [Run.events_prompt, Run.result_prompt]
  · intro events rest hpauses
    exact Tree.waits_of_pauses hpauses
  · intro earlier execution place later done left hstands hleft
    exact hstands.exists_pauses hleft

theorem suspensions_do_not_show_patient :
    ⟨.order, ⟨0⟩⟩ ∈ (after Goods.patient).handles ∧
      Goods.patientTree.plan = (after Goods.patient).bench.compile (⟨0⟩ : Builder Goods.order) ∧
      (⟨Goods.patientTree.plan⟩ : Sanitizer Goods.order).sanitize ⟨7, ⟨5⟩⟩ =
        ([.applying "Order" 0 "renumber", .applying "Order" 1 "field:item.count",
          .read "Order" "item" false, .read "Item" "count" false,
          .applying "usize" 0 "async_fn", .note "recount",
          .write "Item" "count" false, .write "Order" "item" false],
          .failed ⟨0, ⟨6⟩⟩ (.custom "too many")) ∧
      ∃ rest, Goods.patientTree.Waits ⟨7, ⟨5⟩⟩
          [.applying "Order" 0 "renumber", .applying "Order" 1 "field:item.count",
            .read "Order" "item" false, .read "Item" "count" false,
            .applying "usize" 0 "async_fn"] rest ∧
        rest.events =
          [.note "recount", .write "Item" "count" false, .write "Order" "item" false] ∧
        rest.result = .failed ⟨0, ⟨6⟩⟩ (.custom "too many") := by
  have hknown : ⟨.order, ⟨0⟩⟩ ∈ (after Goods.patient).handles := List.mem_cons_self
  have hpatient : Describes (after Goods.patient).record (⟨0⟩ : Builder Goods.order)
      Goods.patientTree := .step (.field Goods.countPath_denotes (.step .finish) .finish)
  have hplan := compile_eq_plan hknown hpatient
  obtain ⟨tree, hdescribes, hruns⟩ := suspensions_do_not_show Goods.patient hknown
  obtain rfl : tree = Goods.patientTree := hdescribes.unique hpatient
  obtain ⟨hsanitize, -, -, -, -, -, hwaits, hstops⟩ :=
    hruns ⟨Goods.patientTree.plan⟩ hplan.symm ⟨7, ⟨5⟩⟩
  have hwork : Goods.patientTree.Stands 0 ⟨7, ⟨5⟩⟩
      [.report (.applying "Order" 0 "renumber"), .work ⟨.order, Goods.renumberStep, ⟨7, ⟨5⟩⟩⟩,
        .report (.applying "Order" 1 "field:item.count"), .report (.read "Order" "item" false),
        .report (.read "Item" "count" false), .report (.applying "usize" 0 "async_fn")]
      ⟨.count, Goods.patientRecountStep, (5 : Nat)⟩ Goods.countRoute _ :=
    .pastStep rfl (.inField .atStep)
  obtain ⟨rest, hpauses⟩ := hstops _ _ _ _ [] _ hwork (.now rfl)
  obtain ⟨hevents, hresult⟩ := Prod.mk.inj hsanitize
  obtain ⟨hleft, hend⟩ := hpauses.eq
  refine ⟨hknown, hplan.symm, hsanitize, rest, hwaits _ _ hpauses, ?_, hend.symm.trans hresult⟩
  exact List.append_cancel_left (hleft.symm.trans hevents)

end Session

end ValuePipeline
