import ValuePipeline.Proofs.Meaning

/-!
# What is executed

A run reports announcements and accesses of its own, and between them it executes
steps, those of the fields included, each on the value that stands at its place by
then.  If the run fails, a step that was executed has failed, and nothing came after
it but the write-backs of the fields around it.  A resolved chain adds no failure of
its own, so this holds of every plan that is built.
-/

namespace ValuePipeline

variable {Ty : Type} [TypeCode Ty] {type root leaf : Ty}

structure Execution (Ty : Type) [TypeCode Ty] where
  type : Ty
  step : Step (Carrier type)
  value : Carrier type

namespace Execution

def run (execution : Execution Ty) : Run (Outcome (Carrier execution.type)) :=
  execution.step.apply execution.value

def failure (execution : Execution Ty) : Option Failure := execution.run.result.failure

end Execution

inductive Act (Ty : Type) [TypeCode Ty] where
  | report (event : Event)
  | work (execution : Execution Ty)

namespace Act

def events : Act Ty → List Event
  | report event => [event]
  | work execution => execution.run.events

def execution? : Act Ty → Option (Execution Ty)
  | report _ => none
  | work execution => some execution

@[simp] theorem flatMap_events_report (events : List Event) :
    (events.map (report : Event → Act Ty)).flatMap Act.events = events := by
  induction events with
  | nil => rfl
  | cons event events ih => simp [Act.events, ih]

@[simp] theorem filterMap_execution?_report (events : List Event) :
    (events.map (report : Event → Act Ty)).filterMap execution? = [] := by
  simp [List.filterMap_eq_nil_iff, execution?]

end Act

def Outcome.followedBy {α β : Type} (outcome : Outcome α) (next : α → List β) : List β :=
  match outcome.failure with
  | some _ => []
  | none => next outcome.value

namespace Tree

def actsFrom {type : Ty} : Tree type → Nat → Carrier type → List (Act Ty)
  | finish, _, _ => []
  | step s rest, index, value =>
      .report (.applying (TypeCode.name type) index s.name) :: .work ⟨type, s, value⟩ ::
        (s.apply value).result.followedBy fun changed => rest.actsFrom (index + 1) changed
  | field route _ inner rest, index, value =>
      .report (.applying (TypeCode.name type) index (Plan.fieldLabel route.chain)) ::
        (route.reads.map .report ++ inner.actsFrom 0 (route.get value) ++
          route.writes.map .report ++
          (inner.run (route.get value)).result.followedBy fun changed =>
            rest.actsFrom (index + 1) (route.set value changed))

def acts (tree : Tree type) (value : Carrier type) : List (Act Ty) := tree.actsFrom 0 value

theorem events_sequence (tree : Tree type) (index : Nat) (value : Carrier type) :
    (Step.sequence type index tree.steps value).events =
      (tree.actsFrom index value).flatMap Act.events := by
  induction tree generalizing index with
  | finish => rfl
  | step s rest ih =>
      simp only [steps_step, Step.sequence, actsFrom, Outcome.followedBy, Run.events_bind,
        Run.events_tell, List.flatMap_cons, Act.events, Execution.run,
        List.singleton_append]
      cases (s.apply value).result.failure with
      | none => rw [ih]
      | some failure => rfl
  | field route hroute inner rest ihInner ihRest =>
      have hinner : (inner.run (route.get value)).events =
          (inner.actsFrom 0 (route.get value)).flatMap Act.events := ihInner 0 _
      simp only [steps_field, Step.sequence, actsFrom, Outcome.followedBy, Run.events_bind,
        Run.events_tell, Route.events_update, Route.result_update,
        List.flatMap_cons, List.flatMap_append, Act.events, Act.flatMap_events_report, hinner,
        List.singleton_append]
      cases (inner.run (route.get value)).result.failure with
      | none => rw [ihRest]
      | some failure => rfl

/-! ## How a run ends -/

/--
Without a failure, none of the executed steps has failed.  With one, it is that of the
last of them, which nothing but reports comes after.
-/
def Ends (acts : List (Act Ty)) : Option Failure → Prop
  | none => ∀ execution, .work execution ∈ acts → execution.failure = none
  | some failure => ∃ earlier last, ∃ reports : List Event,
      acts = earlier ++ .work last :: reports.map .report ∧
      (∀ execution, .work execution ∈ earlier → execution.failure = none) ∧
      last.failure = some failure

namespace Ends

variable {acts later : List (Act Ty)} {failure : Option Failure}

theorem append (hacts : Ends acts none) (hlater : Ends later failure) :
    Ends (acts ++ later) failure := by
  cases failure with
  | none =>
      intro execution hexecution
      rcases List.mem_append.mp hexecution with h | h
      · exact hacts execution h
      · exact hlater execution h
  | some failure =>
      obtain ⟨earlier, last, reports, rfl, hearlier, hlast⟩ := hlater
      refine ⟨acts ++ earlier, last, reports, by simp, ?_, hlast⟩
      intro execution hexecution
      rcases List.mem_append.mp hexecution with h | h
      · exact hacts execution h
      · exact hearlier execution h

theorem reports (events : List Event) : Ends (events.map (.report : Event → Act Ty)) none := by
  intro execution hexecution
  simp at hexecution

theorem append_reports (hacts : Ends acts failure) (events : List Event) :
    Ends (acts ++ events.map .report) failure := by
  cases failure with
  | none => exact append hacts (reports events)
  | some failure =>
      obtain ⟨earlier, last, reports, rfl, hearlier, hlast⟩ := hacts
      exact ⟨earlier, last, reports ++ events, by simp, hearlier, hlast⟩

theorem work (execution : Execution Ty) : Ends [.work execution] execution.failure := by
  cases hfailure : execution.failure with
  | none => simpa [Ends] using hfailure
  | some failure => exact ⟨[], execution, [], rfl, by simp, hfailure⟩

end Ends

theorem ends_actsFrom (tree : Tree type) (index : Nat) (value : Carrier type) :
    Ends (tree.actsFrom index value) (tree.run value).result.failure := by
  induction tree generalizing index with
  | finish => simp [Ends, actsFrom, result_run, Step.leave, Outcome.ok]
  | @step type s rest ih =>
      have hannounced : Ends ([.applying (TypeCode.name type) index s.name].map
          (.report : Event → Act Ty)) none := Ends.reports _
      have hworked := Ends.work (⟨_, s, value⟩ : Execution Ty)
      rw [Execution.failure, Execution.run] at hworked
      simp only [result_run, steps_step, Step.leave, actsFrom, Outcome.followedBy] at ih ⊢
      cases hs : (s.apply value).result.failure with
      | some failure =>
          rw [hs] at hworked
          simp only [hs]
          exact hannounced.append hworked
      | none =>
          rw [hs] at hworked
          exact hannounced.append (hworked.append (ih (index + 1) _))
  | @field type leaf route hroute inner rest ihInner ihRest =>
      have hbefore : Ends ((.applying (TypeCode.name type) index (Plan.fieldLabel route.chain) ::
          route.reads).map (.report : Event → Act Ty)) none := Ends.reports _
      have hthrough := (hbefore.append (ihInner 0 (route.get value))).append_reports route.writes
      simp only [actsFrom, Outcome.followedBy, result_run, steps_field, Step.leave,
        Route.result_update] at hthrough ihRest ⊢
      cases hfailure : (Step.leave inner.steps (route.get value)).failure with
      | some failure =>
          rw [hfailure] at hthrough
          simp only [List.append_nil]
          exact hthrough
      | none =>
          rw [hfailure] at hthrough
          exact hthrough.append (ihRest (index + 1) _)

end Tree

/-! ## Failures of built plans -/

variable [DecidableEq Ty]

/--
The chain leads somewhere, no check on the way ever fails, and a change along the
chain fails as the change of its leaf does.
-/
def Chain.AddsNoFailure (chain : Chain root leaf) : Prop :=
  chain.isEmpty = false ∧ ∃ route : Route root leaf, chain.fields = route.fields ∧
    ∀ (change : Carrier leaf → Run (Outcome (Carrier leaf))) (whole : Carrier root),
      throughFields (chain.atLeaf change) chain.fields ⟨root, whole⟩ =
        ExceptT.lift (Outcome.pack root <$> chain.update change whole) ∧
      (chain.update change whole).result.failure = (change (route.get whole)).result.failure

theorem addsNoFailure_of_resolve {path : PathExpression root leaf} {chain : Chain root leaf}
    (hresolve : resolve path = .ok chain) : chain.AddsNoFailure := by
  obtain ⟨route, hdenotes, rfl⟩ := resolve_eq_ok_iff.mp hresolve
  refine ⟨Route.isEmpty_chain hdenotes.1, route, rfl, fun change whole => ⟨?_, ?_⟩⟩
  · rw [Chain.update_chain hdenotes.1]
    exact Chain.throughFields_fields route (route.chain.atLeaf_pack change) whole
  · rw [Chain.update_chain hdenotes.1, Route.result_update]

namespace Session

/--
Resolved chains add no failure, and a run of a compiled builder has none but that of
the last step it has executed.
-/
theorem failures_are_of_steps :
    (∀ {root leaf : Ty} {path : PathExpression root leaf} {chain : Chain root leaf},
      resolve path = .ok chain → chain.AddsNoFailure) ∧
    ∀ (calls : List (Call Ty)) {type : Ty} {builder : Builder type},
      ⟨type, builder⟩ ∈ (after calls).handles →
      ∃ tree, Describes (after calls).record builder tree ∧ ∀ value,
        (((after calls).bench.compile builder).run value).events =
          (tree.acts value).flatMap Act.events ∧
        Tree.Ends (tree.acts value)
          (((after calls).bench.compile builder).run value).result.failure := by
  refine ⟨addsNoFailure_of_resolve, ?_⟩
  intro calls type builder hknown
  obtain ⟨tree, hdescribes⟩ := exists_describes hknown
  refine ⟨tree, hdescribes, fun value => ?_⟩
  rw [compile_eq_plan hknown hdescribes, tree.run_plan]
  exact ⟨tree.events_sequence 0 value, tree.ends_actsFrom 0 value⟩

theorem failures_are_of_steps_fieldFirst :
    Goods.countRoute.chain.AddsNoFailure ∧
      ∃ tree, Describes (after Goods.fieldFirst).record (⟨0⟩ : Builder Goods.order) tree ∧
        Tree.Ends (tree.acts ⟨7, ⟨5⟩⟩) (some (.custom "too many")) := by
  obtain ⟨hresolved, hcompiled⟩ := @failures_are_of_steps Goods _ _
  have hresolve : resolve Goods.countPath = .ok Goods.countRoute.chain := rfl
  have hknown : ⟨.order, ⟨0⟩⟩ ∈ (after Goods.fieldFirst).handles := List.mem_cons_self
  have hcount : Goods.countPath.Denotes Goods.countRoute := ⟨by decide, _, rfl, rfl⟩
  have hplan : (after Goods.fieldFirst).bench.compile (⟨0⟩ : Builder Goods.order) =
      Goods.fieldFirstTree.plan :=
    compile_eq_plan hknown (.step (.field hcount (.step .finish) .finish))
  obtain ⟨tree, hdescribes, hruns⟩ := hcompiled Goods.fieldFirst hknown
  have hends := (hruns ⟨7, ⟨5⟩⟩).2
  rw [hplan, Tree.run_plan] at hends
  exact ⟨hresolved hresolve, tree, hdescribes, hends⟩

end Session

end ValuePipeline
