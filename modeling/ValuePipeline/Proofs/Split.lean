import ValuePipeline.Proofs.Branch
import ValuePipeline.Proofs.Execution

/-!
# Paths in stages

A path can be registered at once, or in two stages: its first fields on the root, and
the others on the builder that this gives.  Each stage goes down and comes back with
the change of the other between, so the fields are read and written in the same order,
also when a step at the leaf fails.  No law of the accessors is needed: they are used in
the same way.  All that differs is that the second stage is announced.
-/

namespace ValuePipeline

variable {Ty : Type} [TypeCode Ty] {type root middle leaf : Ty}

/-! ## Trees that run alike -/

namespace Act

/-- Accesses, and steps that are executed; only the announcements are not. -/
def isEffect : Act Ty → Bool
  | report (.applying _ _ _) => false
  | _ => true

theorem filter_reads (route : Route root leaf) :
    (route.reads.map (report : Event → Act Ty)).filter isEffect = route.reads.map report := by
  rw [List.filter_eq_self]
  simp [Route.reads, Descriptor.readEvent, isEffect]

theorem filter_writes (route : Route root leaf) :
    (route.writes.map (report : Event → Act Ty)).filter isEffect = route.writes.map report := by
  rw [List.filter_eq_self]
  simp [Route.writes, Descriptor.writeEvent, isEffect]

end Act

theorem Outcome.followedBy_nil {α β : Type} (outcome : Outcome α) :
    (outcome.followedBy fun _ => ([] : List β)) = [] := by
  cases h : outcome.failure <;> simp [followedBy, h]

theorem Step.sequence_singleton (index : Nat) (step : Step (Carrier type)) (value : Carrier type) :
    sequence type index [step] value = (do
      Run.tell (.applying (TypeCode.name type) index step.name)
      step.apply value) := by
  have happly := bind_pure (step.apply value)
  rw [sequence, ← happly]
  simp only [bind_assoc, pure_bind]
  congr 1
  funext _
  congr 1
  funext outcome
  obtain ⟨left, failure⟩ := outcome
  cases failure <;> rfl

theorem Step.quiet_sequence_cons (step : Step (Carrier type))
    {steps others : List (Step (Carrier type))}
    (hrest : ∀ index value,
      (sequence type index steps value).quiet = (sequence type index others value).quiet)
    (index : Nat) (value : Carrier type) :
    (sequence type index (step :: steps) value).quiet =
      (sequence type index (step :: others) value).quiet := by
  simp only [sequence, Run.quiet_bind]
  congr 1
  funext _
  congr 1
  funext outcome
  cases outcome.failure with
  | none => exact hrest (index + 1) outcome.value
  | some failure => rfl

theorem Route.quiet_update (route : Route root leaf)
    {change other : Carrier leaf → Run (Outcome (Carrier leaf))}
    (hchange : ∀ part, (change part).quiet = (other part).quiet) (whole : Carrier root) :
    (route.update change whole).quiet = (route.update other whole).quiet := by
  simp only [update, Run.quiet_bind, hchange]

namespace Tree

/-- Runs of the two trees differ in announcements only, from whatever number they count. -/
structure Alike (one other : Tree type) : Prop where
  runs : ∀ index value, (Step.sequence type index one.steps value).quiet =
    (Step.sequence type index other.steps value).quiet
  acts : ∀ index value, (one.actsFrom index value).filter Act.isEffect =
    (other.actsFrom index value).filter Act.isEffect

namespace Alike

variable {one other : Tree type}

theorem step (halike : one.Alike other) (s : Step (Carrier type)) :
    Alike (.step s one) (.step s other) where
  runs := Step.quiet_sequence_cons s halike.runs
  acts index value := by
    simp only [actsFrom, Outcome.followedBy, List.filter_cons]
    cases (s.apply value).result.failure with
    | none => simp only [halike.acts]
    | some failure => rfl

theorem toTree (halike : one.Alike other) (branch : Branch type) :
    Alike (branch.toTree one) (branch.toTree other) where
  runs := Step.quiet_sequence_cons branch.step halike.runs
  acts index value := by
    simp only [Branch.toTree, actsFrom, Outcome.followedBy, List.filter_cons, List.filter_append]
    cases (branch.inner.run (branch.route.get value)).result.failure with
    | none => simp only [halike.acts]
    | some failure => rfl

theorem node {last twin : Branch type} (halike : Alike (last.toTree .finish) (twin.toTree .finish))
    (steps : List (Step (Carrier type))) (branches : List (Branch type)) :
    Alike (.node steps (branches ++ [last])) (.node steps (branches ++ [twin])) := by
  induction steps with
  | cons s steps ih => exact ih.step s
  | nil =>
      induction branches with
      | nil => exact halike
      | cons branch branches ih => exact ih.toTree branch

theorem split {first : Route root middle} {second : Route middle leaf}
    (hwhole : 0 < (first.trans second).length) (hfirst : 0 < first.length)
    (hsecond : 0 < second.length) (inner : Tree leaf) :
    Alike (Branch.toTree ⟨leaf, first.trans second, hwhole, inner⟩ .finish)
      (Branch.toTree ⟨middle, first, hfirst, .node [] [⟨leaf, second, hsecond, inner⟩]⟩
        .finish) where
  runs index value := by
    have hstage : ∀ part, (second.update inner.run part).quiet =
        ((Tree.node [] [⟨leaf, second, hsecond, inner⟩]).run part).quiet := by
      intro part
      simp only [run, node_cons_branch, Branch.toTree, steps_field, node_nil, steps_finish,
        Step.sequence_singleton, Run.quiet_bind, Run.quiet_announcement, Run.done_bind]
    simp only [Branch.toTree, steps_field, steps_finish, Step.sequence_singleton, Run.quiet_bind,
      Run.quiet_announcement, Run.done_bind, Route.update_trans]
    exact first.quiet_update hstage value
  acts index value := by
    simp only [Branch.toTree, node_cons_branch, node_nil, actsFrom, Outcome.followedBy_nil,
      Route.reads_trans, Route.writes_trans, Route.get_trans, List.map_append, List.filter_cons,
      List.filter_append, Act.filter_reads, Act.filter_writes, Act.isEffect]
    simp

end Alike

end Tree

end ValuePipeline
