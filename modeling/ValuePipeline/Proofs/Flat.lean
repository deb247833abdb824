import ValuePipeline.Proofs.Execution

/-!
# Trees laid flat

A step below a field can be lifted to the root on its own: it gets its part along
the full route, changes it, and sets it along the full route.  The steps of a tree,
lifted one by one, leave what the run of the tree leaves, if the fields keep the laws
of getters and setters.

A field holds its part apart from the whole while the tree below it runs, and sets it
once at the end.  The lifted steps set it every time and get it again for the next
step.  By the laws of the fields it is the same part, also when two fields lead to
places of which one is inside the other: each step meets what all the steps before
have left of the whole.
-/

namespace ValuePipeline

variable {Ty : Type} [TypeCode Ty] {type root middle leaf : Ty}

structure Placed (root : Ty) where
  node : Ty
  place : Route root node
  step : Step (Carrier node)

namespace Placed

def lift (placed : Placed root) : Step (Carrier root) :=
  ⟨placed.step.name, placed.place.update placed.step.apply⟩

def under (route : Route root middle) (placed : Placed middle) : Placed root :=
  ⟨placed.node, route.trans placed.place, placed.step⟩

/-- The lifted steps that are run, each with what stands at its place by then. -/
def executed : List (Placed root) → Carrier root → List (Execution Ty)
  | [], _ => []
  | placed :: rest, whole =>
      ⟨placed.node, placed.step, placed.place.get whole⟩ ::
        (placed.lift.apply whole).result.followedBy (executed rest)

theorem lift_stay (step : Step (Carrier root)) : (Placed.mk root .stay step).lift = step := by
  have hupdate : (Route.stay : Route root root).update step.apply = step.apply :=
    funext (Route.update_stay step.apply)
  rw [lift, hupdate]

theorem result_lift_under (route : Route root middle) (placed : Placed middle)
    (whole : Carrier root) :
    ((placed.under route).lift.apply whole).result =
      ⟨route.set whole (placed.lift.apply (route.get whole)).result.value,
        (placed.lift.apply (route.get whole)).result.failure⟩ := by
  simp [lift, under]

/-! ## Steps below one field -/

theorem leave_under {route : Route root middle} (hlawful : route.Lawful)
    (steps : List (Placed middle)) (whole : Carrier root) :
    Step.leave ((steps.map (under route)).map lift) whole =
      ⟨route.set whole (Step.leave (steps.map lift) (route.get whole)).value,
        (Step.leave (steps.map lift) (route.get whole)).failure⟩ := by
  induction steps generalizing whole with
  | nil => simp [Step.leave, Outcome.ok, hlawful.set_get]
  | cons placed steps ih =>
      simp only [List.map_cons, Step.leave, result_lift_under]
      cases hstep : (placed.lift.apply (route.get whole)).result.failure with
      | some failure => simp only [hstep]
      | none => simp only [ih, hlawful.get_set, hlawful.set_set]

theorem executed_under {route : Route root middle} (hlawful : route.Lawful)
    (steps : List (Placed middle)) (whole : Carrier root) :
    executed (steps.map (under route)) whole = executed steps (route.get whole) := by
  induction steps generalizing whole with
  | nil => rfl
  | cons placed steps ih =>
      simp only [List.map_cons, executed, Outcome.followedBy, result_lift_under]
      cases (placed.lift.apply (route.get whole)).result.failure with
      | some failure => simp [under]
      | none =>
          rw [ih, hlawful.get_set]
          simp [under]

theorem executed_append (first second : List (Placed root)) (whole : Carrier root) :
    executed (first ++ second) whole =
      executed first whole ++
        (Step.leave (first.map lift) whole).followedBy (executed second) := by
  induction first generalizing whole with
  | nil => rfl
  | cons placed first ih =>
      simp only [List.cons_append, executed, List.map_cons, Step.leave, Outcome.followedBy] at ih ⊢
      cases hstep : (placed.lift.apply whole).result.failure with
      | some failure => simp [hstep]
      | none => simp [ih]

end Placed

/-! ## All steps of a tree -/

namespace Tree

/-- The steps of the node, then those below each field, as they stand from the root. -/
def flatten {type : Ty} : Tree type → List (Placed type)
  | finish => []
  | step s rest => ⟨type, .stay, s⟩ :: rest.flatten
  | field route _ inner rest => inner.flatten.map (Placed.under route) ++ rest.flatten

def Lawful {type : Ty} : Tree type → Prop
  | finish => True
  | step _ rest => rest.Lawful
  | field route _ inner rest => route.Lawful ∧ inner.Lawful ∧ rest.Lawful

theorem leave_flatten {tree : Tree type} (hlawful : tree.Lawful) (value : Carrier type) :
    Step.leave (tree.flatten.map Placed.lift) value = Step.leave tree.steps value := by
  induction tree with
  | finish => rfl
  | step s rest ih =>
      simp only [flatten, List.map_cons, steps_step, Step.leave, Placed.lift_stay, ih hlawful]
  | field route hroute inner rest ihInner ihRest =>
      obtain ⟨hfield, hinner, hrest⟩ := hlawful
      simp only [flatten, List.map_append, Step.leave_append, Placed.leave_under hfield,
        ihInner hinner, steps_field, Step.leave, Route.result_update, result_run]
      cases (Step.leave inner.steps (route.get value)).failure with
      | some failure => rfl
      | none => exact ihRest hrest _

theorem executions_actsFrom {tree : Tree type} (hlawful : tree.Lawful) (index : Nat)
    (value : Carrier type) :
    (tree.actsFrom index value).filterMap Act.execution? =
      Placed.executed tree.flatten value := by
  induction tree generalizing index with
  | finish => rfl
  | step s rest ih =>
      simp only [actsFrom, flatten, Placed.executed, Outcome.followedBy, Placed.lift_stay,
        Route.get, List.filterMap_cons, Act.execution?]
      cases (s.apply value).result.failure with
      | some failure => rfl
      | none => simp only [ih hlawful]
  | field route hroute inner rest ihInner ihRest =>
      obtain ⟨hfield, hinner, hrest⟩ := hlawful
      simp only [actsFrom, flatten, Placed.executed_append, Placed.executed_under hfield,
        Placed.leave_under hfield, leave_flatten hinner, List.filterMap_cons, Act.execution?,
        List.filterMap_append, Act.filterMap_execution?_report, List.nil_append,
        List.append_nil, ihInner hinner, Outcome.followedBy, result_run]
      cases (Step.leave inner.steps (route.get value)).failure with
      | some failure => rfl
      | none => simp only [ihRest hrest]

end Tree

/-! ## An item and its count on one builder -/

namespace Goods

def restockStep : Step Item := .total "restock" fun item => ⟨item.count + 1⟩

def overlapping : List (Call Goods) :=
  [.new order, .property 0 countPath, .property 0 itemPath, .append item 2 (.ok restockStep),
    .append count 1 (.ok doubleStep)]

def overlappingTree : Tree order :=
  .field countRoute countRoute_length_pos (.step doubleStep .finish)
    (.field itemRoute itemRoute_length_pos (.step restockStep .finish) .finish)

end Goods

/-! ## Compiled builders -/

variable [DecidableEq Ty]

namespace Session

/--
Over lawful fields a compiled builder leaves what its flattened steps leave, lifted to
the root one by one, and executes each of them on what they have left at its place.
-/
theorem compile_runs_flattened {calls : List (Call Ty)} {builder : Builder type}
    (hknown : ⟨type, builder⟩ ∈ (after calls).handles) :
    (∃ tree, Describes (after calls).record builder tree) ∧
    ∀ tree, Describes (after calls).record builder tree → tree.Lawful → ∀ value,
      (((after calls).bench.compile builder).run value).result =
        (Step.sequence type 0 (tree.flatten.map Placed.lift) value).result ∧
      (((after calls).bench.compile builder).run value).events =
        (tree.acts value).flatMap Act.events ∧
      (tree.acts value).filterMap Act.execution? = Placed.executed tree.flatten value := by
  refine ⟨exists_describes hknown, fun tree hdescribes hlawful value => ?_⟩
  rw [compile_eq_plan hknown hdescribes, tree.run_plan, Step.result_sequence,
    Tree.leave_flatten hlawful, tree.result_run]
  exact ⟨rfl, tree.events_sequence 0 value, Tree.executions_actsFrom hlawful 0 value⟩

theorem compile_runs_flattened_overlapping :
    Describes (after Goods.overlapping).record (⟨0⟩ : Builder Goods.order) Goods.overlappingTree ∧
      Goods.overlappingTree.Lawful ∧
      (((after Goods.overlapping).bench.compile (⟨0⟩ : Builder Goods.order)).run ⟨7, ⟨5⟩⟩).result =
        .ok ⟨7, ⟨11⟩⟩ := by
  have hknown : ⟨.order, ⟨0⟩⟩ ∈ (after Goods.overlapping).handles := List.mem_cons_self
  have hdescribes : Describes (after Goods.overlapping).record (⟨0⟩ : Builder Goods.order)
      Goods.overlappingTree := by
    have hcount : Goods.countPath.Denotes Goods.countRoute := ⟨by decide, _, rfl, rfl⟩
    have hitem : Goods.itemPath.Denotes Goods.itemRoute := ⟨by decide, _, rfl, rfl⟩
    exact .field hcount (.step .finish) (.field hitem (.step .finish) .finish)
  have hlawful : Goods.overlappingTree.Lawful :=
    ⟨⟨Goods.itemField_lawful, Goods.countField_lawful, trivial⟩, trivial,
      ⟨Goods.itemField_lawful, trivial⟩, trivial, trivial⟩
  obtain ⟨-, hruns⟩ := compile_runs_flattened hknown
  obtain ⟨hresult, -, -⟩ := hruns Goods.overlappingTree hdescribes hlawful ⟨7, ⟨5⟩⟩
  exact ⟨hdescribes, hlawful, hresult⟩

end Session

end ValuePipeline
