import ValuePipeline.Proofs.Session

/-!
# What a built plan means

The meaning of a builder is the run of the tree that the record of the session
describes for it.  A plan that is built at some point of a session runs as the
builder's tree of that point does, whatever is called later.

The tree depends on two lists for each builder only: the steps appended to it and
the paths registered on it.  How the calls that made these lists were mixed with each
other and with calls for other builders plays no part, so sessions in which builders
correspond in both lists build plans that run alike.
-/

namespace ValuePipeline

variable {Ty : Type} [TypeCode Ty] [DecidableEq Ty] {type : Ty}

/-! ## Sessions that differ in the order of calls -/

inductive Registration.Twins (Twin : ∀ {type : Ty}, Builder type → Builder type → Prop) :
    Registration type → Registration type → Prop where
  | intro {leaf : Ty} {path : PathExpression type leaf} {child twin : Builder leaf}
      (htwin : Twin child twin) : Twins Twin ⟨leaf, path, child⟩ ⟨leaf, path, twin⟩

/--
Corresponding builders were given the same steps in the same order, and the same
paths in the same order with builders for them that correspond again.
-/
structure Corresponds (first second : List (Deed Ty))
    (Twin : ∀ {type : Ty}, Builder type → Builder type → Prop) : Prop where
  steps : ∀ {type : Ty} {builder twin : Builder type}, Twin builder twin →
    stepsOn first builder = stepsOn second twin
  fields : ∀ {type : Ty} {builder twin : Builder type}, Twin builder twin →
    List.Forall₂ (Registration.Twins Twin) (fieldsOn first builder) (fieldsOn second twin)

theorem Grown.twin {first second : List (Deed Ty)}
    {Twin : ∀ {type : Ty}, Builder type → Builder type → Prop}
    (hcorresponds : Corresponds first second Twin) {steps : List (Step (Carrier type))}
    {fields twins : List (Registration type)} {tree : Tree type}
    (hgrown : Grown first steps fields tree)
    (htwins : List.Forall₂ (Registration.Twins Twin) fields twins) :
    Grown second steps twins tree := by
  induction hgrown with
  | finish =>
      cases htwins
      exact .finish
  | step hrest ih => exact .step (ih htwins)
  | field hdenotes hinner hrest ihInner ihRest =>
      cases htwins with
      | cons hfirst hrestTwins =>
          obtain ⟨htwin⟩ := hfirst
          have hbelow := ihInner (hcorresponds.fields htwin)
          rw [hcorresponds.steps htwin] at hbelow
          exact .field hdenotes hbelow (ihRest hrestTwins)

theorem Describes.twin {first second : List (Deed Ty)}
    {Twin : ∀ {type : Ty}, Builder type → Builder type → Prop}
    (hcorresponds : Corresponds first second Twin) {builder twin : Builder type}
    (htwin : Twin builder twin) {tree : Tree type} (hdescribes : Describes first builder tree) :
    Describes second twin tree := by
  have hgrown := Grown.twin hcorresponds hdescribes (hcorresponds.fields htwin)
  rw [hcorresponds.steps htwin] at hgrown
  exact hgrown

/-! ## Built plans -/

namespace Session

theorem exists_describes {calls : List (Call Ty)} {builder : Builder type}
    (hknown : ⟨type, builder⟩ ∈ (after calls).handles) :
    ∃ tree, Describes (after calls).record builder tree :=
  have hsound := sound_after calls
  hsound.keeps.exists_describes (hsound.holds _ hknown)

theorem compile_eq_plan {calls : List (Call Ty)} {builder : Builder type}
    (hknown : ⟨type, builder⟩ ∈ (after calls).handles) {tree : Tree type}
    (hdescribes : Describes (after calls).record builder tree) :
    (after calls).bench.compile builder = tree.plan :=
  have hsound := sound_after calls
  hsound.keeps.compile_eq_plan (hsound.holds _ hknown) hdescribes

theorem built_plan {before : List (Call Ty)} {on : Nat} {builder : Builder type}
    (hon : (after before).handles[on]? = some ⟨type, builder⟩) (later : List (Call Ty)) :
    (after (before ++ .build on :: later)).plans[(after before).plans.length]? =
      some ⟨type, (after before).bench.compile builder⟩ := by
  have hprefix := plans_isPrefix_foldl ((after before).perform (.build on)) later
  obtain ⟨more, hmore⟩ := hprefix
  rw [after_append, List.foldl_cons, ← hmore, perform_build hon]
  simp [keepPlan]

/--
A built plan runs as the tree of its builder: the steps that were appended to it, and
then the paths that were registered on it, whatever the order of the calls was and
whatever is called later.
-/
theorem built_plan_runs_as_described (before later : List (Call Ty)) {on : Nat}
    {builder : Builder type} (hon : (after before).handles[on]? = some ⟨type, builder⟩) :
    ∃ plan : Plan type,
      (after (before ++ .build on :: later)).plans[(after before).plans.length]? =
        some ⟨type, plan⟩ ∧
      (∃ tree, Describes (after before).record builder tree) ∧
      (∀ tree, Describes (after before).record builder tree →
        ∀ value, plan.run value = tree.run value) ∧
      ∀ (others : List (Call Ty)) (Twin : ∀ {type : Ty}, Builder type → Builder type → Prop)
        (twin : Builder type),
        Corresponds (after before).record (after others).record Twin →
        Twin builder twin → ⟨type, twin⟩ ∈ (after others).handles →
        ∀ value, ((after others).bench.compile twin).run value = plan.run value := by
  have hknown := List.mem_of_getElem? hon
  have hplan : ∀ tree, Describes (after before).record builder tree →
      ∀ value, ((after before).bench.compile builder).run value = tree.run value := by
    intro tree hdescribes value
    rw [compile_eq_plan hknown hdescribes, tree.run_plan]
  refine ⟨(after before).bench.compile builder, built_plan hon later,
    exists_describes hknown, hplan, ?_⟩
  intro others Twin twin hcorresponds htwin htwinKnown value
  obtain ⟨tree, hdescribes⟩ := exists_describes hknown
  rw [hplan tree hdescribes, compile_eq_plan htwinKnown (hdescribes.twin hcorresponds htwin),
    tree.run_plan]

theorem fieldFirst_corresponds_stepFirst :
    Corresponds (after Goods.fieldFirst).record (after Goods.stepFirst).record
      Goods.Counterparts where
  steps := by
    rintro type builder twin (_ | _)
    · rfl
    · rfl
  fields := by
    rintro type builder twin (_ | _)
    · exact .cons (.intro .count) .nil
    · exact .nil

theorem built_plan_runs_as_described_fieldFirst :
    (after Goods.fieldFirst).handles[0]? = some ⟨.order, ⟨0⟩⟩ ∧
      ∃ plan : Plan Goods.order,
        (after (Goods.fieldFirst ++
          [.build 0, .append .order 0 (.ok Goods.renumberStep)])).plans[0]? =
            some ⟨.order, plan⟩ ∧
        ∀ value, ((after Goods.stepFirst).bench.compile (⟨0⟩ : Builder Goods.order)).run value =
          plan.run value := by
  have hon : (after Goods.fieldFirst).handles[0]? = some ⟨.order, ⟨0⟩⟩ := rfl
  obtain ⟨plan, hplan, -, -, hothers⟩ := built_plan_runs_as_described Goods.fieldFirst
    [.append .order 0 (.ok Goods.renumberStep)] hon
  have hcounterparts := hothers Goods.stepFirst Goods.Counterparts ⟨0⟩
    fieldFirst_corresponds_stepFirst .order
  exact ⟨hon, plan, hplan, hcounterparts List.mem_cons_self⟩

end Session

end ValuePipeline
