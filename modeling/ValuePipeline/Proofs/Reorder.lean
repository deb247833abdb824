import Mathlib.Data.List.Pairwise
import Mathlib.Data.List.Perm.Basic
import ValuePipeline.Proofs.Apart
import ValuePipeline.Proofs.Branch

/-!
# Branches in another order

Branches that lead to places apart do not get in each other's way: each meets the
part that the node's own steps have left for it, wherever it stands among the others.
So whether all of them succeed is a matter of each alone, and if they do, each has set
at its place what it has made of that part.  If the fields can be set in any order,
the order of the branches is not seen in the value.  Without that it can be seen, also
if no field shows what the setter of another has done.
-/

namespace ValuePipeline

variable {Ty : Type} [TypeCode Ty] {type leaf : Ty}
  {fields : ∀ {owner value : Ty}, OpenField owner value → Prop}

namespace Branch

variable {start whole : Carrier type} {branch : Branch type} {branches : List (Branch type)}

def Over (fields : ∀ {owner value : Ty}, OpenField owner value → Prop) (branch : Branch type) :
    Prop :=
  branch.route.Over fields

def Apart (one other : Branch type) : Prop := one.route.Apart other.route

/-! ## Each on its own part -/

def made (start : Carrier type) (branch : Branch type) : Outcome (Carrier branch.leaf) :=
  (branch.inner.run (branch.route.get start)).result

def settle (start whole : Carrier type) (branch : Branch type) : Carrier type :=
  branch.route.set whole (branch.made start).value

/-- The parts of these branches are still as the start has them. -/
def Fresh (start : Carrier type) (branches : List (Branch type)) (whole : Carrier type) : Prop :=
  ∀ branch ∈ branches, branch.route.get whole = branch.route.get start

theorem Fresh.result_step (hfresh : Fresh start (branch :: branches) whole) :
    (branch.step.apply whole).result =
      ⟨branch.settle start whole, (branch.made start).failure⟩ := by
  rw [Branch.result_step, hfresh branch List.mem_cons_self]
  rfl

theorem Fresh.settle (hseparate : SeparateFields fields)
    (hover : ∀ other ∈ branch :: branches, other.Over fields)
    (hapart : (branch :: branches).Pairwise Apart)
    (hfresh : Fresh start (branch :: branches) whole) :
    Fresh start branches (branch.settle start whole) := by
  intro other hother
  have hmem := List.mem_cons_of_mem branch hother
  have hkept : other.route.get (branch.settle start whole) = other.route.get whole :=
    Route.get_set_apart hseparate (hover branch List.mem_cons_self) (hover other hmem)
      (List.rel_of_pairwise_cons hapart hother) _ _
  rw [hkept, hfresh other hmem]

theorem leave_of_made (hseparate : SeparateFields fields)
    (hover : ∀ branch ∈ branches, branch.Over fields) (hapart : branches.Pairwise Apart)
    (hfresh : Fresh start branches whole)
    (hmade : ∀ branch ∈ branches, (branch.made start).failure = none) :
    Step.leave (branches.map step) whole = .ok (branches.foldl (Branch.settle start) whole) := by
  induction branches generalizing whole with
  | nil => rfl
  | cons branch branches ih =>
      obtain ⟨hfirst, hrest⟩ := List.forall_mem_cons.mp hmade
      simp only [List.map_cons, Step.leave, hfresh.result_step, hfirst, List.foldl_cons]
      exact ih (List.forall_mem_cons.mp hover).2 hapart.of_cons
        (hfresh.settle hseparate hover hapart) hrest

theorem made_of_leave (hseparate : SeparateFields fields)
    (hover : ∀ branch ∈ branches, branch.Over fields) (hapart : branches.Pairwise Apart)
    (hfresh : Fresh start branches whole)
    (hleave : (Step.leave (branches.map step) whole).failure = none) :
    ∀ branch ∈ branches, (branch.made start).failure = none := by
  induction branches generalizing whole with
  | nil => exact List.forall_mem_nil _
  | cons branch branches ih =>
      simp only [List.map_cons, Step.leave, hfresh.result_step] at hleave
      cases hfirst : (branch.made start).failure with
      | some failure => simp [hfirst] at hleave
      | none =>
          rw [hfirst] at hleave
          exact List.forall_mem_cons.mpr ⟨hfirst, ih (List.forall_mem_cons.mp hover).2
            hapart.of_cons (hfresh.settle hseparate hover hapart) hleave⟩

theorem failure_leave_iff (hseparate : SeparateFields fields)
    (hover : ∀ branch ∈ branches, branch.Over fields) (hapart : branches.Pairwise Apart)
    (start : Carrier type) :
    (Step.leave (branches.map step) start).failure = none ↔
      ∀ branch ∈ branches, (branch.made start).failure = none := by
  have hfresh : Fresh start branches start := fun _ _ => rfl
  constructor
  · exact made_of_leave hseparate hover hapart hfresh
  · intro hmade
    rw [leave_of_made hseparate hover hapart hfresh hmade]
    rfl

/-! ## Permutations -/

variable {shuffled : List (Branch type)}

instance : Std.Symm (Apart : Branch type → Branch type → Prop) :=
  ⟨fun _ _ hapart => Route.Apart.symm hapart⟩

theorem foldl_settle_perm (hindependent : IndependentFields fields)
    (hover : ∀ branch ∈ branches, branch.Over fields) (hapart : branches.Pairwise Apart)
    (hperm : branches.Perm shuffled) (start whole : Carrier type) :
    branches.foldl (settle start) whole = shuffled.foldl (settle start) whole := by
  refine hperm.foldl_eq' ?_ whole
  intro one hone other hother reached
  by_cases hsame : one = other
  · rw [hsame]
  · have hone_other : one.Apart other := hapart.forall hone hother hsame
    exact Route.set_comm_apart hindependent (hover one hone) (hover other hother) hone_other _ _ _

theorem over_of_perm (hover : ∀ branch ∈ branches, branch.Over fields)
    (hperm : branches.Perm shuffled) : ∀ branch ∈ shuffled, branch.Over fields :=
  fun branch hmem => hover branch (hperm.mem_iff.mpr hmem)

theorem apart_of_perm (hapart : branches.Pairwise Apart) (hperm : branches.Perm shuffled) :
    shuffled.Pairwise Apart :=
  hapart.perm hperm fun hapart => Route.Apart.symm hapart

theorem failure_leave_perm (hseparate : SeparateFields fields)
    (hover : ∀ branch ∈ branches, branch.Over fields) (hapart : branches.Pairwise Apart)
    (hperm : branches.Perm shuffled) (start : Carrier type) :
    (Step.leave (shuffled.map step) start).failure = none ↔
      (Step.leave (branches.map step) start).failure = none := by
  rw [failure_leave_iff hseparate hover hapart,
    failure_leave_iff hseparate (over_of_perm hover hperm) (apart_of_perm hapart hperm)]
  simp only [hperm.mem_iff]

theorem leave_perm (hindependent : IndependentFields fields)
    (hover : ∀ branch ∈ branches, branch.Over fields) (hapart : branches.Pairwise Apart)
    (hperm : branches.Perm shuffled) (start : Carrier type)
    (hleave : (Step.leave (branches.map step) start).failure = none) :
    Step.leave (shuffled.map step) start = Step.leave (branches.map step) start := by
  have hseparate := hindependent.separate
  have hmade := (failure_leave_iff hseparate hover hapart start).mp hleave
  have hmade' : ∀ branch ∈ shuffled, (branch.made start).failure = none :=
    fun branch hmem => hmade branch (hperm.mem_iff.mpr hmem)
  rw [leave_of_made hseparate hover hapart (fun _ _ => rfl) hmade,
    leave_of_made hseparate (over_of_perm hover hperm) (apart_of_perm hapart hperm)
      (fun _ _ => rfl) hmade',
    foldl_settle_perm hindependent hover hapart hperm]

end Branch

namespace Tree

variable {branches shuffled : List (Branch type)}

theorem failure_run_node_perm (hseparate : SeparateFields fields)
    (hover : ∀ branch ∈ branches, branch.Over fields) (hapart : branches.Pairwise Branch.Apart)
    (hperm : branches.Perm shuffled) (steps : List (Step (Carrier type))) (value : Carrier type) :
    ((node steps shuffled).run value).result.failure = none ↔
      ((node steps branches).run value).result.failure = none := by
  simp only [result_run, steps_node, Step.leave_append]
  cases hown : (Step.leave steps value).failure with
  | some failure => simp
  | none => exact Branch.failure_leave_perm hseparate hover hapart hperm _

theorem result_run_node_perm (hindependent : IndependentFields fields)
    (hover : ∀ branch ∈ branches, branch.Over fields) (hapart : branches.Pairwise Branch.Apart)
    (hperm : branches.Perm shuffled) (steps : List (Step (Carrier type))) (value : Carrier type)
    (hrun : ((node steps branches).run value).result.failure = none) :
    ((node steps shuffled).run value).result = ((node steps branches).run value).result := by
  simp only [result_run, steps_node, Step.leave_append] at hrun ⊢
  cases hown : (Step.leave steps value).failure with
  | some failure => rfl
  | none =>
      rw [hown] at hrun
      exact Branch.leave_perm hindependent hover hapart hperm _ hrun

end Tree

/-! ## What a record says of the branches -/

namespace Registration

def Over (fields : ∀ {owner value : Ty}, OpenField owner value → Prop)
    (registration : Registration type) : Prop :=
  ∀ route, registration.path.Denotes route → route.Over fields

def Apart (one other : Registration type) : Prop :=
  ∀ route otherRoute, one.path.Denotes route → other.path.Denotes otherRoute →
    route.Apart otherRoute

theorem over_of_denotes {path : PathExpression type leaf} {route : Route type leaf}
    (hdenotes : path.Denotes route) (hover : route.Over fields) (child : Builder leaf) :
    Over fields ⟨leaf, path, child⟩ := by
  intro other hother
  rw [← hdenotes.unique hother]
  exact hover

theorem apart_of_denotes {otherLeaf : Ty} {path : PathExpression type leaf}
    {otherPath : PathExpression type otherLeaf} {route : Route type leaf}
    {otherRoute : Route type otherLeaf} (hdenotes : path.Denotes route)
    (hotherDenotes : otherPath.Denotes otherRoute) (hapart : route.Apart otherRoute)
    (child : Builder leaf) (otherChild : Builder otherLeaf) :
    Apart ⟨leaf, path, child⟩ ⟨otherLeaf, otherPath, otherChild⟩ := by
  intro one other hone hother
  rw [← hdenotes.unique hone, ← hotherDenotes.unique hother]
  exact hapart

end Registration

variable [DecidableEq Ty] {record second : List (Deed Ty)}

namespace Branch

variable {registrations : List (Registration type)} {branches : List (Branch type)}

theorem exists_grows_of_mem (hbranches : List.Forall₂ (Grows record) registrations branches)
    {branch : Branch type} (hmem : branch ∈ branches) :
    ∃ registration ∈ registrations, Grows record registration branch := by
  induction hbranches with
  | nil => cases hmem
  | cons hfirst hrest ih =>
      rcases List.mem_cons.mp hmem with rfl | hmem
      · exact ⟨_, List.mem_cons_self, hfirst⟩
      · obtain ⟨registration, hregistration, hgrows⟩ := ih hmem
        exact ⟨registration, List.mem_cons_of_mem _ hregistration, hgrows⟩

theorem over_of_grows (hbranches : List.Forall₂ (Grows record) registrations branches)
    (hover : ∀ registration ∈ registrations, registration.Over fields) :
    ∀ branch ∈ branches, branch.Over fields := by
  intro branch hmem
  obtain ⟨registration, hregistration, ⟨hdenotes, -⟩⟩ := exists_grows_of_mem hbranches hmem
  exact hover _ hregistration _ hdenotes

theorem apart_of_grows (hbranches : List.Forall₂ (Grows record) registrations branches)
    (hapart : registrations.Pairwise Registration.Apart) : branches.Pairwise Apart := by
  induction hbranches with
  | nil => exact .nil
  | cons hbranch hbranches ih =>
      obtain ⟨hfirst, hrest⟩ := List.pairwise_cons.mp hapart
      refine .cons (fun other hmem => ?_) (ih hrest)
      obtain ⟨registration, hregistration, ⟨hotherDenotes, -⟩⟩ :=
        exists_grows_of_mem hbranches hmem
      obtain ⟨hdenotes, -⟩ := hbranch
      exact hfirst _ hregistration _ _ hdenotes hotherDenotes

theorem grows_twins {Twin : ∀ {type : Ty}, Builder type → Builder type → Prop}
    (hcorresponds : Corresponds record second Twin) {twins : List (Registration type)}
    (htwins : List.Forall₂ (Registration.Twins Twin) registrations twins)
    (hbranches : List.Forall₂ (Grows record) registrations branches) :
    List.Forall₂ (Grows second) twins branches := by
  induction htwins generalizing branches with
  | nil =>
      cases hbranches
      exact .nil
  | cons htwin htwins ih =>
      cases hbranches with
      | cons hbranch hbranches => exact .cons (hbranch.twin hcorresponds htwin) (ih hbranches)

end Branch

/-! ## Two records with the paths of a builder in another order -/

/-- The second builder was given the same steps, and the same paths in another order with
builders for them that correspond. -/
structure Reorders (first second : List (Deed Ty)) (builder twin : Builder type) : Prop where
  steps : stepsOn first builder = stepsOn second twin
  fields : ∃ (Twin : ∀ {type : Ty}, Builder type → Builder type → Prop)
    (shuffled : List (Registration type)), Corresponds first second Twin ∧
      shuffled.Perm (fieldsOn first builder) ∧
      List.Forall₂ (Registration.Twins Twin) shuffled (fieldsOn second twin)

theorem Reorders.exists_branches {builder twin : Builder type}
    (hreorders : Reorders record second builder twin) {branches : List (Branch type)}
    (hbranches : List.Forall₂ (Branch.Grows record) (fieldsOn record builder) branches) :
    ∃ reordered, branches.Perm reordered ∧
      Describes second twin (.node (stepsOn record builder) reordered) := by
  obtain ⟨hsteps, Twin, shuffled, hcorresponds, hperm, htwins⟩ := hreorders
  obtain ⟨reordered, hreordered, hpermBranches⟩ := List.perm_comp_forall₂ hperm hbranches
  refine ⟨reordered, hpermBranches.symm, ?_⟩
  rw [Describes, ← hsteps]
  exact grown_node (Branch.grows_twins hcorresponds htwins hreordered)

/-! ## Two fields of one builder -/

section BothOn

variable {root first second : Ty}

/-- A root with two registered paths, and a step for what each of them leads to. -/
def bothOn (one : PathExpression root first) (other : PathExpression root second)
    (step : Step (Carrier first)) (otherStep : Step (Carrier second)) : List (Deed Ty) :=
  [.registered (⟨0⟩ : Builder root) one ⟨1⟩, .registered (⟨0⟩ : Builder root) other ⟨2⟩,
    .appended ⟨1⟩ step, .appended ⟨2⟩ otherStep]

inductive Swapped (first second : Ty) : ∀ {type : Ty}, Builder type → Builder type → Prop where
  | one : Swapped first second (⟨1⟩ : Builder first) ⟨2⟩
  | other : Swapped first second (⟨2⟩ : Builder second) ⟨1⟩

variable {one : PathExpression root first} {other : PathExpression root second}
  {step : Step (Carrier first)} {otherStep : Step (Carrier second)}

theorem stepsOn_bothOn_root :
    stepsOn (bothOn one other step otherStep) (⟨0⟩ : Builder root) = [] := by
  simp [stepsOn, bothOn, Deed.stepOn?]

theorem stepsOn_bothOn_one :
    stepsOn (bothOn one other step otherStep) (⟨1⟩ : Builder first) = [step] := by
  simp [stepsOn, bothOn, Deed.stepOn?, List.filterMap_cons]

theorem stepsOn_bothOn_other :
    stepsOn (bothOn one other step otherStep) (⟨2⟩ : Builder second) = [otherStep] := by
  simp [stepsOn, bothOn, Deed.stepOn?, List.filterMap_cons]

theorem fieldsOn_bothOn_root :
    fieldsOn (bothOn one other step otherStep) (⟨0⟩ : Builder root) =
      [⟨first, one, ⟨1⟩⟩, ⟨second, other, ⟨2⟩⟩] := by
  simp [fieldsOn, bothOn, Deed.fieldOn?, List.filterMap_cons]

theorem fieldsOn_bothOn_child {builder : Builder type} (hchild : 0 < builder.index) :
    fieldsOn (bothOn one other step otherStep) builder = [] := by
  have hroot : ¬ 0 = builder.index := Nat.ne_of_lt hchild
  simp [fieldsOn, bothOn, Deed.fieldOn?, List.filterMap_cons, hroot]

theorem corresponds_bothOn :
    Corresponds (bothOn one other step otherStep) (bothOn other one otherStep step)
      (Swapped first second) where
  steps := by
    rintro type builder twin (_ | _)
    · rw [stepsOn_bothOn_one, stepsOn_bothOn_other]
    · rw [stepsOn_bothOn_one, stepsOn_bothOn_other]
  fields := by
    rintro type builder twin (_ | _)
    all_goals
      rw [fieldsOn_bothOn_child (Nat.succ_pos _), fieldsOn_bothOn_child (Nat.succ_pos _)]
      exact .nil

theorem reorders_bothOn :
    Reorders (bothOn one other step otherStep) (bothOn other one otherStep step)
      (⟨0⟩ : Builder root) ⟨0⟩ where
  steps := by rw [stepsOn_bothOn_root, stepsOn_bothOn_root]
  fields := by
    refine ⟨Swapped first second, [⟨second, other, ⟨2⟩⟩, ⟨first, one, ⟨1⟩⟩],
      corresponds_bothOn, ?_, ?_⟩
    · rw [fieldsOn_bothOn_root]
      exact .swap _ _ []
    · rw [fieldsOn_bothOn_root]
      exact .cons (.intro .other) (.cons (.intro .one) .nil)

variable {route : Route root first} {otherRoute : Route root second}

theorem describes_bothOn (step : Step (Carrier first)) (otherStep : Step (Carrier second))
    (hdenotes : one.Denotes route) (hotherDenotes : other.Denotes otherRoute) :
    Describes (bothOn one other step otherStep) (⟨0⟩ : Builder root)
      (.field route hdenotes.1 (.step step .finish)
        (.field otherRoute hotherDenotes.1 (.step otherStep .finish) .finish)) := by
  have hinner : Describes (bothOn one other step otherStep) (⟨1⟩ : Builder first)
      (.step step .finish) := by
    rw [Describes, stepsOn_bothOn_one, fieldsOn_bothOn_child (Nat.succ_pos _)]
    exact .step .finish
  have hotherInner : Describes (bothOn one other step otherStep) (⟨2⟩ : Builder second)
      (.step otherStep .finish) := by
    rw [Describes, stepsOn_bothOn_other, fieldsOn_bothOn_child (Nat.succ_pos _)]
    exact .step .finish
  rw [Describes, stepsOn_bothOn_root, fieldsOn_bothOn_root]
  exact .field hdenotes hinner (.field hotherDenotes hotherInner .finish)

theorem over_bothOn (hdenotes : one.Denotes route) (hotherDenotes : other.Denotes otherRoute)
    (hover : route.Over fields) (hotherOver : otherRoute.Over fields) :
    ∀ registration ∈ fieldsOn (bothOn one other step otherStep) (⟨0⟩ : Builder root),
      registration.Over fields := by
  rw [fieldsOn_bothOn_root]
  exact List.forall_mem_cons.mpr ⟨Registration.over_of_denotes hdenotes hover _,
    List.forall_mem_singleton.mpr (Registration.over_of_denotes hotherDenotes hotherOver _)⟩

theorem apart_bothOn (hdenotes : one.Denotes route) (hotherDenotes : other.Denotes otherRoute)
    (hapart : route.Apart otherRoute) :
    (fieldsOn (bothOn one other step otherStep) (⟨0⟩ : Builder root)).Pairwise
      Registration.Apart := by
  rw [fieldsOn_bothOn_root, List.pairwise_pair]
  exact Registration.apart_of_denotes hdenotes hotherDenotes hapart _ _

end BothOn

/-! ## Compiled builders -/

namespace Session

theorem run_bothOn {root first second : Ty} {calls : List (Call Ty)}
    {one : PathExpression root first} {other : PathExpression root second}
    {step : Step (Carrier first)} {otherStep : Step (Carrier second)}
    {route : Route root first} {otherRoute : Route root second}
    (hknown : ⟨root, ⟨0⟩⟩ ∈ (after calls).handles)
    (hrecord : (after calls).record = bothOn one other step otherStep)
    (hdenotes : one.Denotes route) (hotherDenotes : other.Denotes otherRoute)
    (value : Carrier root) :
    ((after calls).bench.compile (⟨0⟩ : Builder root)).run value =
      (Tree.field route hdenotes.1 (.step step .finish)
        (.field otherRoute hotherDenotes.1 (.step otherStep .finish) .finish)).run value := by
  have hdescribes := describes_bothOn step otherStep hdenotes hotherDenotes
  rw [← hrecord] at hdescribes
  rw [compile_eq_plan hknown hdescribes, Tree.run_plan]

section Reordered

variable {calls others : List (Call Ty)} {builder twin : Builder type}

theorem exists_reordered_branches (hknown : ⟨type, builder⟩ ∈ (after calls).handles)
    (htwinKnown : ⟨type, twin⟩ ∈ (after others).handles)
    (hreorders : Reorders (after calls).record (after others).record builder twin)
    (hover : ∀ registration ∈ fieldsOn (after calls).record builder, registration.Over fields)
    (hapart : (fieldsOn (after calls).record builder).Pairwise Registration.Apart) :
    ∃ steps branches reordered, (∀ branch ∈ branches, branch.Over fields) ∧
      branches.Pairwise Branch.Apart ∧ branches.Perm reordered ∧
      ((after calls).bench.compile builder).run = (Tree.node steps branches).run ∧
      ((after others).bench.compile twin).run = (Tree.node steps reordered).run := by
  obtain ⟨tree, hdescribes⟩ := exists_describes hknown
  obtain ⟨branches, hbranches, rfl⟩ := Grown.exists_branches hdescribes
  obtain ⟨reordered, hperm, htwinDescribes⟩ := hreorders.exists_branches hbranches
  refine ⟨stepsOn (after calls).record builder, branches, reordered,
    Branch.over_of_grows hbranches hover, Branch.apart_of_grows hbranches hapart, hperm, ?_, ?_⟩
  · rw [compile_eq_plan hknown hdescribes]
    exact funext (Tree.run_plan _)
  · rw [compile_eq_plan htwinKnown htwinDescribes]
    exact funext (Tree.run_plan _)

/-- The order does not decide whether the runs succeed, also where the fields are only separate. -/
theorem reordered_fields_succeed_alike (hknown : ⟨type, builder⟩ ∈ (after calls).handles)
    (htwinKnown : ⟨type, twin⟩ ∈ (after others).handles)
    (hreorders : Reorders (after calls).record (after others).record builder twin)
    (hseparate : SeparateFields fields)
    (hover : ∀ registration ∈ fieldsOn (after calls).record builder, registration.Over fields)
    (hapart : (fieldsOn (after calls).record builder).Pairwise Registration.Apart)
    (value : Carrier type) :
    (((after others).bench.compile twin).run value).result.failure = none ↔
      (((after calls).bench.compile builder).run value).result.failure = none := by
  obtain ⟨steps, branches, reordered, hover, hapart, hperm, hrun, htwinRun⟩ :=
    exists_reordered_branches hknown htwinKnown hreorders hover hapart
  rw [hrun, htwinRun]
  exact Tree.failure_run_node_perm hseparate hover hapart hperm steps value

/--
Two builders with the same steps and the same paths in another order succeed on the same
values, and what they leave is the same, if the paths lead to places apart over lawful
fields that can be set in any order.
-/
theorem reordered_fields_run_alike (hknown : ⟨type, builder⟩ ∈ (after calls).handles)
    (htwinKnown : ⟨type, twin⟩ ∈ (after others).handles)
    (hreorders : Reorders (after calls).record (after others).record builder twin)
    (hindependent : IndependentFields fields)
    (hover : ∀ registration ∈ fieldsOn (after calls).record builder, registration.Over fields)
    (hapart : (fieldsOn (after calls).record builder).Pairwise Registration.Apart)
    (value : Carrier type) :
    ((((after others).bench.compile twin).run value).result.failure = none ↔
      (((after calls).bench.compile builder).run value).result.failure = none) ∧
    ((((after calls).bench.compile builder).run value).result.failure = none →
      (((after others).bench.compile twin).run value).result =
        (((after calls).bench.compile builder).run value).result) := by
  constructor
  · exact reordered_fields_succeed_alike hknown htwinKnown hreorders hindependent.separate hover
      hapart value
  · obtain ⟨steps, branches, reordered, hover, hapart, hperm, hrun, htwinRun⟩ :=
      exists_reordered_branches hknown htwinKnown hreorders hover hapart
    rw [hrun, htwinRun]
    exact Tree.result_run_node_perm hindependent hover hapart hperm steps value

end Reordered

theorem record_numberFirst : (after Goods.numberFirst).record =
    bothOn Goods.numberPath Goods.countPath Goods.doubleStep Goods.doubleStep := rfl

theorem record_countFirst : (after Goods.countFirst).record =
    bothOn Goods.countPath Goods.numberPath Goods.doubleStep Goods.doubleStep := rfl

theorem numberFirst_reorders_countFirst :
    Reorders (after Goods.numberFirst).record (after Goods.countFirst).record
      (⟨0⟩ : Builder Goods.order) ⟨0⟩ := by
  rw [record_numberFirst, record_countFirst]
  exact reorders_bothOn

theorem over_numberFirst : ∀ registration ∈ fieldsOn (after Goods.numberFirst).record
    (⟨0⟩ : Builder Goods.order), registration.Over Goods.OwnField := by
  rw [record_numberFirst]
  exact over_bothOn Goods.numberPath_denotes Goods.countPath_denotes Goods.numberRoute_over
    Goods.countRoute_over

theorem apart_numberFirst : (fieldsOn (after Goods.numberFirst).record
    (⟨0⟩ : Builder Goods.order)).Pairwise Registration.Apart := by
  rw [record_numberFirst]
  exact apart_bothOn Goods.numberPath_denotes Goods.countPath_denotes
    (Route.apart_of_descriptor_ne Goods.item_ne_number.symm _ _)

theorem result_numberFirst :
    (((after Goods.numberFirst).bench.compile (⟨0⟩ : Builder Goods.order)).run
      ⟨7, ⟨5⟩⟩).result = .ok ⟨14, ⟨10⟩⟩ := by
  rw [run_bothOn List.mem_cons_self record_numberFirst Goods.numberPath_denotes
    Goods.countPath_denotes]
  rfl

theorem reordered_fields_run_alike_numberFirst :
    Reorders (after Goods.numberFirst).record (after Goods.countFirst).record
        (⟨0⟩ : Builder Goods.order) ⟨0⟩ ∧
      IndependentFields Goods.OwnField ∧
      (fieldsOn (after Goods.numberFirst).record
        (⟨0⟩ : Builder Goods.order)).Pairwise Registration.Apart ∧
      (((after Goods.countFirst).bench.compile (⟨0⟩ : Builder Goods.order)).run
        ⟨7, ⟨5⟩⟩).result = .ok ⟨14, ⟨10⟩⟩ := by
  have hknown : ⟨.order, ⟨0⟩⟩ ∈ (after Goods.numberFirst).handles := List.mem_cons_self
  have htwinKnown : ⟨.order, ⟨0⟩⟩ ∈ (after Goods.countFirst).handles := List.mem_cons_self
  have hindependent := Goods.ownField_independent
  obtain ⟨-, hsame⟩ := reordered_fields_run_alike hknown htwinKnown
    numberFirst_reorders_countFirst hindependent over_numberFirst apart_numberFirst ⟨7, ⟨5⟩⟩
  refine ⟨numberFirst_reorders_countFirst, hindependent, apart_numberFirst, ?_⟩
  rw [hsame (by rw [result_numberFirst]; rfl), result_numberFirst]

end Session

/-! ## Separate fields that cannot be set in any order -/

namespace Savings

def pricePath : PathExpression holding amount := .field (.identity holding) priceField.toField

def sharesPath : PathExpression holding amount := .field (.identity holding) sharesField.toField

theorem pricePath_denotes : pricePath.Denotes priceRoute := ⟨by decide, _, rfl, rfl⟩

theorem sharesPath_denotes : sharesPath.Denotes sharesRoute := ⟨by decide, _, rfl, rfl⟩

def doubleStep : Step Int := .total "double" (2 * ·)

def priceFirst : List (Call Savings) :=
  [.new holding, .property 0 pricePath, .property 0 sharesPath,
    .append amount 1 (.ok doubleStep), .append amount 2 (.ok doubleStep)]

def sharesFirst : List (Call Savings) :=
  [.new holding, .property 0 sharesPath, .property 0 pricePath,
    .append amount 1 (.ok doubleStep), .append amount 2 (.ok doubleStep)]

end Savings

namespace Session

theorem record_priceFirst : (after Savings.priceFirst).record =
    bothOn Savings.pricePath Savings.sharesPath Savings.doubleStep Savings.doubleStep := rfl

theorem record_sharesFirst : (after Savings.sharesFirst).record =
    bothOn Savings.sharesPath Savings.pricePath Savings.doubleStep Savings.doubleStep := rfl

/--
That setting one field leaves what the other one holds is not enough: three more shares are
paid for at four each if the price is doubled first, and else at two each.
-/
theorem separate_setters_show_order :
    SeparateFields Savings.HeldField ∧ ¬ IndependentFields Savings.HeldField ∧
    Reorders (after Savings.priceFirst).record (after Savings.sharesFirst).record
      (⟨0⟩ : Builder Savings.holding) ⟨0⟩ ∧
    (∀ registration ∈ fieldsOn (after Savings.priceFirst).record (⟨0⟩ : Builder Savings.holding),
      registration.Over Savings.HeldField) ∧
    (fieldsOn (after Savings.priceFirst).record
      (⟨0⟩ : Builder Savings.holding)).Pairwise Registration.Apart ∧
    (((after Savings.priceFirst).bench.compile (⟨0⟩ : Builder Savings.holding)).run
      ⟨2, 3, 6⟩).result = .ok ⟨4, 6, 18⟩ ∧
    (((after Savings.sharesFirst).bench.compile (⟨0⟩ : Builder Savings.holding)).run
      ⟨2, 3, 6⟩).result = .ok ⟨4, 6, 12⟩ := by
  refine ⟨Savings.heldField_separate, Savings.heldField_not_independent, ?_, ?_, ?_, ?_, ?_⟩
  · rw [record_priceFirst, record_sharesFirst]
    exact reorders_bothOn
  · rw [record_priceFirst]
    exact over_bothOn Savings.pricePath_denotes Savings.sharesPath_denotes
      Savings.priceRoute_over Savings.sharesRoute_over
  · rw [record_priceFirst]
    exact apart_bothOn Savings.pricePath_denotes Savings.sharesPath_denotes
      (Route.apart_of_descriptor_ne Savings.price_ne_shares _ _)
  · rw [run_bothOn List.mem_cons_self record_priceFirst Savings.pricePath_denotes
      Savings.sharesPath_denotes]
    rfl
  · rw [run_bothOn List.mem_cons_self record_sharesFirst Savings.sharesPath_denotes
      Savings.pricePath_denotes]
    rfl

end Session

end ValuePipeline
