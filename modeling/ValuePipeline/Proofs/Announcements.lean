import ValuePipeline.Journal
import ValuePipeline.Proofs.Branch
import ValuePipeline.Proofs.Execution

/-!
# What a run announces

The instructions of a tree can be listed before it is run: at each node its steps and
then its fields, numbered from 0, and right after each field the instructions of the
node below.  A run announces them in this order.  If it succeeds it announces them all,
and if it fails, the last announcement is that of the step that has failed, at whatever
depth that is.
-/

namespace ValuePipeline

variable {Ty : Type} [TypeCode Ty] {type : Ty}

/-! ## Instructions -/

inductive Instruction (Ty : Type) [TypeCode Ty] where
  | step {type : Ty} (index : Nat) (step : Step (Carrier type))
  | field (type : Ty) (index : Nat) (name : String)

namespace Instruction

def event : Instruction Ty → Event
  | @step _ _ type index s => .applying (TypeCode.name type) index s.name
  | field type index name => .applying (TypeCode.name type) index name

def step? : Instruction Ty → Option ((type : Ty) × Step (Carrier type))
  | step _ s => some ⟨_, s⟩
  | field _ _ _ => none

end Instruction

namespace Tree

/-- All instructions of the tree and of the trees below, in the order in which they are met. -/
def instructionsFrom {type : Ty} : Tree type → Nat → List (Instruction Ty)
  | finish, _ => []
  | step s rest, index => .step index s :: rest.instructionsFrom (index + 1)
  | field route _ inner rest, index =>
      .field type index (Plan.fieldLabel route.chain) ::
        (inner.instructionsFrom 0 ++ rest.instructionsFrom (index + 1))

def instructions (tree : Tree type) : List (Instruction Ty) := tree.instructionsFrom 0

end Tree

def Branch.instructionsAt (branch : Branch type) (index : Nat) : List (Instruction Ty) :=
  .field type index (Plan.fieldLabel branch.route.chain) :: branch.inner.instructions

theorem Tree.instructionsFrom_node (steps : List (Step (Carrier type)))
    (branches : List (Branch type)) (index : Nat) :
    (node steps branches).instructionsFrom index =
      (steps.zipIdx index).map (fun (s, place) => .step place s) ++
        (branches.zipIdx (index + steps.length)).flatMap fun (branch, place) =>
          branch.instructionsAt place := by
  induction steps generalizing index with
  | nil =>
      induction branches generalizing index with
      | nil => rfl
      | cons branch branches ih =>
          rw [node_cons_branch, Branch.toTree, instructionsFrom, ih]
          simp [Branch.instructionsAt, instructions]
  | cons s steps ih =>
      rw [node_cons_step, instructionsFrom, ih, List.length_cons, Nat.add_right_comm]
      simp [Nat.add_assoc]

/-! ## Announcements -/

def Event.isAnnouncement (event : Event) : Bool := event.record?.isSome

namespace Act

def announcement? : Act Ty → Option Event
  | report event => if event.isAnnouncement then some event else none
  | work _ => none

theorem filterMap_announcement?_report {events : List Event}
    (hquiet : ∀ event ∈ events, event.isAnnouncement = false) :
    (events.map (report : Event → Act Ty)).filterMap announcement? = [] := by
  rw [List.filterMap_map, List.filterMap_eq_nil_iff]
  intro event hevent
  simp [announcement?, hquiet event hevent]

theorem filter_isAnnouncement_events {acts : List (Act Ty)}
    (hsteps : ∀ execution, .work execution ∈ acts →
      execution.run.events.filter Event.isAnnouncement = []) :
    (acts.flatMap Act.events).filter Event.isAnnouncement = acts.filterMap announcement? := by
  induction acts with
  | nil => rfl
  | cons act acts ih =>
      have hrest := ih fun execution hmem => hsteps execution (List.mem_cons_of_mem _ hmem)
      rw [List.flatMap_cons, List.filter_append, hrest]
      cases act with
      | report event =>
          by_cases hevent : event.isAnnouncement <;>
            simp [events, announcement?, hevent]
      | work execution =>
          simp [events, announcement?, List.filterMap_cons, hsteps execution List.mem_cons_self]

end Act

namespace Route

variable {root leaf : Ty} (route : Route root leaf)

theorem reads_not_announced : ∀ event ∈ route.reads, event.isAnnouncement = false := by
  intro event hevent
  obtain ⟨field, -, rfl⟩ := List.mem_map.mp hevent
  rfl

theorem writes_not_announced : ∀ event ∈ route.writes, event.isAnnouncement = false := by
  intro event hevent
  obtain ⟨field, -, rfl⟩ := List.mem_map.mp hevent
  rfl

end Route

/-! ## Acts that follow instructions -/

/-- The acts announce these instructions one after another, and execute the steps among them. -/
structure CarryOut (acts : List (Act Ty)) (instructions : List (Instruction Ty)) : Prop where
  announced : acts.filterMap Act.announcement? = instructions.map Instruction.event
  executed : (acts.filterMap Act.execution?).map (fun execution => ⟨execution.type, execution.step⟩) =
    instructions.filterMap Instruction.step?

/--
Without a failure, all instructions are carried out.  With one, they are carried out up
to the step that was executed last, and the failure is that of this step.
-/
def Follows (acts : List (Act Ty)) (instructions : List (Instruction Ty)) : Option Failure → Prop
  | none => CarryOut acts instructions
  | some failure => ∃ earlier index last later,
      instructions = earlier ++ .step index last.step :: later ∧
      CarryOut acts (earlier ++ [.step index last.step]) ∧
      (acts.filterMap Act.execution?).getLast? = some last ∧ last.failure = some failure

namespace CarryOut

variable {acts more : List (Act Ty)} {instructions others : List (Instruction Ty)}

theorem append (hfirst : CarryOut acts instructions) (hsecond : CarryOut more others) :
    CarryOut (acts ++ more) (instructions ++ others) where
  announced := by
    rw [List.filterMap_append, List.map_append, hfirst.announced, hsecond.announced]
  executed := by
    rw [List.filterMap_append, List.filterMap_append, List.map_append, hfirst.executed,
      hsecond.executed]

theorem reports {events : List Event}
    (hquiet : ∀ event ∈ events, event.isAnnouncement = false) :
    CarryOut (events.map (.report : Event → Act Ty)) [] where
  announced := Act.filterMap_announcement?_report hquiet
  executed := by rw [Act.filterMap_execution?_report]; rfl

theorem field (type : Ty) (index : Nat) (name : String) :
    CarryOut [.report (.applying (TypeCode.name type) index name)] [.field type index name] :=
  ⟨rfl, rfl⟩

theorem step (index : Nat) (s : Step (Carrier type)) (value : Carrier type) :
    CarryOut [.report (.applying (TypeCode.name type) index s.name), .work ⟨type, s, value⟩]
      [.step index s] :=
  ⟨rfl, rfl⟩

end CarryOut

namespace Follows

variable {acts more : List (Act Ty)} {instructions others : List (Instruction Ty)}
  {failure : Option Failure}

theorem after (hfirst : CarryOut acts instructions) (hsecond : Follows more others failure) :
    Follows (acts ++ more) (instructions ++ others) failure := by
  cases failure with
  | none => exact hfirst.append hsecond
  | some failure =>
      obtain ⟨earlier, index, last, later, rfl, hcarried, hlast, hfailure⟩ := hsecond
      refine ⟨instructions ++ earlier, index, last, later, by simp, ?_, ?_, hfailure⟩
      · rw [List.append_assoc]
        exact hfirst.append hcarried
      · rw [List.filterMap_append, List.getLast?_append, hlast]
        rfl

theorem append_reports (hfollows : Follows acts instructions failure) {events : List Event}
    (hquiet : ∀ event ∈ events, event.isAnnouncement = false) :
    Follows (acts ++ events.map .report) instructions failure := by
  have hreports : CarryOut (events.map (.report : Event → Act Ty)) [] := .reports hquiet
  cases failure with
  | none =>
      have hcarried := CarryOut.append hfollows hreports
      rw [List.append_nil] at hcarried
      exact hcarried
  | some failure =>
      obtain ⟨earlier, index, last, later, hinstructions, hcarried, hlast, hfailure⟩ := hfollows
      refine ⟨earlier, index, last, later, hinstructions, ?_, ?_, hfailure⟩
      · simpa using hcarried.append hreports
      · rw [List.filterMap_append, Act.filterMap_execution?_report, List.append_nil]
        exact hlast

theorem append_instructions {reason : Failure}
    (hfollows : Follows acts instructions (some reason)) (others : List (Instruction Ty)) :
    Follows acts (instructions ++ others) (some reason) := by
  obtain ⟨earlier, index, last, later, rfl, hcarried, hlast, hfailure⟩ := hfollows
  exact ⟨earlier, index, last, later ++ others, by simp, hcarried, hlast, hfailure⟩

theorem failed_step {index : Nat} {s : Step (Carrier type)} {value : Carrier type}
    {reason : Failure} (hfailure : (s.apply value).result.failure = some reason) :
    Follows [.report (.applying (TypeCode.name type) index s.name), .work ⟨type, s, value⟩]
      [.step index s] (some reason) :=
  ⟨[], index, ⟨type, s, value⟩, [], rfl, .step index s value, rfl, hfailure⟩

end Follows

namespace Tree

theorem follows_actsFrom (tree : Tree type) (index : Nat) (value : Carrier type) :
    Follows (tree.actsFrom index value) (tree.instructionsFrom index)
      (tree.run value).result.failure := by
  induction tree generalizing index with
  | finish => exact ⟨rfl, rfl⟩
  | @step type s rest ih =>
      have hstep := CarryOut.step index s value
      simp only [result_run, steps_step, Step.leave, actsFrom, instructionsFrom,
        Outcome.followedBy] at ih ⊢
      cases hs : (s.apply value).result.failure with
      | some reason =>
          simp only [hs]
          exact (Follows.failed_step hs).append_instructions _
      | none => exact .after hstep (ih (index + 1) _)
  | @field type leaf route hroute inner rest ihInner ihRest =>
      have hfield := CarryOut.field type index (Plan.fieldLabel route.chain)
      have hreads : CarryOut (route.reads.map (.report : Event → Act Ty)) [] :=
        .reports route.reads_not_announced
      have hthrough := (Follows.after (hfield.append hreads)
        (ihInner 0 (route.get value))).append_reports route.writes_not_announced
      simp only [result_run, steps_field, Step.leave, actsFrom, instructionsFrom,
        Outcome.followedBy, Route.result_update] at hthrough ihRest ⊢
      cases hfailure : (Step.leave inner.steps (route.get value)).failure with
      | some reason =>
          rw [hfailure] at hthrough
          simpa using hthrough.append_instructions (rest.instructionsFrom (index + 1))
      | none =>
          rw [hfailure] at hthrough
          simpa using Follows.after hthrough (ihRest (index + 1) _)

end Tree

/-! ## Compiled builders -/

variable [DecidableEq Ty]

namespace Session

/--
A compiled builder announces the instructions of its node in order, each field followed
by those of the node below: all of them, or those up to the step that has failed.
-/
theorem announcements_in_preorder :
    (∀ {type : Ty} (steps : List (Step (Carrier type))) (branches : List (Branch type)),
      (Tree.node steps branches).instructions =
        steps.zipIdx.map (fun (s, index) => .step index s) ++
          (branches.zipIdx steps.length).flatMap fun (branch, index) =>
            .field type index (Plan.fieldLabel branch.route.chain) :: branch.inner.instructions) ∧
    ∀ (calls : List (Call Ty)) {type : Ty} {builder : Builder type},
      ⟨type, builder⟩ ∈ (after calls).handles →
      ∃ branches,
        List.Forall₂ (Branch.Grows (after calls).record)
          (fieldsOn (after calls).record builder) branches ∧
        ∀ value,
          let acts := (Tree.node (stepsOn (after calls).record builder) branches).acts value
          let run := ((after calls).bench.compile builder).run value
          run.events = acts.flatMap Act.events ∧
          Follows acts (Tree.node (stepsOn (after calls).record builder) branches).instructions
            run.result.failure ∧
          ((∀ execution, .work execution ∈ acts →
              execution.run.events.filter Event.isAnnouncement = []) →
            run.events.filter Event.isAnnouncement = acts.filterMap Act.announcement?) := by
  constructor
  · intro type steps branches
    have hnode := Tree.instructionsFrom_node steps branches 0
    rw [Nat.zero_add] at hnode
    exact hnode
  · intro calls type builder hknown
    obtain ⟨tree, hdescribes⟩ := exists_describes hknown
    obtain ⟨branches, hbranches, rfl⟩ := Grown.exists_branches hdescribes
    refine ⟨branches, hbranches, fun value => ?_⟩
    rw [compile_eq_plan hknown hdescribes, Tree.run_plan]
    have hevents := Tree.events_sequence
      (.node (stepsOn (after calls).record builder) branches) 0 value
    refine ⟨hevents, Tree.follows_actsFrom _ 0 value, fun hsteps => ?_⟩
    rw [Tree.run, hevents]
    exact Act.filter_isAnnouncement_events hsteps

theorem announcements_in_preorder_fieldFirst :
    ⟨.order, ⟨0⟩⟩ ∈ (after Goods.fieldFirst).handles ∧
      Follows (Goods.fieldFirstTree.acts ⟨7, ⟨5⟩⟩) Goods.fieldFirstTree.instructions
        (some (.custom "too many")) ∧
      (((after Goods.fieldFirst).bench.compile (⟨0⟩ : Builder Goods.order)).run
        ⟨7, ⟨5⟩⟩).events.filter Event.isAnnouncement =
          [.applying "Order" 0 "renumber", .applying "Order" 1 "field:item.count",
            .applying "usize" 0 "recount"] := by
  obtain ⟨-, hcompiled⟩ := @announcements_in_preorder Goods _ _
  have hknown : ⟨.order, ⟨0⟩⟩ ∈ (after Goods.fieldFirst).handles := List.mem_cons_self
  have hdescribes : Describes (after Goods.fieldFirst).record (⟨0⟩ : Builder Goods.order)
      Goods.fieldFirstTree := .step (.field Goods.countPath_denotes (.step .finish) .finish)
  obtain ⟨branches, hbranches, hruns⟩ := hcompiled Goods.fieldFirst hknown
  have htree : Tree.node (stepsOn (after Goods.fieldFirst).record ⟨0⟩) branches =
      Goods.fieldFirstTree := (grown_node hbranches).unique hdescribes
  obtain ⟨-, hfollows, hannounced⟩ := hruns ⟨7, ⟨5⟩⟩
  rw [htree] at hfollows hannounced
  rw [compile_eq_plan hknown hdescribes] at hfollows hannounced ⊢
  refine ⟨hknown, hfollows, hannounced fun execution hexecution => ?_⟩
  have hexecuted : execution ∈ (Goods.fieldFirstTree.acts ⟨7, ⟨5⟩⟩).filterMap Act.execution? :=
    List.mem_filterMap.mpr ⟨_, hexecution, rfl⟩
  obtain rfl | rfl : execution = ⟨Goods.order, Goods.renumberStep, ⟨7, ⟨5⟩⟩⟩ ∨
      execution = ⟨Goods.count, Goods.recountStep, (5 : Nat)⟩ := List.mem_pair.mp hexecuted
  · rfl
  · rfl

end Session

end ValuePipeline
