import ValuePipeline.Proofs.Apart
import ValuePipeline.Proofs.Flat

/-!
# What a run leaves alone

A field sets the whole of its part, and with it everything beside the places that the
steps below it change.  What it sets there is what it got, also when the tree below
has failed.  So of the places that the fields can reach, a run changes only those of
nodes with steps of their own, what is below them, and what they are inside of.
-/

namespace ValuePipeline

variable {Ty : Type} [TypeCode Ty] {type leaf : Ty}
  {fields : ∀ {owner value : Ty}, OpenField owner value → Prop}

namespace Placed

theorem get_leave_apart (hseparate : SeparateFields fields) {location : Route type leaf}
    (hlocation : location.Over fields) {steps : List (Placed type)}
    (hsteps : ∀ placed ∈ steps, placed.place.Over fields)
    (hapart : ∀ placed ∈ steps, placed.place.Apart location) (value : Carrier type) :
    location.get (Step.leave (steps.map lift) value).value = location.get value := by
  induction steps generalizing value with
  | nil => rfl
  | cons placed steps ih =>
      obtain ⟨hplaced, hsteps⟩ := List.forall_mem_cons.mp hsteps
      obtain ⟨hplacedApart, hapart⟩ := List.forall_mem_cons.mp hapart
      have hlifted : location.get (placed.lift.apply value).result.value = location.get value := by
        rw [lift, Route.result_update]
        exact Route.get_set_apart hseparate hplaced hlocation hplacedApart _ _
      simp only [List.map_cons, Step.leave]
      cases (placed.lift.apply value).result.failure with
      | some failure => exact hlifted
      | none => exact (ih hsteps hapart _).trans hlifted

end Placed

namespace Tree

def Over (fields : ∀ {owner value : Ty}, OpenField owner value → Prop) {type : Ty} :
    Tree type → Prop
  | finish => True
  | step _ rest => rest.Over fields
  | field route _ inner rest => route.Over fields ∧ inner.Over fields ∧ rest.Over fields

theorem Over.lawful (hseparate : SeparateFields fields) {tree : Tree type}
    (hover : tree.Over fields) : tree.Lawful := by
  induction tree with
  | finish => trivial
  | step s rest ih => exact ih hover
  | field route hroute inner rest ihInner ihRest =>
      obtain ⟨hfield, hinner, hrest⟩ := hover
      exact ⟨hfield.lawful hseparate, ihInner hinner, ihRest hrest⟩

theorem Over.place {tree : Tree type} (hover : tree.Over fields) {placed : Placed type}
    (hplaced : placed ∈ tree.flatten) : placed.place.Over fields := by
  induction tree with
  | finish => cases hplaced
  | step s rest ih =>
      rcases List.mem_cons.mp hplaced with rfl | hrest
      · trivial
      · exact ih hover hrest
  | field route hroute inner rest ihInner ihRest =>
      obtain ⟨hfield, hinner, hrest⟩ := hover
      rcases List.mem_append.mp hplaced with hunder | hbeside
      · obtain ⟨below, hbelow, rfl⟩ := List.mem_map.mp hunder
        exact hfield.trans (ihInner hinner hbelow)
      · exact ihRest hrest hbeside

theorem get_run_apart (hseparate : SeparateFields fields) {tree : Tree type}
    (hover : tree.Over fields) {location : Route type leaf} (hlocation : location.Over fields)
    (hapart : ∀ placed ∈ tree.flatten, placed.place.Apart location) (value : Carrier type) :
    location.get (tree.run value).result.value = location.get value := by
  rw [result_run, ← leave_flatten (hover.lawful hseparate)]
  exact Placed.get_leave_apart hseparate hlocation (fun _ hplaced => hover.place hplaced) hapart
    value

theorem result_run_of_flatten_eq_nil {tree : Tree type} (hlawful : tree.Lawful)
    (hnone : tree.flatten = []) (value : Carrier type) : (tree.run value).result = .ok value := by
  rw [result_run, ← leave_flatten hlawful, hnone]
  rfl

end Tree

/-! ## The number beside the count -/

namespace Goods

def idle : List (Call Goods) := [.new order, .property 0 itemPath, .property 1 itemCountPath]

def twoLevelsTree (count : Tree Goods.count) : Tree order :=
  .field itemRoute itemRoute_length_pos
    (.field itemCountRoute itemCountRoute_length_pos count .finish) .finish

theorem twoLevelsTree_over {count : Tree Goods.count} (hover : count.Over OwnField) :
    (twoLevelsTree count).Over OwnField :=
  ⟨itemRoute_over, ⟨itemCountRoute_over, hover, trivial⟩, trivial⟩

theorem twoLevels_describes :
    Describes (Session.after twoLevels).record (⟨0⟩ : Builder order)
      (twoLevelsTree (.step recountStep .finish)) :=
  .field itemPath_denotes (.field itemCountPath_denotes (.step .finish) .finish) .finish

theorem idle_describes :
    Describes (Session.after idle).record (⟨0⟩ : Builder order) (twoLevelsTree .finish) :=
  .field itemPath_denotes (.field itemCountPath_denotes .finish .finish) .finish

end Goods

/-! ## Compiled builders -/

variable [DecidableEq Ty]

namespace Session

/--
A run keeps the value at every place that is apart from the places of the steps, whether
it fails or not.  The places are those of the flattened steps: a node that has steps of
its own is the place of each.  A tree without steps keeps the value itself.
-/
theorem compile_keeps_places_apart {calls : List (Call Ty)} {builder : Builder type}
    (hknown : ⟨type, builder⟩ ∈ (after calls).handles) (hseparate : SeparateFields fields) :
    (∃ tree, Describes (after calls).record builder tree) ∧
    ∀ tree, Describes (after calls).record builder tree → tree.Over fields →
      (∀ {leaf : Ty} (location : Route type leaf), location.Over fields →
        (∀ placed ∈ tree.flatten, placed.place.Apart location) → ∀ value,
        location.get (((after calls).bench.compile builder).run value).result.value =
          location.get value) ∧
      (tree.flatten = [] → ∀ value,
        (((after calls).bench.compile builder).run value).result = .ok value) := by
  refine ⟨exists_describes hknown, fun tree hdescribes hover => ?_⟩
  have hrun : ∀ value, ((after calls).bench.compile builder).run value = tree.run value := by
    intro value
    rw [compile_eq_plan hknown hdescribes, tree.run_plan]
  simp only [hrun]
  exact ⟨fun location hlocation hapart => Tree.get_run_apart hseparate hover hlocation hapart,
    Tree.result_run_of_flatten_eq_nil (hover.lawful hseparate)⟩

theorem compile_keeps_places_apart_twoLevels :
    Describes (after Goods.twoLevels).record (⟨0⟩ : Builder Goods.order)
        (Goods.twoLevelsTree (.step Goods.recountStep .finish)) ∧
      SeparateFields Goods.OwnField ∧
      (((after Goods.twoLevels).bench.compile (⟨0⟩ : Builder Goods.order)).run ⟨7, ⟨5⟩⟩).result =
        .failed ⟨7, ⟨6⟩⟩ (.custom "too many") ∧
      Goods.numberRoute.get
        (((after Goods.twoLevels).bench.compile (⟨0⟩ : Builder Goods.order)).run
          ⟨7, ⟨5⟩⟩).result.value = (7 : Nat) ∧
      ∀ value, (((after Goods.idle).bench.compile (⟨0⟩ : Builder Goods.order)).run value).result =
        .ok value := by
  have hknown : ⟨.order, ⟨0⟩⟩ ∈ (after Goods.twoLevels).handles := List.mem_cons_self
  have hknownIdle : ⟨.order, ⟨0⟩⟩ ∈ (after Goods.idle).handles := List.mem_cons_self
  have hseparate := Goods.ownField_independent.separate
  obtain ⟨-, hkeeps⟩ := compile_keeps_places_apart hknown hseparate
  obtain ⟨-, hkeepsIdle⟩ := compile_keeps_places_apart hknownIdle hseparate
  obtain ⟨hnumber, -⟩ := hkeeps _ Goods.twoLevels_describes (Goods.twoLevelsTree_over trivial)
  obtain ⟨-, hidle⟩ := hkeepsIdle _ Goods.idle_describes (Goods.twoLevelsTree_over trivial)
  have hapart : ∀ placed ∈ (Goods.twoLevelsTree (.step Goods.recountStep .finish)).flatten,
      placed.place.Apart Goods.numberRoute := by
    intro placed hplaced
    rw [List.mem_singleton.mp hplaced]
    exact Route.apart_of_descriptor_ne Goods.item_ne_number _ _
  refine ⟨Goods.twoLevels_describes, hseparate, ?_,
    hnumber Goods.numberRoute Goods.numberRoute_over hapart ⟨7, ⟨5⟩⟩, hidle rfl⟩
  rw [compile_eq_plan hknown Goods.twoLevels_describes, Tree.run_plan]
  rfl

end Session

end ValuePipeline
