import ValuePipeline.Proofs.Meaning

/-!
# Branches

A node is a list of steps and a list of branches, each a route with the tree at its
end.  To a record the branches are what the registered paths have become, one for one
and in order, so a statement about the paths of a builder is one about a list.
-/

namespace ValuePipeline

variable {Ty : Type} [TypeCode Ty] {type leaf : Ty}

structure Branch (type : Ty) where
  leaf : Ty
  route : Route type leaf
  nonempty : 0 < route.length
  inner : Tree leaf

namespace Branch

def step (branch : Branch type) : Step (Carrier type) :=
  ⟨Plan.fieldLabel branch.route.chain, branch.route.update branch.inner.run⟩

theorem result_step (branch : Branch type) (whole : Carrier type) :
    (branch.step.apply whole).result =
      ⟨branch.route.set whole (branch.inner.run (branch.route.get whole)).result.value,
        (branch.inner.run (branch.route.get whole)).result.failure⟩ :=
  Route.result_update _ _ _

def toTree (branch : Branch type) (rest : Tree type) : Tree type :=
  .field branch.route branch.nonempty branch.inner rest

end Branch

namespace Tree

def node (steps : List (Step (Carrier type))) (branches : List (Branch type)) : Tree type :=
  steps.foldr .step (branches.foldr Branch.toTree .finish)

@[simp] theorem node_nil : (node [] [] : Tree type) = .finish := rfl

@[simp] theorem node_cons_step (s : Step (Carrier type)) (steps : List (Step (Carrier type)))
    (branches : List (Branch type)) :
    node (s :: steps) branches = .step s (node steps branches) := rfl

@[simp] theorem node_cons_branch (branch : Branch type) (branches : List (Branch type)) :
    node [] (branch :: branches) = branch.toTree (node [] branches) := rfl

theorem steps_node (steps : List (Step (Carrier type))) (branches : List (Branch type)) :
    (node steps branches).steps = steps ++ branches.map Branch.step := by
  induction steps with
  | nil =>
      induction branches with
      | nil => rfl
      | cons branch branches ih =>
          rw [node_cons_branch, Branch.toTree, steps_field, ih]
          rfl
  | cons s steps ih => rw [node_cons_step, steps_step, ih, List.cons_append]

end Tree

/-! ## The branches that a record describes -/

variable [DecidableEq Ty] {record : List (Deed Ty)}

inductive Branch.Grows (record : List (Deed Ty)) : Registration type → Branch type → Prop where
  | intro {leaf : Ty} {path : PathExpression type leaf} {child : Builder leaf}
      {route : Route type leaf} {inner : Tree leaf} (hdenotes : path.Denotes route)
      (hinner : Describes record child inner) :
      Grows record ⟨leaf, path, child⟩ ⟨leaf, route, hdenotes.1, inner⟩

theorem grown_node {steps : List (Step (Carrier type))} {fields : List (Registration type)}
    {branches : List (Branch type)}
    (hbranches : List.Forall₂ (Branch.Grows record) fields branches) :
    Grown record steps fields (.node steps branches) := by
  induction steps with
  | nil =>
      induction hbranches with
      | nil => exact .finish
      | cons hbranch hbranches ih =>
          obtain ⟨hdenotes, hinner⟩ := hbranch
          exact .field hdenotes hinner ih
  | cons s steps ih => exact .step ih

theorem Grown.exists_branches {steps : List (Step (Carrier type))}
    {fields : List (Registration type)} {tree : Tree type}
    (hgrown : Grown record steps fields tree) :
    ∃ branches, List.Forall₂ (Branch.Grows record) fields branches ∧
      tree = .node steps branches := by
  induction hgrown with
  | finish => exact ⟨[], .nil, rfl⟩
  | step hrest ih =>
      obtain ⟨branches, hbranches, rfl⟩ := ih
      exact ⟨branches, hbranches, rfl⟩
  | field hdenotes hinner hrest ihInner ihRest =>
      obtain ⟨branches, hbranches, rfl⟩ := ihRest
      exact ⟨_ :: branches, .cons (.intro hdenotes hinner) hbranches, rfl⟩

theorem exists_branches {fields : List (Registration type)}
    (hfields : ∀ registration ∈ fields, (∃ route, registration.path.Denotes route) ∧
      ∃ inner, Describes record registration.child inner) :
    ∃ branches, List.Forall₂ (Branch.Grows record) fields branches := by
  obtain ⟨tree, hgrown⟩ : ∃ tree, Grown record [] fields tree :=
    Workbench.Keeps.exists_grown hfields
  obtain ⟨branches, hbranches, -⟩ := hgrown.exists_branches
  exact ⟨branches, hbranches⟩

theorem Branch.Grows.twin {second : List (Deed Ty)}
    {Twin : ∀ {type : Ty}, Builder type → Builder type → Prop}
    (hcorresponds : Corresponds record second Twin) {registration twin : Registration type}
    (htwin : registration.Twins Twin twin) {branch : Branch type}
    (hgrows : Branch.Grows record registration branch) : Branch.Grows second twin branch := by
  obtain ⟨hdenotes, hinner⟩ := hgrows
  obtain ⟨hchild⟩ := htwin
  exact .intro hdenotes (hinner.twin hcorresponds hchild)

end ValuePipeline
