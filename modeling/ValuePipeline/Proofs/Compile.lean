import ValuePipeline.Proofs.Record

/-!
# What compiling gives

On a bench that keeps to a record, every builder has a tree that the record
describes, and compiling the builder gives the plan of this tree.  The tree is found
by going down to newer and newer builders, and the plan by following the tree.
-/

namespace ValuePipeline

variable {Ty : Type} [TypeCode Ty] [DecidableEq Ty] {type leaf : Ty}
variable {bench : Workbench Ty} {record : List (Deed Ty)} {builder : Builder type}

theorem Deed.eq_of_fieldOn? {deed : Deed Ty} {registration : Registration type}
    (hfield : deed.fieldOn? builder = some registration) :
    deed = registered builder registration.path registration.child := by
  cases deed with
  | appended target step => cases hfield
  | registered target path child =>
      simp only [fieldOn?] at hfield
      split at hfield
      case isFalse => cases hfield
      case isTrue hsame =>
          obtain ⟨htype, hindex⟩ := hsame
          subst htype
          cases hfield
          cases target
          cases builder
          cases hindex
          rfl

namespace Workbench

def compileFields (bench : Workbench Ty) (index : Nat) (fields : List (Entry type)) : Plan type :=
  fields.foldr (fun entry rest =>
    if index < entry.child ∧ entry.child < bench.slots.length then
      .field entry.chain (bench.compile (⟨entry.child⟩ : Builder entry.leaf)) rest
    else rest) .finish

theorem compile_eq (bench : Workbench Ty) (builder : Builder type) :
    bench.compile builder =
      .ofParts (bench.draft builder).steps
        (bench.compileFields builder.index (bench.draft builder).fields) := by
  rw [compile]
  rfl

theorem compileFields_congr_of_children {other : Workbench Ty} {index : Nat}
    (hslots : ∀ later, index < later → other.slots[later]? = bench.slots[later]?)
    (hchildren : ∀ {leaf : Ty} (child : Builder leaf), index < child.index →
      child.index < bench.slots.length → other.compile child = bench.compile child)
    (fields : List (Entry type)) :
    other.compileFields index fields = bench.compileFields index fields := by
  have hlength : ∀ child, index < child →
      (child < other.slots.length ↔ child < bench.slots.length) := by
    intro child hlater
    rw [← not_iff_not, Nat.not_lt, Nat.not_lt, ← List.getElem?_eq_none_iff,
      ← List.getElem?_eq_none_iff, hslots child hlater]
  rw [compileFields, compileFields]
  congr 1
  funext entry rest
  by_cases hlater : index < entry.child ∧ entry.child < bench.slots.length
  · have hother := (hlength entry.child hlater.1).mpr hlater.2
    rw [if_pos hlater, if_pos ⟨hlater.1, hother⟩, hchildren _ hlater.1 hlater.2]
  · rw [if_neg hlater, if_neg]
    rintro ⟨hchild, hother⟩
    exact hlater ⟨hchild, (hlength entry.child hchild).mp hother⟩

/-- Compiling a builder looks at its draft and at newer ones only. -/
theorem compile_congr {other : Workbench Ty} {type : Ty} (builder : Builder type)
    (hslots : ∀ index, builder.index ≤ index → other.slots[index]? = bench.slots[index]?) :
    other.compile builder = bench.compile builder := by
  induction hleft : bench.slots.length - builder.index using Nat.strongRecOn
    generalizing type with
  | ind left ih =>
      have hdraft : other.draft builder = bench.draft builder := by
        simp only [draft, hslots builder.index (Nat.le_refl _)]
      rw [compile_eq, compile_eq, hdraft, compileFields_congr_of_children]
      · exact fun later hlater => hslots later (Nat.le_of_lt hlater)
      · intro leaf child hlater hlt
        refine ih (bench.slots.length - child.index) (by omega) child ?_ rfl
        exact fun index hindex => hslots index (Nat.le_trans (Nat.le_of_lt hlater) hindex)

theorem compileFields_congr {other : Workbench Ty} {index : Nat}
    (hslots : ∀ later, index < later → other.slots[later]? = bench.slots[later]?)
    (fields : List (Entry type)) :
    other.compileFields index fields = bench.compileFields index fields := by
  refine compileFields_congr_of_children hslots (fun child hlater _ => ?_) fields
  exact compile_congr child fun later hle => hslots later (Nat.lt_of_lt_of_le hlater hle)

/-! ## Steps added to a draft -/

def addSteps (bench : Workbench Ty) (builder : Builder type)
    (steps : List (Step (Carrier type))) : Workbench Ty :=
  steps.foldl (fun bench step => bench.addStep builder step) bench

theorem slot_addSteps_ne {index : Nat} (steps : List (Step (Carrier type)))
    (hne : builder.index ≠ index) :
    (bench.addSteps builder steps).slots[index]? = bench.slots[index]? := by
  induction steps generalizing bench with
  | nil => rfl
  | cons step steps ih => exact ih.trans (slot_revise_ne _ hne)

theorem draft_addSteps (hholds : bench.Holds builder) (steps : List (Step (Carrier type))) :
    (bench.addSteps builder steps).draft builder =
      { bench.draft builder with steps := (bench.draft builder).steps ++ steps } := by
  induction steps generalizing bench with
  | nil => simp only [addSteps, List.foldl_nil, List.append_nil]
  | cons step steps ih =>
      have hstep : (bench.addStep builder step).Holds builder := hholds.revise hholds _
      change ((bench.addStep builder step).addSteps builder steps).draft builder = _
      rw [ih hstep, addStep, draft_revise_self hholds, Draft.addStep, List.append_assoc,
        List.singleton_append]

theorem compile_addSteps (hholds : bench.Holds builder) (steps : List (Step (Carrier type))) :
    (bench.addSteps builder steps).compile builder =
      .ofParts ((bench.draft builder).steps ++ steps)
        (bench.compileFields builder.index (bench.draft builder).fields) := by
  rw [compile_eq, draft_addSteps hholds]
  congr 1
  exact compileFields_congr (fun later hlater => slot_addSteps_ne steps (Nat.ne_of_lt hlater)) _

theorem result_run_compile (bench : Workbench Ty) (builder : Builder type)
    (value : Carrier type) :
    ((bench.compile builder).run value).result =
      ((Step.leave (bench.draft builder).steps value).andThen
        ((bench.compileFields builder.index (bench.draft builder).fields).runFrom
          (bench.draft builder).steps.length)).result := by
  rw [compile_eq, Plan.run, Plan.result_runFrom_ofParts, Nat.zero_add]

theorem result_run_addSteps (hholds : bench.Holds builder) (steps : List (Step (Carrier type)))
    (value : Carrier type) :
    (((bench.addSteps builder steps).compile builder).run value).result =
      ((Step.leave ((bench.draft builder).steps ++ steps) value).andThen
        ((bench.compileFields builder.index (bench.draft builder).fields).runFrom
          ((bench.draft builder).steps.length + steps.length))).result := by
  rw [compile_addSteps hholds, Plan.run, Plan.result_runFrom_ofParts, Nat.zero_add,
    List.length_append]

theorem compile_note (notices : List Notice) :
    (bench.note notices).compile builder = bench.compile builder :=
  compile_congr builder fun _ _ => rfl

namespace Keeps

theorem child_of_mem (hkeeps : bench.Keeps record) {registration : Registration type}
    (hmem : registration ∈ fieldsOn record builder) :
    bench.Holds registration.child ∧ builder.index < registration.child.index ∧
      ∃ route, registration.path.Denotes route := by
  obtain ⟨deed, hdeed, hfield⟩ := List.mem_filterMap.mp hmem
  have hfits := hkeeps.fits deed hdeed
  rw [Deed.eq_of_fieldOn? hfield] at hfits
  exact hfits.2

theorem ofParts_eq_plan (hkeeps : bench.Keeps record) {index : Nat}
    {steps : List (Step (Carrier type))} {fields : List (Registration type)} {tree : Tree type}
    (hgrown : Grown record steps fields tree) {entries : List (Entry type)}
    (hentries : List.Forall₂ Entry.Records entries fields)
    (hchildren : ∀ registration ∈ fields,
      bench.Holds registration.child ∧ index < registration.child.index ∧
        ∃ route, registration.path.Denotes route) :
    Plan.ofParts steps (bench.compileFields index entries) = tree.plan := by
  -- By the growth of the tree; the entries of the draft are used up along with the fields.
  induction hgrown generalizing index with
  | finish =>
      cases hentries
      rfl
  | step hrest ih =>
      rw [Tree.plan, ← ih hentries hchildren]
      rfl
  | @field _ _ path child fields route inner rest hdenotes hinner hrest ihInner ihRest =>
      cases hentries with
      | @cons _ _ entries _ hentry hentries =>
          obtain ⟨hresolve⟩ := hentry
          rw [hdenotes.resolve_eq] at hresolve
          cases hresolve
          obtain ⟨hholds, hnewer, -⟩ := hchildren _ List.mem_cons_self
          have hdraft := hkeeps.drafts hholds
          have hcompile : bench.compile child = inner.plan := by
            rw [compile_eq, hdraft.steps]
            exact ihInner hdraft.fields fun _ hmem => hkeeps.child_of_mem hmem
          have hrestPlan : bench.compileFields index entries = rest.plan :=
            ihRest hentries fun other hother => hchildren other (List.mem_cons_of_mem _ hother)
          change bench.compileFields index (_ :: entries) = _
          rw [Tree.plan, ← hrestPlan, ← hcompile, compileFields, List.foldr_cons,
            if_pos ⟨hnewer, hholds.index_lt⟩]
          rfl

theorem compile_eq_plan (hkeeps : bench.Keeps record) (hholds : bench.Holds builder)
    {tree : Tree type} (hdescribes : Describes record builder tree) :
    bench.compile builder = tree.plan := by
  have hdraft := hkeeps.drafts hholds
  rw [compile_eq, hdraft.steps]
  exact hkeeps.ofParts_eq_plan hdescribes hdraft.fields fun _ hmem => hkeeps.child_of_mem hmem

/-! ## The tree that is described -/

theorem exists_grown {steps : List (Step (Carrier type))} {fields : List (Registration type)}
    (hfields : ∀ registration ∈ fields, (∃ route, registration.path.Denotes route) ∧
      ∃ inner, Describes record registration.child inner) :
    ∃ tree, Grown record steps fields tree := by
  induction steps with
  | nil =>
      induction fields with
      | nil => exact ⟨.finish, .finish⟩
      | cons registration fields ih =>
          obtain ⟨⟨route, hdenotes⟩, inner, hinner⟩ := hfields registration List.mem_cons_self
          obtain ⟨rest, hrest⟩ := ih fun other hother =>
            hfields other (List.mem_cons_of_mem _ hother)
          exact ⟨.field route hdenotes.1 inner rest, .field hdenotes hinner hrest⟩
  | cons s steps ih =>
      obtain ⟨rest, hrest⟩ := ih
      exact ⟨.step s rest, .step hrest⟩

theorem exists_describes (hkeeps : bench.Keeps record) (hholds : bench.Holds builder) :
    ∃ tree, Describes record builder tree := by
  induction hleft : bench.slots.length - builder.index using Nat.strongRecOn
    generalizing type with
  | ind left ih =>
      apply exists_grown
      intro registration hmem
      obtain ⟨hchild, hnewer, hdenotes⟩ := hkeeps.child_of_mem hmem
      have hlt := hchild.index_lt
      exact ⟨hdenotes, ih _ (by omega) hchild rfl⟩

end Keeps

end Workbench

end ValuePipeline
