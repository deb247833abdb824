import Mathlib.Data.List.Forall2
import ValuePipeline.Proofs.Tree
import ValuePipeline.Proofs.Workbench

/-!
# The record of what was done

A record lists, in order, the steps that were appended and the paths that were
registered, each with the builder it was done through.  It knows nothing of drafts.
A record describes a tree for each builder: the steps appended to it, then for each
path registered on it the tree of the builder that was handed out.

A bench keeps to a record if every draft holds what the record says of it.  Then
compiling a builder gives the plan of the tree that the record describes.
-/

namespace ValuePipeline

variable {Ty : Type} [TypeCode Ty] {type leaf : Ty}

inductive Deed (Ty : Type) [TypeCode Ty] where
  | appended {type : Ty} (builder : Builder type) (step : Step (Carrier type))
  | registered {type leaf : Ty} (builder : Builder type) (path : PathExpression type leaf)
      (child : Builder leaf)

structure Registration (type : Ty) where
  leaf : Ty
  path : PathExpression type leaf
  child : Builder leaf

namespace Deed

def index : Deed Ty → Nat
  | appended builder _ => builder.index
  | registered builder _ _ => builder.index

/--
The builders a deed is about are on the bench.  A builder handed out is newer than
the one it was registered on, and its path leads to a place.
-/
def Fits (bench : Workbench Ty) : Deed Ty → Prop
  | appended builder _ => bench.Holds builder
  | registered builder path child =>
      bench.Holds builder ∧ bench.Holds child ∧ builder.index < child.index ∧
        ∃ route, path.Denotes route

variable {bench : Workbench Ty} {deed : Deed Ty}

theorem Fits.index_lt (hfits : deed.Fits bench) : deed.index < bench.slots.length := by
  cases deed with
  | appended builder step => exact Workbench.Holds.index_lt hfits
  | registered builder path child => exact hfits.1.index_lt

theorem Fits.place (hfits : deed.Fits bench) (type : Ty) : deed.Fits (bench.place type).2 := by
  cases deed with
  | appended builder step => exact Workbench.Holds.place hfits type
  | registered builder path child => exact ⟨hfits.1.place type, hfits.2.1.place type, hfits.2.2⟩

end Deed

/-! ## What a record says of a builder -/

variable [DecidableEq Ty]

namespace Deed

theorem Fits.revise {deed : Deed Ty} {bench : Workbench Ty} {builder : Builder type}
    (hfits : deed.Fits bench) (hholds : bench.Holds builder) (f : Draft type → Draft type) :
    deed.Fits (bench.revise builder f) := by
  cases deed with
  | appended target step => exact Workbench.Holds.revise hfits hholds f
  | registered target path child =>
      exact ⟨hfits.1.revise hholds f, hfits.2.1.revise hholds f, hfits.2.2⟩

def stepOn? (builder : Builder type) : Deed Ty → Option (Step (Carrier type))
  | @appended _ _ other target step =>
      if same : other = type ∧ target.index = builder.index then some (same.1 ▸ step) else none
  | registered _ _ _ => none

def fieldOn? (builder : Builder type) : Deed Ty → Option (Registration type)
  | appended _ _ => none
  | @registered _ _ other leaf target path child =>
      if same : other = type ∧ target.index = builder.index then
        some (same.1 ▸ ⟨leaf, path, child⟩)
      else none

end Deed

def stepsOn (record : List (Deed Ty)) (builder : Builder type) : List (Step (Carrier type)) :=
  record.filterMap (Deed.stepOn? builder)

def fieldsOn (record : List (Deed Ty)) (builder : Builder type) : List (Registration type) :=
  record.filterMap (Deed.fieldOn? builder)

/-- The tree of a node with these steps and these fields, by what the record says of the fields. -/
inductive Grown (record : List (Deed Ty)) : {type : Ty} → List (Step (Carrier type)) →
    List (Registration type) → Tree type → Prop where
  | finish {type : Ty} : Grown record [] [] (.finish : Tree type)
  | step {type : Ty} {s : Step (Carrier type)} {steps : List (Step (Carrier type))}
      {fields : List (Registration type)} {rest : Tree type}
      (hrest : Grown record steps fields rest) : Grown record (s :: steps) fields (.step s rest)
  | field {type leaf : Ty} {path : PathExpression type leaf} {child : Builder leaf}
      {fields : List (Registration type)} {route : Route type leaf} {inner : Tree leaf}
      {rest : Tree type} (hdenotes : path.Denotes route)
      (hinner : Grown record (stepsOn record child) (fieldsOn record child) inner)
      (hrest : Grown record [] fields rest) :
      Grown record [] (⟨leaf, path, child⟩ :: fields) (.field route hdenotes.1 inner rest)

/-- The tree of a builder: its steps, and after them a field for each registered path. -/
def Describes (record : List (Deed Ty)) (builder : Builder type) (tree : Tree type) : Prop :=
  Grown record (stepsOn record builder) (fieldsOn record builder) tree

theorem Grown.unique {record : List (Deed Ty)} {steps : List (Step (Carrier type))}
    {fields : List (Registration type)} {tree other : Tree type}
    (hgrown : Grown record steps fields tree) (hother : Grown record steps fields other) :
    tree = other := by
  induction hgrown with
  | finish =>
      cases hother
      rfl
  | step hrest ih =>
      cases hother with
      | step hotherRest => rw [ih hotherRest]
  | field hdenotes hinner hrest ihInner ihRest =>
      cases hother with
      | field hotherDenotes hotherInner hotherRest =>
          obtain rfl := hdenotes.unique hotherDenotes
          rw [ihInner hotherInner, ihRest hotherRest]

/-! ## One more deed -/

variable {record : List (Deed Ty)} {builder : Builder type}

theorem stepsOn_append (deed : Deed Ty) :
    stepsOn (record ++ [deed]) builder =
      stepsOn record builder ++ (deed.stepOn? builder).toList := by
  simp only [stepsOn, List.filterMap_append]
  cases hstep : deed.stepOn? builder <;> simp [hstep]

theorem fieldsOn_append (deed : Deed Ty) :
    fieldsOn (record ++ [deed]) builder =
      fieldsOn record builder ++ (deed.fieldOn? builder).toList := by
  simp only [fieldsOn, List.filterMap_append]
  cases hfield : deed.fieldOn? builder <;> simp [hfield]

namespace Deed

theorem stepOn?_ne {deed : Deed Ty} (hne : deed.index ≠ builder.index) :
    deed.stepOn? builder = none := by
  cases deed with
  | appended target step => exact dif_neg fun h => hne h.2
  | registered target path child => rfl

theorem fieldOn?_ne {deed : Deed Ty} (hne : deed.index ≠ builder.index) :
    deed.fieldOn? builder = none := by
  cases deed with
  | appended target step => rfl
  | registered target path child => exact dif_neg fun h => hne h.2

theorem stepsOn_eq_nil (hne : ∀ deed ∈ record, deed.index ≠ builder.index) :
    stepsOn record builder = [] :=
  List.filterMap_eq_nil_iff.mpr fun deed hdeed => stepOn?_ne (hne deed hdeed)

theorem fieldsOn_eq_nil (hne : ∀ deed ∈ record, deed.index ≠ builder.index) :
    fieldsOn record builder = [] :=
  List.filterMap_eq_nil_iff.mpr fun deed hdeed => fieldOn?_ne (hne deed hdeed)

@[simp] theorem stepOn?_appended (step : Step (Carrier type)) :
    (appended builder step).stepOn? builder = some step := by
  simp [stepOn?]

@[simp] theorem fieldOn?_appended (step : Step (Carrier type)) (target : Builder leaf) :
    (appended builder step).fieldOn? target = none := rfl

@[simp] theorem stepOn?_registered {other : Ty} (path : PathExpression type leaf)
    (child : Builder leaf) (target : Builder other) :
    (registered builder path child).stepOn? target = none := rfl

@[simp] theorem fieldOn?_registered (path : PathExpression type leaf) (child : Builder leaf) :
    (registered builder path child).fieldOn? builder = some ⟨leaf, path, child⟩ := by
  simp [fieldOn?]

theorem stepOn?_eq_some_iff {deed : Deed Ty} {step : Step (Carrier type)} :
    deed.stepOn? builder = some step ↔ deed = .appended builder step := by
  constructor
  · intro hstep
    cases deed with
    | appended target taken =>
        simp only [stepOn?] at hstep
        split at hstep
        case isTrue hsame =>
            obtain ⟨rfl, hindex⟩ := hsame
            obtain rfl := Builder.eq_of_index hindex
            cases hstep
            rfl
        case isFalse => cases hstep
    | registered target path child => cases hstep
  · rintro rfl
    exact stepOn?_appended step

theorem fieldOn?_eq_some_iff {deed : Deed Ty} {registration : Registration type} :
    deed.fieldOn? builder = some registration ↔
      deed = .registered builder registration.path registration.child := by
  constructor
  · intro hfield
    cases deed with
    | appended target step => cases hfield
    | registered target path child =>
        simp only [fieldOn?] at hfield
        split at hfield
        case isTrue hsame =>
            obtain ⟨rfl, hindex⟩ := hsame
            obtain rfl := Builder.eq_of_index hindex
            cases hfield
            rfl
        case isFalse => cases hfield
  · rintro rfl
    exact fieldOn?_registered registration.path registration.child

end Deed

/-! ## Benches that keep to a record -/

inductive Entry.Records : Entry type → Registration type → Prop where
  | intro {leaf : Ty} {path : PathExpression type leaf} {chain : Chain type leaf}
      {child : Builder leaf} (hresolve : resolve path = .ok chain) :
      Records ⟨leaf, chain, child.index⟩ ⟨leaf, path, child⟩

structure Draft.Keeps (record : List (Deed Ty)) (builder : Builder type) (draft : Draft type) :
    Prop where
  steps : draft.steps = stepsOn record builder
  fields : List.Forall₂ Entry.Records draft.fields (fieldsOn record builder)

structure Workbench.Keeps (bench : Workbench Ty) (record : List (Deed Ty)) : Prop where
  fits : ∀ deed ∈ record, deed.Fits bench
  drafts : ∀ {type : Ty} {builder : Builder type}, bench.Holds builder →
    (bench.draft builder).Keeps record builder

variable {bench : Workbench Ty}

namespace Workbench.Keeps

theorem empty : ({} : Workbench Ty).Keeps [] where
  fits := by simp
  drafts := by
    intro type builder hholds
    exact absurd hholds.index_lt (Nat.not_lt_zero _)

theorem index_lt (hkeeps : bench.Keeps record) :
    ∀ deed ∈ record, deed.index < bench.slots.length :=
  fun deed hdeed => (hkeeps.fits deed hdeed).index_lt

theorem place (hkeeps : bench.Keeps record) (other : Ty) :
    (bench.place other).2.Keeps record where
  fits deed hdeed := (hkeeps.fits deed hdeed).place other
  drafts := by
    have hne : ∀ deed ∈ record, deed.index ≠ (bench.place other).1.index :=
      fun deed hdeed => Nat.ne_of_lt (hkeeps.index_lt deed hdeed)
    have hnew : ({} : Draft other).Keeps record (bench.place other).1 :=
      ⟨(Deed.stepsOn_eq_nil hne).symm, by rw [Deed.fieldsOn_eq_nil hne]; exact .nil⟩
    intro type builder hholds
    exact drafts_place (P := Draft.Keeps record) hkeeps.drafts hnew hholds

theorem revise (hkeeps : bench.Keeps record) (hholds : bench.Holds builder) {deed : Deed Ty}
    (hfits : deed.Fits bench) (hindex : deed.index = builder.index)
    {f : Draft type → Draft type}
    (hf : (f (bench.draft builder)).Keeps (record ++ [deed]) builder) :
    (bench.revise builder f).Keeps (record ++ [deed]) where
  fits other hother := by
    rcases List.mem_append.mp hother with h | h
    · exact (hkeeps.fits other h).revise hholds f
    · rw [List.mem_singleton.mp h]
      exact hfits.revise hholds f
  drafts := by
    have hothers : ∀ {type : Ty} {other : Builder type}, bench.Holds other →
        builder.index ≠ other.index →
        (bench.draft other).Keeps (record ++ [deed]) other := by
      intro type other hother hsame
      have hkept := hkeeps.drafts hother
      have hne : deed.index ≠ other.index := by
        rw [hindex]
        exact hsame
      constructor
      · rw [stepsOn_append, Deed.stepOn?_ne hne, hkept.steps]
        simp
      · rw [fieldsOn_append, Deed.fieldOn?_ne hne]
        simpa using hkept.fields
    intro type other hother
    exact drafts_revise (P := Draft.Keeps (record ++ [deed])) hholds hothers hf hother

theorem note (hkeeps : bench.Keeps record) (notices : List Notice) :
    (bench.note notices).Keeps record :=
  ⟨hkeeps.fits, hkeeps.drafts⟩

theorem addStep (hkeeps : bench.Keeps record) (hholds : bench.Holds builder)
    (step : Step (Carrier type)) :
    (bench.addStep builder step).Keeps (record ++ [.appended builder step]) := by
  have hdraft := hkeeps.drafts hholds
  have hfits : (Deed.appended builder step).Fits bench := hholds
  refine hkeeps.revise hholds hfits rfl ⟨?_, ?_⟩
  · rw [stepsOn_append, Deed.stepOn?_appended, ← hdraft.steps]
    rfl
  · rw [fieldsOn_append, Deed.fieldOn?_appended]
    simpa [Draft.addStep] using hdraft.fields

theorem register (hkeeps : bench.Keeps record) (hholds : bench.Holds builder)
    {path : PathExpression type leaf} {chain : Chain type leaf}
    (hresolve : resolve path = .ok chain) :
    (bench.register builder chain).Keeps
      (record ++ [.registered builder path ⟨bench.slots.length⟩]) := by
  have hplaced := hkeeps.place leaf
  have hdraft := hplaced.drafts (hholds.place leaf)
  obtain ⟨route, hdenotes, -⟩ := resolve_eq_ok_iff.mp hresolve
  refine (hplaced.revise (hholds.place leaf) ?_ rfl ⟨?_, ?_⟩).note _
  · exact ⟨hholds.place leaf, holds_place bench leaf, hholds.index_lt, route, hdenotes⟩
  · rw [stepsOn_append, Deed.stepOn?_registered, ← hdraft.steps]
    simp [Draft.addField]
  · rw [fieldsOn_append, Deed.fieldOn?_registered]
    exact List.rel_append hdraft.fields (.cons (.intro hresolve) .nil)

end Workbench.Keeps

end ValuePipeline
