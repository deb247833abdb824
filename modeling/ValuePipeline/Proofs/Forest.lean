import Mathlib.Logic.Relation
import ValuePipeline.Proofs.Meaning

/-!
# The drafts are a forest

Nothing in the form of a bench keeps a draft from being registered twice, or below
itself.  No call ever does it: a draft is registered when it is new, and only then.  So
each draft has one parent at most, which is older, and going down from a draft meets no
draft twice.

Building holds a draft while it goes down to those registered on it, and a draft that
is held cannot be taken again.  In a forest it never has to be.
-/

namespace ValuePipeline

variable {Ty : Type} [TypeCode Ty] {type leaf : Ty}

/-- What is registered on the draft is newer, on the bench, and neither its place nor its
builder is there twice. -/
structure Draft.Regular (bench : Workbench Ty) (builder : Builder type) (draft : Draft type) :
    Prop where
  newer : ∀ entry ∈ draft.fields,
    builder.index < entry.child ∧ bench.Holds (⟨entry.child⟩ : Builder entry.leaf)
  chains : ∀ entry ∈ draft.fields,
    ∃ route : Route type entry.leaf, 0 < route.length ∧ entry.chain = route.chain
  keys : (draft.fields.map fun entry => entry.chain.keys).Nodup
  children : (draft.fields.map Entry.child).Nodup

namespace Draft.Regular

variable {bench after : Workbench Ty} {builder : Builder type} {draft : Draft type}

theorem empty (bench : Workbench Ty) (builder : Builder type) :
    ({} : Draft type).Regular bench builder := by
  constructor <;> simp

theorem mono (hregular : draft.Regular bench builder)
    (hkept : ∀ {type : Ty} {other : Builder type}, bench.Holds other → after.Holds other) :
    draft.Regular after builder where
  newer entry hentry := ⟨(hregular.newer entry hentry).1, hkept (hregular.newer entry hentry).2⟩
  chains := hregular.chains
  keys := hregular.keys
  children := hregular.children

theorem addStep (hregular : draft.Regular bench builder) (step : Step (Carrier type)) :
    (draft.addStep step).Regular bench builder :=
  ⟨hregular.newer, hregular.chains, hregular.keys, hregular.children⟩

theorem addField (hregular : draft.Regular bench builder) {entry : Entry type}
    (hnewer : builder.index < entry.child)
    (hchild : bench.Holds (⟨entry.child⟩ : Builder entry.leaf))
    (hchain : ∃ route : Route type entry.leaf, 0 < route.length ∧ entry.chain = route.chain)
    (hkeys : ∀ other ∈ draft.fields, other.chain.keys ≠ entry.chain.keys)
    (hfree : ∀ other ∈ draft.fields, other.child ≠ entry.child) :
    (draft.addField entry).Regular bench builder where
  newer other hother := by
    rcases List.mem_append.mp hother with h | h
    · exact hregular.newer other h
    · rw [List.mem_singleton.mp h]
      exact ⟨hnewer, hchild⟩
  chains other hother := by
    rcases List.mem_append.mp hother with h | h
    · exact hregular.chains other h
    · rw [List.mem_singleton.mp h]
      exact hchain
  keys := by
    rw [Draft.addField, List.map_append, List.nodup_append]
    refine ⟨hregular.keys, by simp, ?_⟩
    simpa using hkeys
  children := by
    rw [Draft.addField, List.map_append, List.nodup_append]
    refine ⟨hregular.children, by simp, ?_⟩
    simpa using hfree

end Draft.Regular

variable [DecidableEq Ty]

namespace Workbench

/-- The second draft is registered on the first. -/
inductive Parent (bench : Workbench Ty) : Nat → Nat → Prop where
  | intro {type : Ty} {builder : Builder type} {entry : Entry type}
      (hholds : bench.Holds builder) (hentry : entry ∈ (bench.draft builder).fields) :
      Parent bench builder.index entry.child

def Below (bench : Workbench Ty) : Nat → Nat → Prop := Relation.TransGen bench.Parent

/-- Every draft on the bench is regular, and none is registered on two drafts. -/
structure IsForest (bench : Workbench Ty) : Prop where
  regular : ∀ {type : Ty} {builder : Builder type}, bench.Holds builder →
    (bench.draft builder).Regular bench builder
  parents : ∀ {parent other child : Nat}, bench.Parent parent child →
    bench.Parent other child → parent = other

variable {bench : Workbench Ty} {builder : Builder type}

theorem parent_iff (hholds : bench.Holds builder) {child : Nat} :
    bench.Parent builder.index child ↔
      ∃ entry ∈ (bench.draft builder).fields, entry.child = child := by
  constructor
  · intro hparent
    generalize hindex : builder.index = index at hparent
    obtain ⟨hother, hentry⟩ := hparent
    obtain rfl := hholds.type_eq hother hindex
    obtain rfl := Builder.eq_of_index hindex
    exact ⟨_, hentry, rfl⟩
  · rintro ⟨entry, hentry, rfl⟩
    exact .intro hholds hentry

theorem below_iff (hholds : bench.Holds builder) {lower : Nat} :
    bench.Below builder.index lower ↔
      ∃ entry ∈ (bench.draft builder).fields,
        Relation.ReflTransGen bench.Parent entry.child lower := by
  simp only [Below, Relation.TransGen.head'_iff, parent_iff hholds]
  grind

/-! ## Every call keeps the forest -/

theorem Parent.of_note {notices : List Notice} {parent child : Nat}
    (hparent : (bench.note notices).Parent parent child) : bench.Parent parent child := by
  obtain ⟨hholds, hentry⟩ := hparent
  exact .intro hholds hentry

theorem Parent.of_place {other : Ty} {parent child : Nat}
    (hparent : (bench.place other).2.Parent parent child) : bench.Parent parent child := by
  obtain ⟨hholds, hentry⟩ := hparent
  exact drafts_place
    (P := fun builder draft => ∀ entry ∈ draft.fields, bench.Parent builder.index entry.child)
    (fun hholds _ hentry => .intro hholds hentry) (by simp) hholds _ hentry

theorem Parent.of_revise {f : Draft type → Draft type} {parent child : Nat}
    (hparent : (bench.revise builder f).Parent parent child) (hholds : bench.Holds builder) :
    bench.Parent parent child ∨ parent = builder.index ∧
      ∃ entry ∈ (f (bench.draft builder)).fields, entry.child = child := by
  obtain ⟨hafter, hentry⟩ := hparent
  exact drafts_revise
    (P := fun other draft => ∀ entry ∈ draft.fields,
      bench.Parent other.index entry.child ∨ other.index = builder.index ∧
        ∃ registered ∈ (f (bench.draft builder)).fields, registered.child = entry.child)
    hholds (fun hother _ _ hentry => .inl (.intro hother hentry))
    (fun entry hentry => .inr ⟨rfl, entry, hentry, rfl⟩) hafter _ hentry

namespace IsForest

theorem empty : ({} : Workbench Ty).IsForest where
  regular hholds := absurd hholds.index_lt (Nat.not_lt_zero _)
  parents := by
    rintro _ _ _ ⟨hholds, -⟩
    exact absurd hholds.index_lt (Nat.not_lt_zero _)

theorem lt_of_parent (hforest : bench.IsForest) {parent child : Nat}
    (hparent : bench.Parent parent child) : parent < child ∧ child < bench.slots.length := by
  obtain ⟨hholds, hentry⟩ := hparent
  obtain ⟨hlt, hchild⟩ := (hforest.regular hholds).newer _ hentry
  exact ⟨hlt, hchild.index_lt⟩

theorem note (hforest : bench.IsForest) (notices : List Notice) :
    (bench.note notices).IsForest where
  regular hholds := (hforest.regular hholds).mono id
  parents hparent hother := hforest.parents hparent.of_note hother.of_note

theorem place (hforest : bench.IsForest) (other : Ty) : (bench.place other).2.IsForest where
  regular := drafts_place (P := fun builder draft => draft.Regular (bench.place other).2 builder)
    (fun hholds => (hforest.regular hholds).mono (·.place other)) (.empty _ _)
  parents hparent hother := hforest.parents hparent.of_place hother.of_place

theorem addStep (hforest : bench.IsForest) (hholds : bench.Holds builder)
    (step : Step (Carrier type)) : (bench.addStep builder step).IsForest where
  regular := drafts_revise
    (P := fun other draft => draft.Regular (bench.addStep builder step) other) hholds
    (fun hother _ => (hforest.regular hother).mono (·.revise hholds _))
    (((hforest.regular hholds).addStep step).mono (·.revise hholds _))
  parents := by
    have hparents : ∀ {parent child : Nat}, (bench.addStep builder step).Parent parent child →
        bench.Parent parent child := by
      intro parent child hparent
      rcases hparent.of_revise hholds with hbefore | ⟨rfl, entry, hentry, rfl⟩
      · exact hbefore
      · exact .intro hholds hentry
    intro parent other child hparent hother
    exact hforest.parents (hparents hparent) (hparents hother)

theorem addField (hforest : bench.IsForest) (hholds : bench.Holds builder) {entry : Entry type}
    (hnewer : builder.index < entry.child)
    (hchild : bench.Holds (⟨entry.child⟩ : Builder entry.leaf))
    (hchain : ∃ route : Route type entry.leaf, 0 < route.length ∧ entry.chain = route.chain)
    (hkeys : ∀ other ∈ (bench.draft builder).fields, other.chain.keys ≠ entry.chain.keys)
    (hfree : ∀ parent, ¬ bench.Parent parent entry.child) :
    (bench.revise builder (·.addField entry)).IsForest where
  regular := by
    have hregular : ((bench.draft builder).addField entry).Regular bench builder := by
      refine (hforest.regular hholds).addField hnewer hchild hchain hkeys ?_
      intro other hother hsame
      apply hfree builder.index
      rw [← hsame]
      exact .intro hholds hother
    intro otherType other hother
    exact drafts_revise
      (P := fun other draft => draft.Regular (bench.revise builder (·.addField entry)) other)
      hholds (fun hother _ => (hforest.regular hother).mono (·.revise hholds _))
      (hregular.mono (·.revise hholds _)) hother
  parents := by
    have hparents : ∀ {parent child : Nat},
        (bench.revise builder (·.addField entry)).Parent parent child →
          bench.Parent parent child ∨ parent = builder.index ∧ child = entry.child := by
      intro parent child hparent
      rcases hparent.of_revise hholds with hbefore | ⟨rfl, registered, hmem, rfl⟩
      · exact .inl hbefore
      · rcases List.mem_append.mp hmem with h | h
        · exact .inl (.intro hholds h)
        · rw [List.mem_singleton.mp h]
          exact .inr ⟨rfl, rfl⟩
    intro parent other child hparent hother
    rcases hparents hparent with hbefore | ⟨rfl, rfl⟩ <;>
      rcases hparents hother with hbefore' | ⟨rfl, hchild⟩
    · exact hforest.parents hbefore hbefore'
    · exact absurd (hchild ▸ hbefore) (hfree _)
    · exact absurd hbefore' (hfree _)
    · rfl

theorem register (hforest : bench.IsForest) (hholds : bench.Holds builder)
    {path : PathExpression type leaf} {chain : Chain type leaf}
    (hresolve : resolve path = .ok chain)
    (hkeys : ∀ entry ∈ (bench.draft builder).fields, entry.chain.keys ≠ chain.keys) :
    (bench.register builder chain).IsForest := by
  obtain ⟨route, hdenotes, hchain⟩ := resolve_eq_ok_iff.mp hresolve
  refine ((hforest.place leaf).addField (hholds.place leaf) hholds.index_lt
    (holds_place bench leaf) ⟨route, hdenotes.1, hchain⟩ ?_ ?_).note _
  · rw [hholds.draft_place]
    exact hkeys
  · -- The new draft was not on the bench when anything else was registered.
    intro parent hparent
    exact Nat.lt_irrefl _ (hforest.lt_of_parent hparent.of_place).2

/-! ## Going down -/

theorem le_of_descends (hforest : bench.IsForest) {upper lower : Nat}
    (hdescends : Relation.ReflTransGen bench.Parent upper lower) : upper ≤ lower := by
  induction hdescends with
  | refl => exact Nat.le_refl upper
  | tail _ hparent ih => exact Nat.le_trans ih (Nat.le_of_lt (hforest.lt_of_parent hparent).1)

theorem lt_of_below (hforest : bench.IsForest) {upper lower : Nat}
    (hbelow : bench.Below upper lower) : upper < lower := by
  obtain ⟨child, hparent, hdescends⟩ := Relation.TransGen.head'_iff.mp hbelow
  exact Nat.lt_of_lt_of_le (hforest.lt_of_parent hparent).1 (hforest.le_of_descends hdescends)

theorem not_below_self (hforest : bench.IsForest) (index : Nat) : ¬ bench.Below index index :=
  fun hbelow => Nat.lt_irrefl index (hforest.lt_of_below hbelow)

theorem descends_total (hforest : bench.IsForest) {first second lower : Nat}
    (hfirst : Relation.ReflTransGen bench.Parent first lower)
    (hsecond : Relation.ReflTransGen bench.Parent second lower) :
    Relation.ReflTransGen bench.Parent first second ∨
      Relation.ReflTransGen bench.Parent second first := by
  have hunique : Relator.RightUnique (Function.swap bench.Parent) :=
    fun _ _ _ hparent hother => hforest.parents hparent hother
  have hup := Relation.ReflTransGen.total_of_right_unique hunique hfirst.swap hsecond.swap
  exact hup.symm.imp (·.swap) (·.swap)

theorem eq_of_siblings (hforest : bench.IsForest) {parent first second lower : Nat}
    (hfirst : bench.Parent parent first) (hsecond : bench.Parent parent second)
    (hfirstLower : Relation.ReflTransGen bench.Parent first lower)
    (hsecondLower : Relation.ReflTransGen bench.Parent second lower) : first = second := by
  -- A sibling below the other would have the parent below the other too.
  have hnot : ∀ {one other : Nat}, bench.Parent parent one → bench.Parent parent other →
      Relation.ReflTransGen bench.Parent one other → one = other := by
    intro one other hone hother hdescends
    rcases Relation.ReflTransGen.cases_tail hdescends with heq | ⟨upper, hupper, hlast⟩
    · exact heq.symm
    · have hparent := hforest.parents hlast hother
      subst hparent
      have hle := hforest.le_of_descends hupper
      have hlt := (hforest.lt_of_parent hone).1
      omega
  rcases hforest.descends_total hfirstLower hsecondLower with h | h
  · exact hnot hfirst hsecond h
  · exact (hnot hsecond hfirst h).symm

end IsForest

/-! ## Building -/

/--
Building what is registered on a draft, while the drafts listed are held: each in turn is
taken, which it must be free for, built, and given back.  It gives the plan of these
entries, and the drafts in the order in which they were taken.
-/
inductive Builds (bench : Workbench Ty) : List Nat → {type : Ty} → List (Entry type) →
    Plan type → List Nat → Prop where
  | finish {held : List Nat} {type : Ty} : Builds bench held ([] : List (Entry type)) .finish []
  | field {held : List Nat} {type leaf : Ty} {chain : Chain type leaf} {child : Builder leaf}
      {entries : List (Entry type)} {inner : Plan leaf} {rest : Plan type} {below later : List Nat}
      (hholds : bench.Holds child) (hfree : child.index ∉ held)
      (hinner : Builds bench (child.index :: held) (bench.draft child).fields inner below)
      (hrest : Builds bench held entries rest later) :
      Builds bench held (⟨leaf, chain, child.index⟩ :: entries)
        (.field chain (.ofParts (bench.draft child).steps inner) rest)
        (child.index :: below ++ later)

def BuildsFrom (bench : Workbench Ty) (builder : Builder type) (plan : Plan type)
    (taken : List Nat) : Prop :=
  ∃ fields below, bench.Builds [builder.index] (bench.draft builder).fields fields below ∧
    plan = .ofParts (bench.draft builder).steps fields ∧ taken = builder.index :: below

theorem compileFields_cons {index : Nat} {entry : Entry type} {entries : List (Entry type)}
    (hnewer : index < entry.child) (hlt : entry.child < bench.slots.length) :
    bench.compileFields index (entry :: entries) =
      .field entry.chain (bench.compile (⟨entry.child⟩ : Builder entry.leaf))
        (bench.compileFields index entries) := by
  rw [compileFields, List.foldr_cons, if_pos ⟨hnewer, hlt⟩]
  rfl

namespace IsForest

theorem exists_builds (hforest : bench.IsForest) (hholds : bench.Holds builder)
    {held : List Nat} (hheld : ∀ index ∈ held, index ≤ builder.index) :
    ∃ taken, bench.Builds held (bench.draft builder).fields
      (bench.compileFields builder.index (bench.draft builder).fields) taken := by
  induction hleft : bench.slots.length - builder.index using Nat.strongRecOn
    generalizing type held with
  | ind left ih =>
      have hentries : ∀ entries : List (Entry type),
          (∀ entry ∈ entries, entry ∈ (bench.draft builder).fields) →
          ∃ taken, bench.Builds held entries (bench.compileFields builder.index entries) taken := by
        intro entries hmem
        induction entries with
        | nil => exact ⟨[], .finish⟩
        | cons entry entries ihEntries =>
            obtain ⟨later, hrest⟩ := ihEntries fun other hother =>
              hmem other (List.mem_cons_of_mem _ hother)
            obtain ⟨hnewer, hchild⟩ :=
              (hforest.regular hholds).newer entry (hmem entry List.mem_cons_self)
            have hlt : entry.child < bench.slots.length := hchild.index_lt
            have hfree : entry.child ∉ held := fun hentry =>
              Nat.not_lt_of_le (hheld _ hentry) hnewer
            have hheldBelow : ∀ index ∈ entry.child :: held, index ≤ entry.child := by
              intro index hindex
              rcases List.mem_cons.mp hindex with rfl | h
              · exact Nat.le_refl _
              · exact Nat.le_trans (hheld index h) (Nat.le_of_lt hnewer)
            obtain ⟨below, hinner⟩ := ih (bench.slots.length - entry.child) (by omega) hchild
              hheldBelow rfl
            rw [compileFields_cons hnewer hlt, compile_eq]
            exact ⟨_, .field hchild hfree hinner hrest⟩
      exact hentries _ fun _ hmem => hmem

end IsForest

theorem Builds.mem_iff {held : List Nat} {entries : List (Entry type)} {plan : Plan type}
    {taken : List Nat} (hbuilds : bench.Builds held entries plan taken) (index : Nat) :
    index ∈ taken ↔
      ∃ entry ∈ entries, Relation.ReflTransGen bench.Parent entry.child index := by
  induction hbuilds with
  | finish => simp
  | @field held type leaf chain child entries inner rest below later hholds hfree hinner hrest
      ihInner ihRest =>
      rw [List.cons_append, List.mem_cons, List.mem_append, ihInner, ihRest, ← below_iff hholds,
        ← or_assoc, Below, ← Relation.reflTransGen_iff_eq_or_transGen]
      simp

theorem Builds.nodup (hforest : bench.IsForest) {held : List Nat} {entries : List (Entry type)}
    {plan : Plan type} {taken : List Nat} (hbuilds : bench.Builds held entries plan taken)
    {parent : Nat} (hparent : ∀ entry ∈ entries, bench.Parent parent entry.child)
    (hdistinct : (entries.map Entry.child).Nodup) : taken.Nodup := by
  induction hbuilds generalizing parent with
  | finish => exact List.nodup_nil
  | @field held type leaf chain child entries inner rest below later hholds hfree hinner hrest
      ihInner ihRest =>
      have hchildren : ∀ entry ∈ (bench.draft child).fields,
          bench.Parent child.index entry.child := fun entry hentry => .intro hholds hentry
      obtain ⟨hnew, hdistinctRest⟩ := List.nodup_cons.mp hdistinct
      have hparentRest : ∀ entry ∈ entries, bench.Parent parent entry.child :=
        fun entry hentry => hparent entry (List.mem_cons_of_mem _ hentry)
      have hsubtree : ∀ index ∈ child.index :: below,
          Relation.ReflTransGen bench.Parent child.index index := by
        intro index hindex
        rcases List.mem_cons.mp hindex with rfl | h
        · exact .refl
        · obtain ⟨entry, hentry, hdescends⟩ := (hinner.mem_iff index).mp h
          exact .head (hchildren entry hentry) hdescends
      refine List.nodup_append.mpr
        ⟨List.nodup_cons.mpr ⟨?_, ?_⟩, ihRest hparentRest hdistinctRest, ?_⟩
      · intro hself
        obtain ⟨entry, hentry, hdescends⟩ := (hinner.mem_iff child.index).mp hself
        exact hforest.not_below_self _ (.head' (hchildren entry hentry) hdescends)
      · exact ihInner hchildren (hforest.regular hholds).children
      · -- What is taken for another entry is below that entry's draft, so not below this one.
        rintro index hindex _ hlater rfl
        obtain ⟨entry, hentry, hdescends⟩ := (hrest.mem_iff index).mp hlater
        have hsame := hforest.eq_of_siblings (hparent _ List.mem_cons_self)
          (hparentRest entry hentry) (hsubtree index hindex) hdescends
        exact hnew (List.mem_map.mpr ⟨entry, hentry, hsame.symm⟩)

end Workbench

/-! ## Sessions -/

namespace Session

variable {session : Session Ty}

theorem isForest_move {next : Session Ty} (hsound : session.Sound)
    (hforest : session.bench.IsForest) (hmove : session.Move next) : next.bench.IsForest := by
  cases hmove with
  | idle => exact hforest
  | placed type => exact hforest.place type
  | copied hknown => exact hforest
  | appended hknown step => exact hforest.addStep (hsound.holds _ hknown) step
  | registered hknown hresolve hnew => exact hforest.register (hsound.holds _ hknown) hresolve hnew
  | built hknown => exact hforest.note _

theorem isForest_foldl (hsound : session.Sound) (hforest : session.bench.IsForest)
    (calls : List (Call Ty)) : (calls.foldl perform session).bench.IsForest := by
  induction calls generalizing session with
  | nil => exact hforest
  | cons call calls ih =>
      have hmove := move_perform session call
      exact ih (hsound.move hmove) (isForest_move hsound hforest hmove)

theorem isForest_after (calls : List (Call Ty)) : (after calls).bench.IsForest :=
  isForest_foldl ⟨by simp, .empty⟩ .empty calls

/--
Whatever is called, the drafts are a forest, and building a builder takes its draft and
each draft below it once, and none that is held.
-/
theorem bench_isForest (calls : List (Call Ty)) :
    (after calls).bench.IsForest ∧ (∀ index, ¬ (after calls).bench.Below index index) ∧
    ∀ {type : Ty} {builder : Builder type}, ⟨type, builder⟩ ∈ (after calls).handles →
      ∃ taken,
        (after calls).bench.BuildsFrom builder ((after calls).bench.compile builder) taken ∧
        taken.Nodup ∧
        ∀ index, index ∈ taken ↔
          index = builder.index ∨ (after calls).bench.Below builder.index index := by
  have hforest := isForest_after calls
  refine ⟨hforest, hforest.not_below_self, ?_⟩
  intro type builder hknown
  have hholds := (sound_after calls).holds _ hknown
  have hheld : ∀ index ∈ [builder.index], index ≤ builder.index := by simp
  obtain ⟨below, hbuilds⟩ := hforest.exists_builds hholds hheld
  have hmem : ∀ index, index ∈ below ↔ (after calls).bench.Below builder.index index := by
    intro index
    rw [hbuilds.mem_iff, Workbench.below_iff hholds]
  refine ⟨builder.index :: below, ⟨_, below, hbuilds, Workbench.compile_eq _ _, rfl⟩, ?_, ?_⟩
  · rw [List.nodup_cons, hmem]
    exact ⟨hforest.not_below_self _, hbuilds.nodup hforest
      (fun _ hentry => .intro hholds hentry) (hforest.regular hholds).children⟩
  · intro index
    rw [List.mem_cons, hmem]

theorem bench_isForest_twoLevels :
    ⟨.order, ⟨0⟩⟩ ∈ (after Goods.twoLevels).handles ∧
      ∃ taken, (after Goods.twoLevels).bench.BuildsFrom (⟨0⟩ : Builder Goods.order)
        ((after Goods.twoLevels).bench.compile ⟨0⟩) taken ∧ taken.Nodup ∧
        0 ∈ taken ∧ 1 ∈ taken ∧ 2 ∈ taken := by
  have hknown : ⟨.order, ⟨0⟩⟩ ∈ (after Goods.twoLevels).handles := List.mem_cons_self
  have horder : (after Goods.twoLevels).bench.Holds (⟨0⟩ : Builder Goods.order) := ⟨_, rfl⟩
  have hitem : (after Goods.twoLevels).bench.Holds (⟨1⟩ : Builder Goods.item) := ⟨_, rfl⟩
  have hfirst : (after Goods.twoLevels).bench.Parent 0 1 :=
    (Workbench.parent_iff horder).mpr ⟨_, List.mem_cons_self, rfl⟩
  have hsecond : (after Goods.twoLevels).bench.Parent 1 2 :=
    (Workbench.parent_iff hitem).mpr ⟨_, List.mem_cons_self, rfl⟩
  obtain ⟨-, -, hbuilt⟩ := bench_isForest Goods.twoLevels
  obtain ⟨taken, hbuilds, hnodup, hmem⟩ := hbuilt hknown
  exact ⟨hknown, taken, hbuilds, hnodup, (hmem 0).mpr (.inl rfl),
    (hmem 1).mpr (.inr (.single hfirst)), (hmem 2).mpr (.inr (.tail (.single hfirst) hsecond))⟩

end Session

end ValuePipeline
