import ValuePipeline.Builder

/-!
# The workbench

What each operation does to the drafts on the bench.  A draft that is on the bench
stays there; a new one is empty; a change reaches the draft it is meant for and no
other.  The later modules know the bench by these laws only.
-/

namespace ValuePipeline

theorem Builder.eq_of_index {Ty : Type} {type : Ty} {builder other : Builder type}
    (hindex : builder.index = other.index) : builder = other := by
  cases builder
  cases other
  cases hindex
  rfl

variable {Ty : Type} [TypeCode Ty]

namespace Workbench

variable {type leaf : Ty}

def Holds (bench : Workbench Ty) (builder : Builder type) : Prop :=
  ∃ draft : Draft type, bench.slots[builder.index]? = some ⟨type, draft⟩

variable {bench : Workbench Ty} {builder : Builder type}

theorem Holds.index_lt (hholds : bench.Holds builder) : builder.index < bench.slots.length := by
  obtain ⟨draft, hslot⟩ := hholds
  exact (List.getElem?_eq_some_iff.mp hslot).1

theorem Holds.type_eq {other : Builder leaf} (hholds : bench.Holds builder)
    (hother : bench.Holds other) (hindex : builder.index = other.index) : type = leaf := by
  obtain ⟨draft, hslot⟩ := hholds
  obtain ⟨draft', hslot'⟩ := hother
  rw [hindex, hslot'] at hslot
  cases hslot
  rfl

theorem Holds.note (hholds : bench.Holds builder) (notices : List Notice) :
    (bench.note notices).Holds builder :=
  hholds

theorem note_note (bench : Workbench Ty) (notices later : List Notice) :
    (bench.note notices).note later = bench.note (notices ++ later) := by
  simp only [note, List.append_assoc]

/-! ## A new draft -/

theorem holds_place (bench : Workbench Ty) (type : Ty) :
    (bench.place type).2.Holds (bench.place type).1 :=
  ⟨{}, by simp [place]⟩

theorem slot_place {slot : Slot Ty} {index : Nat} (other : Ty)
    (hslot : bench.slots[index]? = some slot) :
    (bench.place other).2.slots[index]? = some slot := by
  have hlt := (List.getElem?_eq_some_iff.mp hslot).1
  rw [place, List.getElem?_append_left hlt]
  exact hslot

theorem Holds.place (hholds : bench.Holds builder) (other : Ty) :
    (bench.place other).2.Holds builder := by
  obtain ⟨draft, hslot⟩ := hholds
  exact ⟨draft, slot_place other hslot⟩

theorem Holds.of_place {other : Ty} (hholds : (bench.place other).2.Holds builder)
    (hlt : builder.index < bench.slots.length) : bench.Holds builder := by
  obtain ⟨draft, hslot⟩ := hholds
  rw [Workbench.place, List.getElem?_append_left hlt] at hslot
  exact ⟨draft, hslot⟩

theorem holds_place_cases {other : Ty} (hholds : (bench.place other).2.Holds builder) :
    bench.Holds builder ∨ builder.index = bench.slots.length ∧ type = other := by
  by_cases hlt : builder.index < bench.slots.length
  · exact .inl (hholds.of_place hlt)
  · have hindex : builder.index = bench.slots.length := by
      have hlt' := hholds.index_lt
      simp only [Workbench.place, List.length_append, List.length_singleton] at hlt'
      omega
    exact .inr ⟨hindex, hholds.type_eq (holds_place bench other) hindex⟩

variable [DecidableEq Ty]

theorem draft_eq_of_slot {draft : Draft type}
    (hslot : bench.slots[builder.index]? = some ⟨type, draft⟩) : bench.draft builder = draft := by
  simp [Workbench.draft, hslot]

theorem draft_note (notices : List Notice) :
    (bench.note notices).draft builder = bench.draft builder := rfl

theorem draft_place (bench : Workbench Ty) (type : Ty) :
    (bench.place type).2.draft (bench.place type).1 = {} :=
  draft_eq_of_slot (by simp [place])

theorem Holds.draft_place (hholds : bench.Holds builder) (other : Ty) :
    (bench.place other).2.draft builder = bench.draft builder := by
  obtain ⟨draft, hslot⟩ := hholds
  rw [draft_eq_of_slot hslot, draft_eq_of_slot (slot_place other hslot)]

theorem drafts_place {P : ∀ {type : Ty}, Builder type → Draft type → Prop} {other : Ty}
    (hold : ∀ {type : Ty} {builder : Builder type}, bench.Holds builder →
      P builder (bench.draft builder))
    (hnew : P (bench.place other).1 {}) (hholds : (bench.place other).2.Holds builder) :
    P builder ((bench.place other).2.draft builder) := by
  rcases holds_place_cases hholds with hbefore | ⟨hindex, rfl⟩
  · rw [hbefore.draft_place]
    exact hold hbefore
  · obtain rfl : builder = (bench.place type).1 := Builder.eq_of_index hindex
    rw [draft_place]
    exact hnew

/-! ## A change of a draft -/

theorem slot_revise_self {draft : Draft type} (f : Draft type → Draft type)
    (hslot : bench.slots[builder.index]? = some ⟨type, draft⟩) :
    (bench.revise builder f).slots[builder.index]? = some ⟨type, f draft⟩ := by
  simp [revise, hslot]

theorem slot_revise_ne {index : Nat} (f : Draft type → Draft type)
    (hne : builder.index ≠ index) :
    (bench.revise builder f).slots[index]? = bench.slots[index]? := by
  simp [revise, hne]

theorem draft_revise_self (hholds : bench.Holds builder) (f : Draft type → Draft type) :
    (bench.revise builder f).draft builder = f (bench.draft builder) := by
  obtain ⟨draft, hslot⟩ := hholds
  rw [draft_eq_of_slot hslot, draft_eq_of_slot (slot_revise_self f hslot)]

theorem draft_revise_ne {other : Builder leaf} (f : Draft type → Draft type)
    (hne : builder.index ≠ other.index) :
    (bench.revise builder f).draft other = bench.draft other := by
  simp only [Workbench.draft, slot_revise_ne f hne]

theorem Holds.revise {other : Builder leaf} (hother : bench.Holds other)
    (hholds : bench.Holds builder) (f : Draft type → Draft type) :
    (bench.revise builder f).Holds other := by
  by_cases hindex : builder.index = other.index
  · have htype := hholds.type_eq hother hindex
    subst htype
    obtain ⟨draft, hslot⟩ := hother
    rw [← hindex] at hslot
    exact ⟨f draft, by rw [← hindex]; exact slot_revise_self f hslot⟩
  · obtain ⟨draft, hslot⟩ := hother
    exact ⟨draft, by rw [slot_revise_ne f hindex]; exact hslot⟩

theorem Holds.of_revise {other : Builder leaf} {f : Draft type → Draft type}
    (hother : (bench.revise builder f).Holds other) (hholds : bench.Holds builder) :
    bench.Holds other := by
  by_cases hindex : builder.index = other.index
  · have htype := (hholds.revise hholds f).type_eq hother hindex
    subst htype
    obtain ⟨draft, hslot⟩ := hholds
    exact ⟨draft, by rw [← hindex]; exact hslot⟩
  · obtain ⟨draft, hslot⟩ := hother
    exact ⟨draft, by rw [← slot_revise_ne f hindex]; exact hslot⟩

theorem drafts_revise {P : ∀ {type : Ty}, Builder type → Draft type → Prop}
    {target : Builder leaf} {f : Draft leaf → Draft leaf} (htarget : bench.Holds target)
    (hold : ∀ {type : Ty} {builder : Builder type}, bench.Holds builder →
      target.index ≠ builder.index → P builder (bench.draft builder))
    (hnew : P target (f (bench.draft target))) (hholds : (bench.revise target f).Holds builder) :
    P builder ((bench.revise target f).draft builder) := by
  have hbefore := hholds.of_revise htarget
  by_cases hindex : target.index = builder.index
  · obtain rfl := htarget.type_eq hbefore hindex
    obtain rfl := Builder.eq_of_index hindex
    rw [draft_revise_self htarget]
    exact hnew
  · rw [draft_revise_ne f hindex]
    exact hold hbefore hindex

/-! ## Registering a field -/

def register (bench : Workbench Ty) (builder : Builder type) (chain : Chain type leaf) :
    Workbench Ty :=
  ((bench.place leaf).2.revise builder (·.addField ⟨leaf, chain, bench.slots.length⟩)).note
    [.fieldRegistered (TypeCode.name type) chain.path chain.length]

theorem length_register (bench : Workbench Ty) (builder : Builder type) (chain : Chain type leaf) :
    (bench.register builder chain).slots.length = bench.slots.length + 1 := by
  simp [register, place, revise, note]

theorem draft_register_new (hholds : bench.Holds builder) (chain : Chain type leaf) :
    (bench.register builder chain).draft (⟨bench.slots.length⟩ : Builder leaf) = {} := by
  have hne : builder.index ≠ (⟨bench.slots.length⟩ : Builder leaf).index :=
    Nat.ne_of_lt hholds.index_lt
  rw [register, draft_note, draft_revise_ne _ hne]
  exact draft_place bench leaf

theorem addField_eq (path : PathExpression type leaf) :
    bench.addField builder path =
      match resolve path with
      | .error error => .error error
      | .ok chain =>
          if (bench.draft builder).fields.any fun entry => entry.chain.keys = chain.keys then
            .error (.duplicateField chain.path)
          else .ok (⟨bench.slots.length⟩, bench.register builder chain) := by
  simp only [addField]
  cases resolve path with
  | error error => rfl
  | ok chain =>
      simp only [bind, Except.bind]
      split <;> rfl

theorem Holds.register {other : Builder leaf} (hother : bench.Holds other)
    {target : Builder type} (htarget : bench.Holds target) {part : Ty} (chain : Chain type part) :
    (bench.register target chain).Holds other :=
  ((hother.place part).revise (htarget.place part) _).note _

theorem holds_register (hholds : bench.Holds builder) (chain : Chain type leaf) :
    (bench.register builder chain).Holds (⟨bench.slots.length⟩ : Builder leaf) :=
  ((holds_place bench leaf).revise (hholds.place leaf) _).note _

end Workbench

variable {type leaf : Ty} [DecidableEq Ty]

theorem Builder.run_addField (builder : Builder type) (path : PathExpression type leaf)
    (bench : Workbench Ty) :
    ((builder.addField path : Setup Ty (Builder leaf)).run.run bench).run =
      match bench.addField builder path with
      | .ok (child, after) => (.ok child, after)
      | .error error => (.error error, bench) := by
  change ((match bench.addField builder path with
    | .ok (child, bench) => (do set bench; return child : Setup Ty (Builder leaf))
    | .error error => throw error).run.run bench).run = _
  cases bench.addField builder path <;> rfl

end ValuePipeline
