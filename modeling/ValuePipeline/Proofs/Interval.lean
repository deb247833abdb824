import Mathlib.Data.Char
import Mathlib.Data.Prod.Lex
import Mathlib.Order.MinMax
import ValuePipeline.Proofs.Reckoning
import ValuePipeline.Proofs.Rules
import ValuePipeline.Steps.Bounds
import ValuePipeline.ValueType

/-!
# Bounds one after another

Where any two values compare, a lower bound takes the greater of two values and an upper
bound the lesser.  A list of bounds then has a normal form: it takes each value to the
nearest one of a single interval.  A bound that lies beyond the interval so far shrinks it
to a point, and the ends never cross.
-/

namespace ValuePipeline

/-- Any two values compare, and they do so as in a linear order. -/
class LinearComparison (α : Type) [LinearOrder α] [PartialComparison α] : Prop where
  compare?_eq (a b : α) : compare? a b = some (compare a b)

export LinearComparison (compare?_eq)

/-! ## Types with a linear order -/

namespace BoundedInt

variable {low high : Int}

theorem val_injective : Function.Injective (val : BoundedInt low high → Int) := by
  rintro ⟨a, _, _⟩ ⟨b, _, _⟩ rfl
  rfl

instance : LinearOrder (BoundedInt low high) := LinearOrder.lift' val val_injective

instance : LinearComparison (BoundedInt low high) := ⟨fun _ _ => rfl⟩

end BoundedInt

theorem compare_toLex {α β : Type} [LinearOrder α] [LinearOrder β] (a c : α) (b d : β) :
    compare (toLex (a, b)) (toLex (c, d)) = (compare a c).then (compare b d) := by
  rcases lt_trichotomy a c with hless | rfl | hmore
  · rw [compare_lt_iff_lt.mpr hless]
    exact compare_lt_iff_lt.mpr (Prod.Lex.toLex_lt_toLex.mpr (.inl hless))
  · rw [compare_eq_iff_eq.mpr (rfl : a = a), Ordering.then]
    rcases lt_trichotomy b d with hless | rfl | hmore
    · rw [compare_lt_iff_lt.mpr hless]
      exact compare_lt_iff_lt.mpr (Prod.Lex.toLex_lt_toLex.mpr (.inr ⟨rfl, hless⟩))
    · rw [compare_eq_iff_eq.mpr (rfl : b = b), compare_eq_iff_eq]
    · rw [compare_gt_iff_gt.mpr hmore]
      exact compare_gt_iff_gt.mpr (Prod.Lex.toLex_lt_toLex.mpr (.inr ⟨rfl, hmore⟩))
  · rw [compare_gt_iff_gt.mpr hmore]
    exact compare_gt_iff_gt.mpr (Prod.Lex.toLex_lt_toLex.mpr (.inl hmore))

namespace TimeDelta

def key (delta : TimeDelta) : Int ×ₗ Nat := toLex (delta.seconds, delta.nanos)

theorem key_injective : Function.Injective key := by
  rintro ⟨_, _⟩ ⟨_, _⟩ hkey
  cases hkey
  rfl

instance : LinearOrder TimeDelta := LinearOrder.lift' key key_injective

instance : LinearComparison TimeDelta :=
  ⟨fun a b => congrArg some (compare_toLex a.seconds b.seconds a.nanos b.nanos).symm⟩

end TimeDelta

namespace Instant

def key (instant : Instant) : Int ×ₗ Nat := toLex (instant.seconds, instant.nanos)

theorem key_injective : Function.Injective key := by
  rintro ⟨_, _⟩ ⟨_, _⟩ hkey
  cases hkey
  rfl

instance : LinearOrder Instant := LinearOrder.lift' key key_injective

instance : LinearComparison Instant :=
  ⟨fun a b => congrArg some (compare_toLex a.seconds b.seconds a.nanos b.nanos).symm⟩

end Instant

instance : LinearComparison Char where
  compare?_eq a b := by
    have hsame : cmp a.toNat b.toNat = cmp a b := StrictMono.cmp_map_eq (fun _ _ hless => hless) a b
    rw [cmp_eq_compare, cmp_eq_compare] at hsame
    exact congrArg some hsame

instance : LinearComparison Bool := ⟨by decide⟩

section Scalars

variable {R : Type} [Schema R] {scalar : Scalar}

instance [PartialComparison scalar.Carrier] :
    PartialComparison (Carrier (ValueType.scalar (R := R) scalar)) :=
  inferInstanceAs (PartialComparison scalar.Carrier)

instance [LinearOrder scalar.Carrier] :
    LinearOrder (Carrier (ValueType.scalar (R := R) scalar)) :=
  inferInstanceAs (LinearOrder scalar.Carrier)

instance [LinearOrder scalar.Carrier] [PartialComparison scalar.Carrier]
    [LinearComparison scalar.Carrier] :
    LinearComparison (Carrier (ValueType.scalar (R := R) scalar)) :=
  inferInstanceAs (LinearComparison scalar.Carrier)

end Scalars

/-! ## Intervals -/

/-- A closed interval.  An end that is absent bounds nothing. -/
structure Interval (α : Type) [LinearOrder α] where
  low : Option α
  high : Option α
  low_le_high : ∀ a ∈ low, ∀ b ∈ high, a ≤ b

namespace Interval

variable {α : Type} [LinearOrder α]

def whole : Interval α := ⟨none, none, by simp⟩

def Contains (interval : Interval α) (value : α) : Prop :=
  (∀ a ∈ interval.low, a ≤ value) ∧ ∀ b ∈ interval.high, value ≤ b

def nearest (interval : Interval α) (value : α) : α :=
  interval.low.elim id max (interval.high.elim id min value)

def raise (bound : α) (interval : Interval α) : Interval α where
  low := some (interval.low.elim bound (max bound))
  high := interval.high.map (max bound)
  low_le_high := by
    intro _ hlow _ hhigh
    obtain rfl := Option.mem_some_iff.mp hlow
    obtain ⟨high, hmem, rfl⟩ := Option.map_eq_some_iff.mp hhigh
    cases hlow : interval.low with
    | none => exact le_max_left bound high
    | some low => exact max_le_max le_rfl (interval.low_le_high low hlow high hmem)

def lower (bound : α) (interval : Interval α) : Interval α where
  low := interval.low.map (min bound)
  high := some (interval.high.elim bound (min bound))
  low_le_high := by
    intro _ hlow _ hhigh
    obtain rfl := Option.mem_some_iff.mp hhigh
    obtain ⟨low, hmem, rfl⟩ := Option.map_eq_some_iff.mp hlow
    cases hhigh : interval.high with
    | none => exact min_le_left bound low
    | some high => exact min_le_min le_rfl (interval.low_le_high low hmem high hhigh)

variable {interval : Interval α} {bound value : α}

theorem max_min_max (a b c : α) : max a (min (max a b) c) = max a (min b c) := by
  rw [max_min_distrib_left, max_min_distrib_left, ← max_assoc, max_self]

theorem nearest_raise :
    (interval.raise bound).nearest value = max bound (interval.nearest value) := by
  obtain ⟨low, high, hordered⟩ := interval
  cases low with
  | none =>
      cases high with
      | none => rfl
      | some high => exact max_min_max bound high value
  | some low =>
      cases high with
      | none => exact max_assoc bound low value
      | some high =>
          change max (max bound low) (min (max bound high) value) =
            max bound (max low (min high value))
          rw [max_right_comm, max_min_max, max_right_comm, max_assoc]

theorem nearest_lower :
    (interval.lower bound).nearest value = min bound (interval.nearest value) := by
  obtain ⟨low, high, hordered⟩ := interval
  cases low with
  | none =>
      cases high with
      | none => rfl
      | some high => exact min_assoc bound high value
  | some low =>
      cases high with
      | none => exact (min_max_distrib_left bound low value).symm
      | some high =>
          change max (min bound low) (min (min bound high) value) =
            min bound (max low (min high value))
          rw [min_max_distrib_left, min_assoc]

theorem contains_nearest : interval.Contains (interval.nearest value) := by
  obtain ⟨low, high, hordered⟩ := interval
  cases low <;> cases high <;> simp_all [Contains, nearest]

theorem nearest_eq_self (hvalue : interval.Contains value) : interval.nearest value = value := by
  obtain ⟨low, high, hordered⟩ := interval
  cases low <;> cases high <;> simp_all [Contains, nearest]

theorem monotone_nearest (interval : Interval α) : Monotone interval.nearest := by
  have hmax : Monotone (interval.low.elim id max) := by
    cases interval.low with
    | none => exact monotone_id
    | some low => exact fun _ _ hle => max_le_max le_rfl hle
  have hmin : Monotone (interval.high.elim id min) := by
    cases interval.high with
    | none => exact monotone_id
    | some high => exact fun _ _ hle => min_le_min le_rfl hle
  exact hmax.comp hmin

end Interval

/-! ## Bounds -/

inductive Bound (α : Type) where
  | atLeast (low : α)
  | atMost (high : α)
  | within (low high : α)
  deriving DecidableEq, Repr

namespace Bound

section Steps

variable {α : Type} [PartialComparison α]

def step? : Bound α → Except StepError (Step α)
  | atLeast low => .ok (Bounds.max low)
  | atMost high => .ok (Bounds.min high)
  | within low high => Bounds.clamp low high

def name : Bound α → String
  | atLeast _ => "max"
  | atMost _ => "min"
  | within _ _ => "clamp"

def apply : Bound α → α → α
  | atLeast low => Bounds.raise low
  | atMost high => Bounds.lower high
  | within low high => Bounds.keepWithin low high

def step (bound : Bound α) : Step α := .total bound.name bound.apply

def applyAll (bounds : List (Bound α)) (value : α) : α :=
  bounds.foldl (fun value bound => bound.apply value) value

theorem applyAll_append (bounds later : List (Bound α)) (value : α) :
    applyAll (bounds ++ later) value = applyAll later (applyAll bounds value) :=
  List.foldl_append

theorem leave_steps (bounds : List (Bound α)) (value : α) :
    Step.leave (bounds.map step) value = .ok (applyAll bounds value) :=
  Step.leave_total name apply bounds value

end Steps

variable {α : Type} [LinearOrder α]

def Ordered : Bound α → Prop
  | within low high => low ≤ high
  | _ => True

def Met (value : α) : Bound α → Prop
  | atLeast low => low ≤ value
  | atMost high => value ≤ high
  | within low high => low ≤ value ∧ value ≤ high

variable [PartialComparison α] [LinearComparison α] {low high value : α}

theorem compare?_lt_iff : compare? low high = some .lt ↔ low < high := by
  rw [compare?_eq, Option.some_inj, compare_lt_iff_lt]

theorem compare?_gt_iff : compare? low high = some .gt ↔ high < low := by
  rw [compare?_eq, Option.some_inj, compare_gt_iff_gt]

theorem raise_eq : Bounds.raise low value = max low value := by
  rcases lt_or_ge value low with hless | hless
  · rw [max_eq_left hless.le]
    exact if_pos (compare?_lt_iff.mpr hless)
  · rw [max_eq_right hless]
    exact if_neg (compare?_lt_iff.not.mpr hless.not_gt)

theorem lower_eq : Bounds.lower high value = min high value := by
  rcases lt_or_ge high value with hmore | hmore
  · rw [min_eq_left hmore.le]
    exact if_pos (compare?_gt_iff.mpr hmore)
  · rw [min_eq_right hmore]
    exact if_neg (compare?_gt_iff.not.mpr hmore.not_gt)

theorem keepWithin_eq (hordered : low ≤ high) :
    Bounds.keepWithin low high value = max low (min high value) := by
  rcases lt_or_ge value low with hless | hless
  · rw [max_eq_left ((min_le_right _ _).trans hless.le)]
    exact if_pos (compare?_lt_iff.mpr hless)
  · -- A value that is not too low is treated as by the upper bound alone.
    rw [max_eq_right (le_min hordered hless), ← lower_eq]
    exact if_neg (compare?_lt_iff.not.mpr hless.not_gt)

theorem clamp_eq : Bounds.clamp low high =
    if low ≤ high then .ok (within low high).step else .error .invalidBounds := by
  rw [Bounds.clamp, compare?_eq]
  rcases lt_trichotomy low high with hless | rfl | hmore
  · rw [compare_lt_iff_lt.mpr hless, if_pos hless.le]
    rfl
  · rw [compare_eq_iff_eq.mpr (rfl : low = low), if_pos le_rfl]
    rfl
  · rw [compare_gt_iff_gt.mpr hmore, if_neg (not_le.mpr hmore)]
    rfl

theorem step?_eq (bound : Bound α) :
    (bound.Ordered → bound.step? = .ok bound.step) ∧
      (¬ bound.Ordered → bound.step? = .error .invalidBounds) := by
  cases bound with
  | atLeast low => exact ⟨fun _ => rfl, fun h => absurd trivial h⟩
  | atMost high => exact ⟨fun _ => rfl, fun h => absurd trivial h⟩
  | within low high =>
      exact ⟨fun hordered => clamp_eq.trans (if_pos hordered),
        fun hordered => clamp_eq.trans (if_neg hordered)⟩

theorem step?_isOk_iff (bound : Bound α) :
    (∃ step, bound.step? = .ok step) ↔ bound.Ordered := by
  refine ⟨fun ⟨_, hstep⟩ => ?_, fun hordered => ⟨_, bound.step?_eq.1 hordered⟩⟩
  by_contra hordered
  rw [bound.step?_eq.2 hordered] at hstep
  cases hstep

theorem mapM_step? {bounds : List (Bound α)} (hordered : ∀ bound ∈ bounds, bound.Ordered) :
    bounds.mapM step? = .ok (bounds.map step) := by
  induction bounds with
  | nil => rfl
  | cons bound bounds ih =>
      obtain ⟨hbound, hbounds⟩ := List.forall_mem_cons.mp hordered
      rw [List.mapM_cons, bound.step?_eq.1 hbound, ih hbounds]
      rfl

/-! ## Lists of bounds -/

def narrow : Bound α → Interval α → Interval α
  | atLeast low => .raise low
  | atMost high => .lower high
  | within low high => fun interval => (interval.lower high).raise low

theorem apply_nearest {bound : Bound α} (hordered : bound.Ordered) (interval : Interval α)
    (value : α) : bound.apply (interval.nearest value) = (bound.narrow interval).nearest value := by
  cases bound with
  | atLeast low => exact raise_eq.trans Interval.nearest_raise.symm
  | atMost high => exact lower_eq.trans Interval.nearest_lower.symm
  | within low high =>
      rw [narrow, Interval.nearest_raise, Interval.nearest_lower]
      exact keepWithin_eq hordered

theorem met_apply {bound : Bound α} (hordered : bound.Ordered) (value : α) :
    bound.Met (bound.apply value) := by
  cases bound with
  | atLeast low => exact (le_max_left low value).trans_eq raise_eq.symm
  | atMost high => exact lower_eq.trans_le (min_le_left high value)
  | within low high =>
      change low ≤ Bounds.keepWithin low high value ∧ Bounds.keepWithin low high value ≤ high
      rw [keepWithin_eq hordered]
      exact ⟨le_max_left _ _, max_le hordered (min_le_left _ _)⟩

def narrowAll (bounds : List (Bound α)) (interval : Interval α) : Interval α :=
  bounds.foldl (fun interval bound => bound.narrow interval) interval

theorem applyAll_nearest {bounds : List (Bound α)} (hordered : ∀ bound ∈ bounds, bound.Ordered)
    (interval : Interval α) (value : α) :
    applyAll bounds (interval.nearest value) = (narrowAll bounds interval).nearest value := by
  induction bounds generalizing interval with
  | nil => rfl
  | cons bound bounds ih =>
      obtain ⟨hbound, hbounds⟩ := List.forall_mem_cons.mp hordered
      change applyAll bounds (bound.apply (interval.nearest value)) = _
      rw [apply_nearest hbound]
      exact ih hbounds _

theorem met_applyAll {bounds : List (Bound α)} {bound : Bound α} (hordered : bound.Ordered)
    (hlast : bounds.getLast? = some bound) (value : α) : bound.Met (applyAll bounds value) := by
  obtain ⟨earlier, rfl⟩ := List.getLast?_eq_some_iff.mp hlast
  rw [applyAll_append]
  exact met_apply hordered _

theorem applyAll_within (hordered : low ≤ high) (value : α) :
    applyAll [atLeast low, atMost high] value = applyAll [within low high] value ∧
      applyAll [atMost high, atLeast low] value = applyAll [within low high] value := by
  change Bounds.lower high (Bounds.raise low value) = Bounds.keepWithin low high value ∧
    Bounds.raise low (Bounds.lower high value) = Bounds.keepWithin low high value
  rw [keepWithin_eq hordered, lower_eq, raise_eq, raise_eq, lower_eq, min_max_distrib_left,
    min_eq_right hordered]
  exact ⟨rfl, rfl⟩

/-- What the steps for the bounds make of a value, if all of them are accepted. -/
def run? {Ty : Type} [TypeCode Ty] [DecidableEq Ty] (type : Ty) [PartialComparison (Carrier type)]
    (bounds : List (Bound (Carrier type))) (value : Carrier type) :
    Except StepError (Outcome (Carrier type)) := do
  let steps ← bounds.mapM step?
  return ((Plan.ofParts steps .finish : Plan type).run value).result

theorem run?_eq {Ty : Type} [TypeCode Ty] [DecidableEq Ty] (type : Ty)
    [LinearOrder (Carrier type)] [PartialComparison (Carrier type)]
    [LinearComparison (Carrier type)] {bounds : List (Bound (Carrier type))}
    (hordered : ∀ bound ∈ bounds, bound.Ordered) (value : Carrier type) :
    run? type bounds value = .ok (.ok (applyAll bounds value)) := by
  rw [run?, mapM_step? hordered, ← leave_steps, ← Plan.result_run_steps]
  rfl

theorem run?_replace {Ty : Type} [TypeCode Ty] [DecidableEq Ty] (type : Ty)
    [LinearOrder (Carrier type)] [PartialComparison (Carrier type)]
    [LinearComparison (Carrier type)] {before middle other after : List (Bound (Carrier type))}
    (hordered : ∀ bound ∈ before ++ middle ++ after, bound.Ordered)
    (hother : ∀ bound ∈ other, bound.Ordered)
    (hsame : ∀ value, applyAll other value = applyAll middle value) (value : Carrier type) :
    run? type (before ++ other ++ after) value = run? type (before ++ middle ++ after) value := by
  have hreplaced : ∀ bound ∈ before ++ other ++ after, bound.Ordered := by
    simp only [List.forall_mem_append] at hordered ⊢
    exact ⟨⟨hordered.1.1, hother⟩, hordered.2⟩
  rw [run?_eq type hordered, run?_eq type hreplaced]
  simp only [applyAll_append, hsame]

end Bound

/--
On values with a linear order, steps that bound them never fail and keep them to one
interval, which the steps alone determine.  Two bounds can be kept to at once or one after
the other.
-/
theorem bounds_keep_to_interval {Ty : Type} [TypeCode Ty] [DecidableEq Ty] (type : Ty)
    [LinearOrder (Carrier type)] [PartialComparison (Carrier type)]
    [LinearComparison (Carrier type)] (bounds : List (Bound (Carrier type))) :
    (∀ low high : Carrier type, (∃ step, Bounds.clamp low high = .ok step) ↔ low ≤ high) ∧
    ((∀ bound ∈ bounds, ∃ step, bound.step? = .ok step) →
      ∃ interval : Interval (Carrier type),
        (∀ value, Bound.run? type bounds value = .ok (.ok (interval.nearest value))) ∧
        Monotone interval.nearest ∧
        (∀ value, interval.nearest (interval.nearest value) = interval.nearest value) ∧
        (∀ bound ∈ bounds.getLast?, ∀ value, bound.Met (interval.nearest value)) ∧
        ∀ before low high after, bounds = before ++ [.within low high] ++ after → ∀ value,
          Bound.run? type (before ++ [.atLeast low, .atMost high] ++ after) value =
            Bound.run? type bounds value ∧
          Bound.run? type (before ++ [.atMost high, .atLeast low] ++ after) value =
            Bound.run? type bounds value) := by
  refine ⟨fun low high => (.within low high : Bound (Carrier type)).step?_isOk_iff,
    fun haccepted => ?_⟩
  have hordered : ∀ bound ∈ bounds, bound.Ordered := fun bound hbound =>
    bound.step?_isOk_iff.mp (haccepted bound hbound)
  have hnearest (value : Carrier type) :
      Bound.applyAll bounds value = (Bound.narrowAll bounds .whole).nearest value :=
    Bound.applyAll_nearest hordered .whole value
  refine ⟨Bound.narrowAll bounds .whole, fun value => ?_, Interval.monotone_nearest _,
    fun value => Interval.nearest_eq_self Interval.contains_nearest,
    fun bound hlast value => ?_, ?_⟩
  · rw [Bound.run?_eq type hordered, hnearest]
  · rw [← hnearest]
    exact Bound.met_applyAll (hordered bound (List.mem_of_getLast? hlast)) hlast value
  · rintro before low high after rfl value
    have hlowHigh : low ≤ high := hordered (.within low high) (by simp)
    have hsame := Bound.applyAll_within hlowHigh
    exact ⟨Bound.run?_replace type hordered (by simp [Bound.Ordered]) (fun v => (hsame v).1) value,
      Bound.run?_replace type hordered (by simp [Bound.Ordered]) (fun v => (hsame v).2) value⟩

theorem bounds_keep_to_interval_crossing :
    let three : FixedInt IntType.int8.width := ⟨3, by decide, by decide⟩
    let bytes : List (Bound (FixedInt IntType.int8.width)) :=
      [.within ⟨-5, by decide, by decide⟩ ⟨10, by decide, by decide⟩,
        .atLeast ⟨20, by decide, by decide⟩, .atMost three]
    let halfBack : TimeDelta := ⟨-1, 500000000⟩
    let lengths : List (Bound TimeDelta) := [.atLeast ⟨0, 1⟩, .atMost halfBack]
    (∀ bound ∈ bytes, ∃ step, bound.step? = .ok step) ∧
      (∀ bound ∈ lengths, ∃ step, bound.step? = .ok step) ∧
      (∃ interval : Interval (FixedInt IntType.int8.width), ∀ value,
        Bound.run? (ValueType.scalar (R := Empty) (.int .int8)) bytes value =
          .ok (.ok (interval.nearest value)) ∧ interval.nearest value ≤ three) ∧
      ∃ interval : Interval TimeDelta, ∀ value,
        Bound.run? (ValueType.scalar (R := Empty) .delta) lengths value =
          .ok (.ok (interval.nearest value)) ∧ interval.nearest value ≤ halfBack := by
  intro three bytes halfBack lengths
  have hbytes : ∀ bound ∈ bytes, ∃ step, bound.step? = .ok step := by
    have hordered : (⟨-5, by decide, by decide⟩ : FixedInt IntType.int8.width) ≤
        ⟨10, by decide, by decide⟩ := by decide
    simpa [bytes, Bound.step?_isOk_iff, Bound.Ordered] using hordered
  have hlengths : ∀ bound ∈ lengths, ∃ step, bound.step? = .ok step := by
    simp [lengths, Bound.step?]
  obtain ⟨interval, hrun, -, -, hlast, -⟩ :=
    (bounds_keep_to_interval (ValueType.scalar (R := Empty) (.int .int8)) bytes).2 hbytes
  obtain ⟨other, hrunOther, -, -, hlastOther, -⟩ :=
    (bounds_keep_to_interval (ValueType.scalar (R := Empty) .delta) lengths).2 hlengths
  exact ⟨hbytes, hlengths, ⟨interval, fun value => ⟨hrun value, hlast _ rfl value⟩⟩,
    ⟨other, fun value => ⟨hrunOther value, hlastOther _ rfl value⟩⟩⟩

end ValuePipeline
