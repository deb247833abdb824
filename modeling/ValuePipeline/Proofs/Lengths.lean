import ValuePipeline.Proofs.Reckoning
import ValuePipeline.Proofs.Rules
import ValuePipeline.Steps.Duration
import ValuePipeline.ValueType

/-!
# Lengths of time in nanoseconds

Sums, differences, opposites and absolute values of lengths of time are those of their
numbers of nanoseconds.  So a list of such steps computes as it would on the exact
numbers, up to the first sum or difference that is no length of time.
-/

namespace ValuePipeline.TimeDelta

variable {a b delta : TimeDelta}

/-! ## Lengths and numbers -/

def InRange (nanos : Int) : Prop :=
  -(maxMillis * 1000000) ≤ nanos ∧ nanos ≤ maxMillis * 1000000

theorem Valid.inRange (hvalid : delta.Valid) : InRange delta.toNanos := hvalid.2

theorem eq_of_toNanos (ha : a.nanos < nanosPerSecond) (hb : b.nanos < nanosPerSecond)
    (htotal : a.toNanos = b.toNanos) : a = b := by
  obtain ⟨seconds, nanos⟩ := a
  obtain ⟨otherSeconds, otherNanos⟩ := b
  simp only [toNanos, nanosPerSecond] at ha hb htotal
  congr <;> omega

theorem inRange_iff {nanos : Int} :
    InRange nanos ↔ ∃ delta : TimeDelta, delta.Valid ∧ delta.toNanos = nanos := by
  constructor
  · intro hin
    have htotal : toNanos ⟨nanos / nanosPerSecond, (nanos % nanosPerSecond).toNat⟩ = nanos := by
      simp only [toNanos, nanosPerSecond]
      omega
    refine ⟨_, ⟨?_, by rwa [htotal]⟩, htotal⟩
    simp only [nanosPerSecond]
    omega
  · rintro ⟨delta, hvalid, rfl⟩
    exact hvalid.inRange

theorem make?_eq_some_iff {seconds : Int} {nanos : Nat} (hnanos : nanos < nanosPerSecond) :
    make? seconds nanos = some delta ↔
      delta.Valid ∧ delta.toNanos = seconds * nanosPerSecond + nanos := by
  rw [make?, Option.ite_none_right_eq_some, Option.some.injEq]
  constructor
  · rintro ⟨hvalid, rfl⟩
    exact ⟨hvalid, rfl⟩
  · rintro ⟨hvalid, htotal⟩
    obtain rfl : ⟨seconds, nanos⟩ = delta := eq_of_toNanos hnanos hvalid.1 htotal.symm
    exact ⟨hvalid, rfl⟩

/-! ## The operations -/

theorem add?_eq_some_iff (ha : a.Valid) (hb : b.Valid) :
    a.add? b = some delta ↔ delta.Valid ∧ delta.toNanos = a.toNanos + b.toNanos := by
  have hcarry : a.nanos + b.nanos - nanosPerSecond < nanosPerSecond := by
    have := ha.1
    have := hb.1
    omega
  rw [add?]
  split
  case isTrue hwithin =>
    rw [make?_eq_some_iff hwithin]
    refine and_congr_right fun _ => ?_
    simp only [toNanos, nanosPerSecond]
    omega
  case isFalse hover =>
    rw [make?_eq_some_iff hcarry]
    refine and_congr_right fun _ => ?_
    simp only [toNanos, nanosPerSecond] at hover ⊢
    omega

theorem sub?_eq_some_iff (ha : a.Valid) (hb : b.Valid) :
    a.sub? b = some delta ↔ delta.Valid ∧ delta.toNanos = a.toNanos - b.toNanos := by
  have hnanos := ha.1
  have hother := hb.1
  rw [sub?]
  split
  case isTrue hwithin =>
    rw [make?_eq_some_iff (Nat.lt_of_le_of_lt (Nat.sub_le _ _) hnanos)]
    refine and_congr_right fun _ => ?_
    simp only [toNanos, nanosPerSecond]
    omega
  case isFalse hborrow =>
    rw [make?_eq_some_iff (by omega)]
    refine and_congr_right fun _ => ?_
    simp only [toNanos, nanosPerSecond] at hother hborrow ⊢
    omega

theorem toNanos_neg (hvalid : delta.Valid) : delta.neg.toNanos = -delta.toNanos := by
  have hnanos := hvalid.1
  simp only [neg, toNanos, nanosPerSecond] at hnanos ⊢
  split <;> dsimp only <;> omega

theorem toNanos_abs (hvalid : delta.Valid) : delta.abs.toNanos = delta.toNanos.natAbs := by
  have hnanos := hvalid.1
  simp only [abs, toNanos, nanosPerSecond] at hnanos ⊢
  split <;> dsimp only <;> omega

theorem Valid.neg (hvalid : delta.Valid) : delta.neg.Valid := by
  have hin := hvalid.inRange
  refine ⟨?_, ?_⟩
  · rw [TimeDelta.neg]
    split <;> simp [nanosPerSecond]
    omega
  · rw [toNanos_neg hvalid]
    simp only [InRange] at hin
    omega

theorem Valid.abs (hvalid : delta.Valid) : delta.abs.Valid := by
  have hin := hvalid.inRange
  have hnanos := hvalid.1
  refine ⟨?_, ?_⟩
  · rw [TimeDelta.abs]
    split <;> simp only [nanosPerSecond] at hnanos ⊢ <;> omega
  · rw [toNanos_abs hvalid]
    simp only [InRange] at hin
    omega

/-! ## Lists of steps -/

inductive Operation where
  | add (other : TimeDelta)
  | subtract (other : TimeDelta)
  | negate
  | abs
  deriving DecidableEq, Repr

namespace Operation

def name : Operation → String
  | add _ => "add"
  | subtract _ => "subtract"
  | negate => "negate"
  | abs => "abs"

def step : Operation → Step TimeDelta
  | add other => addStep other
  | subtract other => subtractStep other
  | negate => negateStep
  | abs => absStep

def exact : Operation → Int → Int
  | add other, nanos => nanos + other.toNanos
  | subtract other, nanos => nanos - other.toNanos
  | negate, nanos => -nanos
  | abs, nanos => nanos.natAbs

def Valid : Operation → Prop
  | add other | subtract other => other.Valid
  | negate | abs => True

end Operation

def reckoning : Reckoning TimeDelta Int Operation where
  Stands delta nanos := delta.Valid ∧ delta.toNanos = nanos
  InRange := InRange
  step := Operation.step
  exact := Operation.exact
  failure op := .step (.overflow op.name)

theorem reckoning_faithful {op : Operation} (hop : op.Valid) : reckoning.Faithful op := by
  have hstands : ∀ {delta nanos}, reckoning.Stands delta nanos → InRange nanos := by
    rintro delta _ ⟨hvalid, rfl⟩
    exact hvalid.inRange
  cases op with
  | add other =>
      refine .of_partial (f := (·.add? other)) (fun hsum => Step.apply_checked_of_ok (by rw [hsum]))
        (fun hsum => Step.apply_checked_of_error (by rw [hsum]; rfl)) inRange_iff ?_
      rintro delta _ sum ⟨hvalid, rfl⟩
      exact add?_eq_some_iff hvalid hop
  | subtract other =>
      refine .of_partial (f := (·.sub? other)) (fun hless => Step.apply_checked_of_ok (by rw [hless]))
        (fun hless => Step.apply_checked_of_error (by rw [hless]; rfl)) inRange_iff ?_
      rintro delta _ difference ⟨hvalid, rfl⟩
      exact sub?_eq_some_iff hvalid hop
  | negate =>
      refine .of_total (f := TimeDelta.neg) (fun _ => rfl) hstands ?_
      rintro delta _ ⟨hvalid, rfl⟩
      exact ⟨hvalid.neg, toNanos_neg hvalid⟩
  | abs =>
      refine .of_total (f := TimeDelta.abs) (fun _ => rfl) hstands ?_
      rintro delta _ ⟨hvalid, rfl⟩
      exact ⟨hvalid.abs, toNanos_abs hvalid⟩

theorem Operation.eq_of_out {op : Operation} {nanos : Int} (hin : InRange nanos)
    (hout : ¬ InRange (op.exact nanos)) : ∃ other, op = add other ∨ op = subtract other := by
  cases op with
  | add other => exact ⟨other, .inl rfl⟩
  | subtract other => exact ⟨other, .inr rfl⟩
  | negate =>
      simp only [InRange, exact] at hin hout
      omega
  | abs =>
      simp only [InRange, exact] at hin hout
      omega

/--
Run on a length of time, the steps compute on its nanoseconds, with nothing lost, up to
the first sum or difference that is no length of time.
-/
theorem run_reckons_exactly {R : Type} [Schema R] [DecidableEq R] {start : TimeDelta}
    (hstart : start.Valid) {ops : List Operation} (hops : ∀ op ∈ ops, op.Valid) :
    let run (ops : List Operation) : Outcome TimeDelta :=
      ((Plan.ofParts (ops.map Operation.step) .finish :
        Plan (ValueType.scalar (R := R) .delta)).run start).result
    reckoning.Ends ops start.toNanos (run ops) ∧
    (∀ done op rest, ops = done ++ op :: rest → reckoning.Stays done start.toNanos →
      ¬ InRange (op.exact (reckoning.total done start.toNanos)) →
        ∃ other, op = .add other ∨ op = .subtract other) ∧
    ∀ done, done <+: ops → (run done).value.Valid := by
  intro run
  have hends : ∀ {ops : List Operation}, (∀ op ∈ ops, op.Valid) →
      reckoning.Ends ops start.toNanos (run ops) := fun hops =>
    Reckoning.ends_run (ValueType.scalar (R := R) .delta) reckoning
      (fun op hop => reckoning_faithful (hops op hop)) hstart.inRange ⟨hstart, rfl⟩
  refine ⟨hends hops, fun done op rest _ hdone hout => ?_, fun done hdone => ?_⟩
  · exact Operation.eq_of_out (hdone done (List.prefix_refl _)) hout
  · have hdoneEnds := hends fun op hop => hops op (hdone.subset hop)
    by_cases hstays : reckoning.Stays done start.toNanos
    · exact (hdoneEnds.stands hstays).1
    · obtain ⟨_, _, _, -, -, -, hleft, -⟩ := hdoneEnds.fails hstays
      exact hleft.1

theorem run_reckons_exactly_overflow :
    let start : TimeDelta := ⟨-1, 500000000⟩
    let longest : TimeDelta := ⟨9223372036854775, 807000000⟩
    let ops : List Operation := [.abs, .negate, .negate, .add longest, .abs]
    let result : Outcome TimeDelta := ((Plan.ofParts (ops.map Operation.step) .finish :
      Plan (ValueType.scalar (R := Empty) .delta)).run start).result
    start.Valid ∧ (∀ op ∈ ops, op.Valid) ∧ reckoning.Ends ops start.toNanos result ∧
      result = .failed ⟨0, 500000000⟩ (.step (.overflow "add")) := by
  intro start longest ops result
  have hstart : start.Valid := by decide
  have hlongest : longest.Valid := by decide
  have hops : ∀ op ∈ ops, op.Valid := by
    simp [ops, Operation.Valid, hlongest]
  have hleave : Step.leave (ops.map Operation.step) start =
      .failed ⟨0, 500000000⟩ (.step (.overflow "add")) := by
    decide +kernel
  exact ⟨hstart, hops, (run_reckons_exactly hstart hops).1,
    (Plan.result_run_steps (ValueType.scalar (R := Empty) .delta) _ start).trans hleave⟩

end ValuePipeline.TimeDelta
