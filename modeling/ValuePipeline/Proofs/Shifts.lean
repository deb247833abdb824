import ValuePipeline.Proofs.Instants
import ValuePipeline.Steps.Moment

/-!
# Moves by lengths of time

A list of moves by lengths of time moves an instant by their sum, to the nanosecond, if it
stays in range on the way.  On a date-time the moves leave the clock alone, and a change
of clocks leaves the instant alone.  Moving back is moving on by the opposite length.
-/

namespace ValuePipeline

namespace Moment

open Instant

variable {α : Type} [Moment α] {moment : α} {moved : Instant} {delta : TimeDelta}

theorem shift_of_some (step : String) (hmoved : (instant moment).add? delta = some moved) :
    shift step moment delta = .ok (withInstant moment moved) := by
  rw [shift, hmoved]

theorem shift_of_none (step : String) (hmoved : (instant moment).add? delta = none) :
    shift step moment delta = .error (.dateOutOfRange step) := by
  rw [shift, hmoved]

theorem zero_sub? (hdelta : delta.Valid) : TimeDelta.zero.sub? delta = some delta.neg := by
  refine (TimeDelta.sub?_eq_some_iff (by decide) hdelta).mpr ⟨hdelta.neg, ?_⟩
  rw [TimeDelta.toNanos_neg hdelta, show TimeDelta.zero.toNanos = 0 from rfl, Int.zero_sub]

/-! ## Moves -/

inductive Move where
  | add (delta : TimeDelta)
  | subtract (delta : TimeDelta)
  deriving DecidableEq, Repr

namespace Move

def name : Move → String
  | add _ => "add"
  | subtract _ => "subtract"

def step : Move → Step α
  | add delta => addStep delta
  | subtract delta => subtractStep delta

def nanos : Move → Int
  | add delta => delta.toNanos
  | subtract delta => -delta.toNanos

def Valid : Move → Prop
  | add delta | subtract delta => delta.Valid

def forward : Move → TimeDelta
  | add delta => delta
  | subtract delta => delta.neg

variable {move : Move}

theorem Valid.forward (hmove : move.Valid) : move.forward.Valid := by
  cases move with
  | add => exact hmove
  | subtract => exact TimeDelta.Valid.neg hmove

theorem toNanos_forward (hmove : move.Valid) : move.forward.toNanos = move.nanos := by
  cases move with
  | add => rfl
  | subtract => exact TimeDelta.toNanos_neg hmove

theorem apply_of_some (hmove : move.Valid)
    (hmoved : (instant moment).add? move.forward = some moved) :
    move.step.apply moment = .done (.ok (withInstant moment moved)) := by
  cases move with
  | add => exact Step.apply_checked_of_ok (shift_of_some _ hmoved)
  | subtract =>
      refine Step.apply_checked_of_ok ?_
      rw [zero_sub? hmove]
      exact shift_of_some _ hmoved

theorem apply_of_none (hmove : move.Valid)
    (hmoved : (instant moment).add? move.forward = none) :
    move.step.apply moment = .done (.failed moment (.step (.dateOutOfRange move.name))) := by
  cases move with
  | add => exact Step.apply_checked_of_error (shift_of_none _ hmoved)
  | subtract =>
      refine Step.apply_checked_of_error ?_
      rw [zero_sub? hmove]
      exact shift_of_none _ hmoved

theorem add?_forward_eq_some_iff {start : Instant} (hmove : move.Valid) (hstart : start.Valid) :
    start.add? move.forward = some moved ↔
      moved.Valid ∧ moved.toNanos = start.toNanos + move.nanos := by
  rw [add?_eq_some_iff hstart hmove.forward, toNanos_forward hmove]

end Move

theorem subtract_alike (hdelta : delta.Valid) (moment : α) :
    let back := ((subtractStep delta).apply moment).result
    let forward := ((addStep delta.neg).apply moment).result
    back.value = forward.value ∧ (back.failure = none ↔ forward.failure = none) := by
  intro back forward
  have hsubtract : (Move.subtract delta).Valid := hdelta
  have hadd : (Move.add delta.neg).Valid := TimeDelta.Valid.neg hdelta
  cases hmoved : (instant moment).add? delta.neg with
  | some moved =>
      have hback : (subtractStep delta).apply moment = _ := Move.apply_of_some hsubtract hmoved
      have hforward : (addStep delta.neg).apply moment = _ := Move.apply_of_some hadd hmoved
      simp only [back, forward, hback, hforward, and_self]
  | none =>
      have hback : (subtractStep delta).apply moment = _ := Move.apply_of_none hsubtract hmoved
      have hforward : (addStep delta.neg).apply moment = _ := Move.apply_of_none hadd hmoved
      simp [back, forward, hback, hforward, Outcome.failed]

end Moment

/-! ## Lists of moves -/

namespace Instant

def reckoning : Reckoning Instant Int Moment.Move where
  Stands instant nanos := instant.Valid ∧ instant.toNanos = nanos
  InRange := InRange
  step := Moment.Move.step
  exact move nanos := nanos + move.nanos
  failure move := .step (.dateOutOfRange move.name)

theorem reckoning_faithful {move : Moment.Move} (hmove : move.Valid) :
    reckoning.Faithful move := by
  refine .of_partial (f := fun instant => instant.add? move.forward)
    (fun hmoved => Moment.Move.apply_of_some hmove hmoved)
    (fun hmoved => Moment.Move.apply_of_none hmove hmoved) inRange_iff ?_
  rintro instant _ moved ⟨hvalid, rfl⟩
  exact Moment.Move.add?_forward_eq_some_iff hmove hvalid

theorem total_reckoning (moves : List Moment.Move) (nanos : Int) :
    reckoning.total moves nanos = nanos + (moves.map Moment.Move.nanos).foldr (· + ·) 0 :=
  reckoning.measure_total id Moment.Move.nanos (fun _ _ => rfl) moves nanos

end Instant

namespace DateTime

/-- What is done to a date-time: its instant is moved, or its clock is changed. -/
inductive Change where
  | move (length : Moment.Move)
  | toUtc
  | toZone (zone : Instant → Int)

structure Position where
  nanos : Int
  offset : Int
  deriving DecidableEq, Repr

namespace Change

def name : Change → String
  | move length => length.name
  | toUtc => "to_utc_offset"
  | toZone _ => "to_local_offset"

def step : Change → Step DateTime
  | move length => length.step
  | toUtc => toUtcStep
  | toZone zone => toZoneStep zone

def Valid : Change → Prop
  | move length => length.Valid
  | toUtc | toZone _ => True

def nanos : Change → Int
  | move length => length.nanos
  | toUtc | toZone _ => 0

def exact : Change → Position → Position
  | move length, position => { position with nanos := position.nanos + length.nanos }
  | toUtc, position => { position with offset := 0 }
  | toZone zone, position => { position with offset := zone (.ofNanos position.nanos) }

end Change

def position (dateTime : DateTime) : Position := ⟨dateTime.instant.toNanos, dateTime.offset⟩

/-- A date-time stands for its nanoseconds and its offset. -/
def reckoning : Reckoning DateTime Position Change where
  Stands dateTime position := dateTime.instant.Valid ∧ dateTime.position = position
  InRange position := Instant.InRange position.nanos
  step := Change.step
  exact := Change.exact
  failure change := .step (.dateOutOfRange change.name)

theorem inRange_iff {position : Position} :
    reckoning.InRange position ↔ ∃ dateTime, reckoning.Stands dateTime position := by
  constructor
  · intro hin
    obtain ⟨instant, hvalid, htotal⟩ := Instant.inRange_iff.mp hin
    exact ⟨⟨instant, position.offset⟩, hvalid, by rw [DateTime.position, htotal]⟩
  · rintro ⟨dateTime, hvalid, rfl⟩
    exact Instant.inRange_iff.mpr ⟨_, hvalid, rfl⟩

theorem reckoning_faithful {change : Change} (hchange : change.Valid) :
    reckoning.Faithful change := by
  have hin : ∀ {dateTime position}, reckoning.Stands dateTime position →
      reckoning.InRange position := fun hstands => inRange_iff.mpr ⟨_, hstands⟩
  cases change with
  | move length =>
      refine .of_partial
        (f := fun dateTime => (dateTime.instant.add? length.forward).map (Moment.withInstant dateTime))
        (fun hmoved => ?_) (fun hmoved => ?_) inRange_iff ?_
      · obtain ⟨moved, hadd, rfl⟩ := Option.map_eq_some_iff.mp hmoved
        exact Moment.Move.apply_of_some hchange hadd
      · exact Moment.Move.apply_of_none hchange (Option.map_eq_none_iff.mp hmoved)
      · rintro dateTime _ changed ⟨hvalid, rfl⟩
        rw [Option.map_eq_some_iff]
        constructor
        · rintro ⟨moved, hadd, rfl⟩
          obtain ⟨hmoved, htotal⟩ := (Moment.Move.add?_forward_eq_some_iff hchange hvalid).mp hadd
          exact ⟨hmoved, congrArg (Position.mk · dateTime.offset) htotal⟩
        · rintro ⟨hchanged, hposition⟩
          obtain ⟨htotal, hoffset⟩ := Position.mk.inj hposition
          refine ⟨changed.instant, ?_, congrArg (DateTime.mk changed.instant) hoffset.symm⟩
          exact (Moment.Move.add?_forward_eq_some_iff hchange hvalid).mpr ⟨hchanged, htotal⟩
  | toUtc =>
      refine .of_total (f := (withOffset · 0)) (fun _ => rfl) hin ?_
      rintro dateTime _ ⟨hvalid, rfl⟩
      exact ⟨hvalid, rfl⟩
  | toZone zone =>
      refine .of_total (f := fun dateTime => dateTime.withOffset (zone dateTime.instant))
        (fun _ => rfl) hin ?_
      rintro dateTime _ ⟨hvalid, rfl⟩
      refine ⟨hvalid, ?_⟩
      change Position.mk _ _ = Position.mk _ (zone (.ofNanos dateTime.instant.toNanos))
      rw [hvalid.ofNanos_toNanos]
      rfl

theorem nanos_total_reckoning (changes : List Change) (position : Position) :
    (reckoning.total changes position).nanos =
      position.nanos + (changes.map Change.nanos).foldr (· + ·) 0 := by
  refine reckoning.measure_total Position.nanos Change.nanos (fun change position => ?_) changes _
  cases change with
  | move => rfl
  | toUtc | toZone => exact (Int.add_zero _).symm

theorem Change.eq_of_out {change : Change} {position : Position}
    (hin : reckoning.InRange position) (hout : ¬ reckoning.InRange (change.exact position)) :
    ∃ length, change = move length := by
  cases change with
  | move length => exact ⟨length, rfl⟩
  | toUtc | toZone => exact absurd hin hout

end DateTime

/--
Run on an instant or a date-time, moves add up to the nanosecond, up to the first that
leaves the range; the clock of a date-time is changed by nothing but a change of clocks.
Nothing is in the way of turning a length round, so moving back is moving on.
-/
theorem Moment.run_moves_exactly {R : Type} [Schema R] [DecidableEq R] :
    (∀ {start : Instant} {moves : List Move}, start.Valid → (∀ move ∈ moves, move.Valid) →
      let result : Outcome Instant := ((Plan.ofParts (moves.map (Move.step (α := Instant))) .finish :
        Plan (ValueType.scalar (R := R) .instant)).run start).result
      Instant.reckoning.Ends moves start.toNanos result ∧
        (result.failure = none → result.value.toNanos =
          start.toNanos + (moves.map Move.nanos).foldr (· + ·) 0)) ∧
    (∀ {start : DateTime} {changes : List DateTime.Change}, start.instant.Valid →
      (∀ change ∈ changes, change.Valid) →
      let result : Outcome DateTime := ((Plan.ofParts (changes.map DateTime.Change.step) .finish :
        Plan (ValueType.scalar (R := R) .dateTime)).run start).result
      DateTime.reckoning.Ends changes start.position result ∧
        (∀ done change rest, changes = done ++ change :: rest →
          DateTime.reckoning.Stays done start.position →
          ¬ DateTime.reckoning.InRange
            (change.exact (DateTime.reckoning.total done start.position)) →
            ∃ length, change = .move length) ∧
        (result.failure = none → result.value.instant.toNanos =
          start.instant.toNanos + (changes.map DateTime.Change.nanos).foldr (· + ·) 0)) ∧
    ∀ {delta : TimeDelta}, delta.Valid →
      TimeDelta.zero.sub? delta = some delta.neg ∧ delta.neg.Valid ∧
        delta.neg.toNanos = -delta.toNanos ∧
        ∀ {α : Type} [Moment α] (moment : α),
          let back := ((subtractStep delta).apply moment).result
          let forward := ((addStep delta.neg).apply moment).result
          back.value = forward.value ∧ (back.failure = none ↔ forward.failure = none) := by
  refine ⟨?_, ?_, ?_⟩
  · intro start moves hstart hmoves result
    have hends : Instant.reckoning.Ends moves start.toNanos result :=
      Reckoning.ends_run (ValueType.scalar (R := R) .instant) Instant.reckoning
        (fun move hmove => Instant.reckoning_faithful (hmoves move hmove))
        (Instant.inRange_iff.mpr ⟨start, hstart, rfl⟩) ⟨hstart, rfl⟩
    refine ⟨hends, fun hgone => ?_⟩
    rw [(hends.stands (hends.succeeds_iff.mp hgone)).2, Instant.total_reckoning]
  · intro start changes hstart hchanges result
    have hends : DateTime.reckoning.Ends changes start.position result :=
      Reckoning.ends_run (ValueType.scalar (R := R) .dateTime) DateTime.reckoning
        (fun change hchange => DateTime.reckoning_faithful (hchanges change hchange))
        (DateTime.inRange_iff.mpr ⟨start, hstart, rfl⟩) ⟨hstart, rfl⟩
    refine ⟨hends, fun done change rest _ hdone hout => ?_, fun hgone => ?_⟩
    · exact DateTime.Change.eq_of_out (hdone done (List.prefix_refl _)) hout
    · have hposition := (hends.stands (hends.succeeds_iff.mp hgone)).2
      have hnanos := congrArg DateTime.Position.nanos hposition
      rwa [DateTime.nanos_total_reckoning] at hnanos
  · intro delta hdelta
    exact ⟨zero_sub? hdelta, hdelta.neg, TimeDelta.toNanos_neg hdelta,
      fun moment => subtract_alike hdelta moment⟩

theorem Moment.run_moves_exactly_lastNanosecond :
    let nano : TimeDelta := ⟨0, 1⟩
    let start : DateTime := ⟨⟨Instant.maxSeconds, 999999999⟩, 3600⟩
    let changes : List DateTime.Change :=
      [.move (.subtract nano), .toZone fun instant => if instant.nanos = 999999998 then 7200 else 0,
        .move (.add nano), .move (.add nano), .toUtc]
    let result : Outcome DateTime := ((Plan.ofParts (changes.map DateTime.Change.step) .finish :
      Plan (ValueType.scalar (R := Empty) .dateTime)).run start).result
    let moves : List Move := [.subtract nano, .add nano, .add nano]
    start.instant.Valid ∧ (∀ change ∈ changes, change.Valid) ∧
      DateTime.reckoning.Ends changes start.position result ∧
      result = .failed ⟨start.instant, 7200⟩ (.step (.dateOutOfRange "add")) ∧
      (∀ move ∈ moves, move.Valid) ∧
      Instant.reckoning.Ends moves start.instant.toNanos
        ((Plan.ofParts (moves.map (Move.step (α := Instant))) .finish :
          Plan (ValueType.scalar (R := Empty) .instant)).run start.instant).result ∧
      nano.Valid ∧ TimeDelta.zero.sub? nano = some ⟨-1, 999999999⟩ := by
  intro nano start changes result moves
  have hstart : start.instant.Valid := by decide
  have hnano : nano.Valid := by decide
  have hchanges : ∀ change ∈ changes, change.Valid := by
    simp [changes, DateTime.Change.Valid, Move.Valid, hnano]
  have hmoves : ∀ move ∈ moves, move.Valid := by
    simp [moves, Move.Valid, hnano]
  have hleave : Step.leave (changes.map DateTime.Change.step) start =
      .failed ⟨start.instant, 7200⟩ (.step (.dateOutOfRange "add")) := by
    decide +kernel
  obtain ⟨hinstants, hdateTimes, hback⟩ := run_moves_exactly (R := Empty)
  exact ⟨hstart, hchanges, (hdateTimes hstart hchanges).1,
    (Plan.result_run_steps (ValueType.scalar (R := Empty) .dateTime) _ start).trans hleave,
    hmoves, (hinstants hstart hmoves).1, hnano, (hback hnano).1⟩

end ValuePipeline
