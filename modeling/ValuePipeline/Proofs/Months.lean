import ValuePipeline.Proofs.Instants
import ValuePipeline.Steps.Moment

/-!
# Moves by months and years

A move by months keeps what the clock shows but for the month, and for the day where the
other month is too short.  It fails where the calendar ends.  Years are counted in months,
and the bound on their number refuses nothing that the calendar has.
-/

namespace ValuePipeline

namespace Instant

variable {instant moved : Instant} {offset time months : Int} {date : Date}

theorem moveMonths?_eq_some_iff (hvalid : instant.Valid)
    (hshows : instant.Shows offset date time) :
    instant.moveMonths? offset months = some moved ↔
      (months = 0 ∨ Date.InCalendar ((date.monthIndex + months) / 12)) ∧
        moved.Valid ∧ moved.Shows offset (date.inMonth (date.monthIndex + months)) time := by
  obtain ⟨hdate, htime⟩ := (shows_iff hvalid.1).mp hshows
  rw [moveMonths?]
  split
  case isTrue hnone =>
    subst hnone
    rw [Int.add_zero, hshows.proper.inMonth_self, Option.some.injEq]
    constructor
    · rintro rfl
      exact ⟨.inl rfl, hvalid, hshows⟩
    · rintro ⟨-, hmoved, hsame⟩
      exact hshows.eq_of_valid hvalid hmoved hsame
  case isFalse hsome =>
    rw [hdate, Date.addMonths?_eq]
    split
    case h_1 hout =>
      rw [ite_eq_right_iff] at hout
      refine iff_of_false nofun ?_
      rintro ⟨hwithin, -⟩
      exact absurd (hout (hwithin.resolve_left hsome)) nofun
    case h_2 target htarget =>
      obtain ⟨hwithin, htarget⟩ := Option.ite_none_right_eq_some.mp htarget
      obtain rfl := Option.some.inj htarget
      have hproper := hshows.proper.inMonth (date.monthIndex + months)
      have hreaches : months = 0 ∨ Date.InCalendar ((date.monthIndex + months) / 12) := .inr hwithin
      rw [make?_eq_some_iff hvalid.1, and_iff_right hreaches,
        shows_iff_of_proper hproper hshows.time_nonneg hshows.time_lt, ← htime]
      refine and_congr_right fun _ => ?_
      simp only [nanosPerDay, nanosPerSecond, secondsPerDay]
      omega

end Instant

namespace Moment

open Instant

variable {α : Type} [Moment α] {moment : α} {months : Int} {moved : Instant}

/-- In the calendar's range, on a clock that is less than a day off. -/
structure Valid (moment : α) : Prop where
  instant : (instant moment).Valid
  offset_gt : -secondsPerDay < offset moment
  offset_lt : offset moment < secondsPerDay

theorem moveMonths?_eq (instant : Instant) (offset months : Int) :
    (if 0 ≤ months then instant.addMonths? offset months.natAbs
      else instant.subMonths? offset months.natAbs) = instant.moveMonths? offset months := by
  rcases Int.lt_or_le months 0 with hback | hon
  · rw [if_neg (Int.not_le.mpr hback), subMonths?, Int.ofNat_natAbs_of_nonpos (Int.le_of_lt hback),
      Int.neg_neg]
  · rw [if_pos hon, addMonths?, Int.natAbs_of_nonneg hon]

theorem shiftMonths_of_some (step : String)
    (hmoved : (instant moment).moveMonths? (offset moment) months = some moved) :
    shiftMonths step moment months = .ok (withInstant moment moved) := by
  rw [shiftMonths, moveMonths?_eq, hmoved]

theorem shiftMonths_of_none (step : String)
    (hmoved : (instant moment).moveMonths? (offset moment) months = none) :
    shiftMonths step moment months = .error (.dateOutOfRange step) := by
  rw [shiftMonths, moveMonths?_eq, hmoved]

theorem months_fit {years : Int} (hvalid : Valid moment)
    (hmoved : (instant moment).moveMonths? (offset moment) (12 * years) = some moved) :
    -2 ^ 31 ≤ 12 * years ∧ 12 * years < 2 ^ 31 := by
  obtain ⟨hinstant, hwest, heast⟩ := hvalid
  have hshows := shows_date hinstant.1 (offset moment)
  obtain ⟨hwithin, -⟩ := (moveMonths?_eq_some_iff hinstant hshows).mp hmoved
  obtain ⟨hfirst, hlast⟩ := hshows.year_near hinstant hwest heast
  have hpos := hshows.proper.month_pos
  have hle := hshows.proper.month_le
  simp only [Date.InCalendar, Date.monthIndex, Date.minYear, Date.maxYear] at *
  omega

/-- The steps that move by whole months, and by how many. -/
inductive CountsMonths : Step α → Int → Prop where
  | months (months : Int) : CountsMonths (addMonthsStep months) months
  | years (years : Int) : CountsMonths (addYearsStep years) (12 * years)

namespace CountsMonths

variable {step : Step α} (hstep : CountsMonths step months)
include hstep

theorem apply_of_some (hvalid : Valid moment)
    (hmoved : (instant moment).moveMonths? (offset moment) months = some moved) :
    step.apply moment = .done (.ok (withInstant moment moved)) := by
  cases hstep with
  | months => exact Step.apply_checked_of_ok (shiftMonths_of_some _ hmoved)
  | years years =>
      refine Step.apply_checked_of_ok ?_
      rw [if_pos (months_fit hvalid hmoved), shiftMonths_of_some _ hmoved]

theorem apply_of_none (hmoved : (instant moment).moveMonths? (offset moment) months = none) :
    step.apply moment = .done (.failed moment (.step (.dateOutOfRange step.name))) := by
  cases hstep with
  | months => exact Step.apply_checked_of_error (shiftMonths_of_none _ hmoved)
  | years years =>
      refine Step.apply_checked_of_error ?_
      split
      · exact shiftMonths_of_none _ hmoved
      · rfl

theorem apply_eq_ok_iff (hvalid : Valid moment) {changed : α} :
    step.apply moment = .done (.ok changed) ↔
      ∃ moved, (instant moment).moveMonths? (offset moment) months = some moved ∧
        withInstant moment moved = changed := by
  cases hmoved : (instant moment).moveMonths? (offset moment) months with
  | none =>
      rw [hstep.apply_of_none hmoved]
      simp [Outcome.ok, Outcome.failed]
  | some moved =>
      rw [hstep.apply_of_some hvalid hmoved]
      simp [Outcome.ok]

end CountsMonths

section Clock

variable {date : Date} {time : Int}

/-- The instant that shows the same time in the other month, if that is in the calendar. -/
def Reaches (moment : α) (date : Date) (time months : Int) (target : Instant) : Prop :=
  (months = 0 ∨ Date.InCalendar ((date.monthIndex + months) / 12)) ∧
    target.Valid ∧ target.Shows (offset moment) (date.inMonth (date.monthIndex + months)) time

theorem CountsMonths.apply_of_reaches {step : Step α} (hstep : CountsMonths step months)
    (hvalid : Valid moment) (hshows : (instant moment).Shows (offset moment) date time)
    (hreaches : Reaches moment date time months moved) :
    step.apply moment = .done (.ok (withInstant moment moved)) :=
  hstep.apply_of_some hvalid ((moveMonths?_eq_some_iff hvalid.instant hshows).mpr hreaches)

theorem CountsMonths.apply_of_misses {step : Step α} (hstep : CountsMonths step months)
    (hvalid : Valid moment) (hshows : (instant moment).Shows (offset moment) date time)
    (hmisses : ∀ target, ¬ Reaches moment date time months target) :
    step.apply moment = .done (.failed moment (.step (.dateOutOfRange step.name))) :=
  hstep.apply_of_none <| Option.eq_none_iff_forall_ne_some.mpr fun target htarget =>
    hmisses target ((moveMonths?_eq_some_iff hvalid.instant hshows).mp htarget)

end Clock

theorem valid_instant {instant : Instant} (hvalid : instant.Valid) : Valid instant :=
  ⟨hvalid, show -secondsPerDay < 0 by decide, show 0 < secondsPerDay by decide⟩

theorem exists_reaches_iff {instant : Instant} {date : Date} {time : Int}
    (hshows : instant.Shows 0 date time) (months : Int) :
    (∃ target, Reaches instant date time months target) ↔
      Date.InCalendar ((date.monthIndex + months) / 12) := by
  constructor
  · rintro ⟨target, -, htarget, hsame⟩
    exact (hsame.valid_iff htarget.1).mp htarget
  · intro hwithin
    have hproper := hshows.proper.inMonth (date.monthIndex + months)
    obtain ⟨target, hnanos, hsame⟩ := exists_shows 0 hproper hshows.time_nonneg hshows.time_lt
    exact ⟨target, .inr hwithin, (hsame.valid_iff hnanos).mpr hwithin, hsame⟩

theorem apply_back_iff {instant : Instant} {date : Date} {time : Int}
    (hvalid : instant.Valid) (hshows : instant.Shows 0 date time)
    (hmoved : Reaches instant date time months moved) :
    (addMonthsStep (-months)).apply moved = .done (.ok instant) ↔
      date.day ≤ Date.daysInMonth ((date.monthIndex + months) / 12)
        (((date.monthIndex + months) % 12).toNat + 1) := by
  obtain ⟨-, hmovedValid, hmovedShows⟩ := hmoved
  have hback : moved.moveMonths? 0 (-months) = some instant ↔ _ :=
    moveMonths?_eq_some_iff hmovedValid hmovedShows
  rw [Date.monthIndex_inMonth, Int.add_neg_cancel_right] at hback
  have happly : (addMonthsStep (-months)).apply moved = .done (.ok instant) ↔
      moved.moveMonths? 0 (-months) = some instant := by
    rw [(CountsMonths.months (-months)).apply_eq_ok_iff (valid_instant hmovedValid)]
    exact exists_eq_right
  rw [happly, hback, ← hshows.proper.inMonth_inMonth_eq_iff]
  constructor
  · rintro ⟨-, -, hsame⟩
    exact hsame.date_eq hvalid.1 hshows
  · intro hsame
    have hyear : date.monthIndex / 12 = date.year :=
      congrArg Date.year hshows.proper.inMonth_self
    refine ⟨.inr ?_, hvalid, hsame.symm ▸ hshows⟩
    rw [hyear]
    exact (hshows.valid_iff hvalid.1).mp hvalid

/--
What a clock shows after a move by months or by years.  In universal time only the end of
the calendar stops it; back again, the day is the same unless the other month was too
short for it.  On other clocks the instant itself has to be in range as well.
-/
theorem months_on_clock :
    (∀ {step : Step Instant} {months : Int} {instant : Instant} {date : Date} {time : Int},
      CountsMonths step months → instant.Valid → instant.Shows 0 date time →
      let index := date.monthIndex + months
      (Date.InCalendar (index / 12) → ∃ moved : Instant, moved.Valid ∧
        moved.Shows 0 (date.inMonth index) time ∧ step.apply instant = .done (.ok moved)) ∧
      (¬ Date.InCalendar (index / 12) →
        step.apply instant = .done (.failed instant (.step (.dateOutOfRange step.name))))) ∧
    (∀ {months : Int} {instant moved : Instant} {date : Date} {time : Int},
      instant.Valid → instant.Shows 0 date time →
      (addMonthsStep months).apply instant = .done (.ok moved) →
      let index := date.monthIndex + months
      (addMonthsStep (-months)).apply moved = .done (.ok instant) ↔
        date.day ≤ Date.daysInMonth (index / 12) ((index % 12).toNat + 1)) ∧
    (∀ {step : Step DateTime} {months : Int} {dateTime : DateTime} {date : Date} {time : Int},
      CountsMonths step months → Valid dateTime →
      dateTime.instant.Shows dateTime.offset date time →
      let index := date.monthIndex + months
      let reached := fun target : Instant => (months = 0 ∨ Date.InCalendar (index / 12)) ∧
        target.Valid ∧ target.Shows dateTime.offset (date.inMonth index) time
      (∀ target, reached target →
        step.apply dateTime = .done (.ok { dateTime with instant := target })) ∧
      ((∀ target, ¬ reached target) →
        step.apply dateTime = .done (.failed dateTime (.step (.dateOutOfRange step.name))))) := by
  refine ⟨?_, ?_, ?_⟩
  · intro step months instant date time hstep hvalid hshows index
    have hreaches := exists_reaches_iff hshows months
    refine ⟨fun hwithin => ?_, fun hout => ?_⟩
    · obtain ⟨moved, hmoved⟩ := hreaches.mpr hwithin
      exact ⟨moved, hmoved.2.1, hmoved.2.2,
        hstep.apply_of_reaches (valid_instant hvalid) hshows hmoved⟩
    · exact hstep.apply_of_misses (valid_instant hvalid) hshows fun target htarget =>
        hout (hreaches.mp ⟨target, htarget⟩)
  · intro months instant moved date time hvalid hshows happly index
    obtain ⟨target, htarget, rfl⟩ :=
      ((CountsMonths.months months).apply_eq_ok_iff (valid_instant hvalid)).mp happly
    exact apply_back_iff hvalid hshows ((moveMonths?_eq_some_iff hvalid hshows).mp htarget)
  · intro step months dateTime date time hstep hvalid hshows index reached
    exact ⟨fun target => hstep.apply_of_reaches hvalid hshows,
      hstep.apply_of_misses hvalid hshows⟩

theorem months_on_clock_leapYear :
    let morning : Instant := ⟨1706688000, 5⟩
    let night : DateTime := ⟨⟨1706738400, 0⟩, 10800⟩
    let eight : Int := 28800000000005
    let one : Int := 3600000000000
    morning.Valid ∧ morning.Shows 0 ⟨2024, 1, 31⟩ eight ∧
      (∃ moved : Instant, moved.Shows 0 ⟨2024, 2, 29⟩ eight ∧
        (addMonthsStep 1).apply morning = .done (.ok moved) ∧
        (addMonthsStep (-1)).apply moved ≠ .done (.ok morning)) ∧
      (addYearsStep (-2147483648)).apply morning =
        .done (.failed morning (.step (.dateOutOfRange "add_years"))) ∧
      Valid night ∧ night.instant.Shows night.offset ⟨2024, 2, 1⟩ one ∧
      (addMonthsStep 1).apply night = .done (.ok ⟨⟨1709244000, 0⟩, 10800⟩) := by
  intro morning night eight one
  have hmorning : morning.Valid := by decide
  have height : morning.Shows 0 ⟨2024, 1, 31⟩ eight := (shows_iff hmorning.1).mpr (by decide)
  have hnight : Valid night := ⟨by decide, by decide, by decide⟩
  have hone : night.instant.Shows night.offset ⟨2024, 2, 1⟩ one :=
    (shows_iff hnight.instant.1).mpr (by decide)
  obtain ⟨hmoves, hback, hclocks⟩ := months_on_clock
  obtain ⟨moved, -, hmoved, happly⟩ := (hmoves (.months 1) hmorning height).1 (by decide)
  refine ⟨hmorning, height, ⟨moved, hmoved, happly, ?_⟩, ?_, hnight, hone, ?_⟩
  · intro hsame
    exact absurd ((hback hmorning height happly).mp hsame) (by decide)
  · exact (hmoves (.years (-2147483648)) hmorning height).2 (by decide)
  · refine (hclocks (.months 1) hnight hone).1 ⟨1709244000, 0⟩ ⟨.inr (by decide), by decide, ?_⟩
    exact (shows_iff (by decide)).mpr (by decide)

end Moment

end ValuePipeline
