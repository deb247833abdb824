import ValuePipeline.Proofs.Calendar
import ValuePipeline.Proofs.Lengths
import ValuePipeline.Time.Instant

/-!
# Instants, in nanoseconds and on a clock

An instant is a number of nanoseconds, and moving it by a length of time adds the two
numbers.  It is also what a clock shows: with the offset of the clock, each instant
shows one date and one time of day, and no other instant shows them.
-/

namespace ValuePipeline.Instant

variable {instant other moved : Instant} {delta : TimeDelta}

/-! ## Instants and numbers -/

def InRange (nanos : Int) : Prop :=
  minSeconds * nanosPerSecond ≤ nanos ∧ nanos < (maxSeconds + 1) * nanosPerSecond

def ofNanos (nanos : Int) : Instant := ⟨nanos / nanosPerSecond, (nanos % nanosPerSecond).toNat⟩

theorem nanos_ofNanos_lt (nanos : Int) : (ofNanos nanos).nanos < nanosPerSecond := by
  simp only [ofNanos, nanosPerSecond]
  omega

@[simp] theorem toNanos_ofNanos (nanos : Int) : (ofNanos nanos).toNanos = nanos := by
  simp only [toNanos, ofNanos, nanosPerSecond]
  omega

theorem ofNanos_toNanos (hnanos : instant.nanos < nanosPerSecond) :
    ofNanos instant.toNanos = instant := by
  obtain ⟨seconds, nanos⟩ := instant
  simp only [toNanos, ofNanos, nanosPerSecond] at hnanos ⊢
  congr <;> omega

theorem valid_iff :
    instant.Valid ↔ instant.nanos < nanosPerSecond ∧ InRange instant.toNanos := by
  refine and_congr_right fun hnanos => ?_
  simp only [InRange, toNanos, nanosPerSecond] at hnanos ⊢
  omega

theorem Valid.ofNanos_toNanos (hvalid : instant.Valid) : ofNanos instant.toNanos = instant :=
  Instant.ofNanos_toNanos hvalid.1

theorem valid_ofNanos_iff {nanos : Int} : (ofNanos nanos).Valid ↔ InRange nanos := by
  rw [valid_iff, toNanos_ofNanos, and_iff_right (nanos_ofNanos_lt nanos)]

theorem inRange_iff {nanos : Int} :
    InRange nanos ↔ ∃ instant : Instant, instant.Valid ∧ instant.toNanos = nanos := by
  constructor
  · intro hin
    exact ⟨_, valid_ofNanos_iff.mpr hin, toNanos_ofNanos nanos⟩
  · rintro ⟨instant, hvalid, rfl⟩
    exact (valid_iff.mp hvalid).2

theorem make?_eq_some_iff {seconds : Int} {nanos : Nat} (hnanos : nanos < nanosPerSecond) :
    make? seconds nanos = some moved ↔
      moved.Valid ∧ moved.toNanos = seconds * nanosPerSecond + nanos := by
  rw [make?, Option.ite_none_right_eq_some, Option.some.injEq]
  constructor
  · rintro ⟨hvalid, rfl⟩
    exact ⟨hvalid, rfl⟩
  · rintro ⟨hvalid, htotal⟩
    have hsame : (⟨seconds, nanos⟩ : Instant) = moved := by
      rw [← hvalid.ofNanos_toNanos, htotal]
      exact (@ofNanos_toNanos ⟨seconds, nanos⟩ hnanos).symm
    exact ⟨hsame ▸ hvalid, hsame⟩

theorem add?_eq_some_iff (hvalid : instant.Valid) (hdelta : delta.Valid) :
    instant.add? delta = some moved ↔
      moved.Valid ∧ moved.toNanos = instant.toNanos + delta.toNanos := by
  have hcarry : instant.nanos + delta.nanos - nanosPerSecond < nanosPerSecond := by
    have := hvalid.1
    have := hdelta.1
    omega
  rw [add?]
  split
  case isTrue hwithin =>
    rw [make?_eq_some_iff hwithin]
    refine and_congr_right fun _ => ?_
    simp only [toNanos, TimeDelta.toNanos, nanosPerSecond]
    omega
  case isFalse hover =>
    rw [make?_eq_some_iff hcarry]
    refine and_congr_right fun _ => ?_
    simp only [toNanos, TimeDelta.toNanos, nanosPerSecond] at hover ⊢
    omega

/-! ## On a clock -/

def nanosPerDay : Int := secondsPerDay * nanosPerSecond

/-- The clock with this offset shows the date, and so many nanoseconds since its midnight. -/
structure Shows (instant : Instant) (offset : Int) (date : Date) (time : Int) : Prop where
  day : ∃ day, date.Falls day ∧
    instant.toNanos + offset * nanosPerSecond = day * nanosPerDay + time
  time_nonneg : 0 ≤ time
  time_lt : time < nanosPerDay

variable {offset time : Int} {date : Date}

theorem Shows.proper (hshows : instant.Shows offset date time) : date.Proper := by
  obtain ⟨⟨day, hfalls, -⟩, -, -⟩ := hshows
  exact hfalls.proper_and_toDays.1

theorem shows_iff_of_proper (hproper : date.Proper) (hnonneg : 0 ≤ time)
    (hlt : time < nanosPerDay) : instant.Shows offset date time ↔
      instant.toNanos + offset * nanosPerSecond = date.toDays * nanosPerDay + time := by
  constructor
  · rintro ⟨⟨day, hfalls, htotal⟩, -, -⟩
    rwa [hfalls.proper_and_toDays.2]
  · intro htotal
    exact ⟨⟨_, Date.falls_iff.mpr ⟨hproper, rfl⟩, htotal⟩, hnonneg, hlt⟩

theorem Shows.toNanos_eq (hshows : instant.Shows offset date time) :
    instant.toNanos + offset * nanosPerSecond = date.toDays * nanosPerDay + time :=
  (shows_iff_of_proper hshows.proper hshows.time_nonneg hshows.time_lt).mp hshows

theorem shows_iff (hnanos : instant.nanos < nanosPerSecond) :
    instant.Shows offset date time ↔
      instant.date offset = date ∧ instant.timeOfDay offset * nanosPerSecond + instant.nanos = time := by
  have htotal : instant.toNanos + offset * nanosPerSecond =
      (instant.seconds + offset) / secondsPerDay * nanosPerDay +
        (instant.timeOfDay offset * nanosPerSecond + instant.nanos) := by
    simp only [toNanos, timeOfDay, nanosPerDay, nanosPerSecond, secondsPerDay]
    omega
  constructor
  · intro hshows
    have hdays := hshows.toNanos_eq
    have hnonneg := hshows.time_nonneg
    have hlt := hshows.time_lt
    have hday : date.toDays = (instant.seconds + offset) / secondsPerDay := by
      simp only [toNanos, nanosPerDay, nanosPerSecond, secondsPerDay] at *
      omega
    refine ⟨?_, ?_⟩
    · rw [Instant.date, ← hday, Date.ofDays_toDays hshows.proper]
    · rw [htotal, hday] at hdays
      omega
  · rintro ⟨rfl, rfl⟩
    have hproper : (instant.date offset).Proper := Date.proper_ofDays _
    refine (shows_iff_of_proper hproper ?_ ?_).mpr ?_
    · simp only [timeOfDay, secondsPerDay, nanosPerSecond]
      omega
    · simp only [timeOfDay, nanosPerDay, nanosPerSecond, secondsPerDay] at hnanos ⊢
      omega
    · rw [htotal, Instant.date, Date.toDays_ofDays]

theorem shows_date (hnanos : instant.nanos < nanosPerSecond) (offset : Int) :
    instant.Shows offset (instant.date offset)
      (instant.timeOfDay offset * nanosPerSecond + instant.nanos) :=
  (shows_iff hnanos).mpr ⟨rfl, rfl⟩

theorem Shows.date_eq (hnanos : instant.nanos < nanosPerSecond) {otherDate : Date} {otherTime : Int}
    (hshows : instant.Shows offset date time) (hother : instant.Shows offset otherDate otherTime) :
    date = otherDate :=
  ((shows_iff hnanos).mp hshows).1.symm.trans ((shows_iff hnanos).mp hother).1

theorem exists_shows (offset : Int) (hproper : date.Proper) (hnonneg : 0 ≤ time)
    (hlt : time < nanosPerDay) :
    ∃ instant : Instant, instant.nanos < nanosPerSecond ∧ instant.Shows offset date time := by
  refine ⟨ofNanos (date.toDays * nanosPerDay + time - offset * nanosPerSecond),
    nanos_ofNanos_lt _, (shows_iff_of_proper hproper hnonneg hlt).mpr ?_⟩
  rw [toNanos_ofNanos, Int.sub_add_cancel]

theorem Shows.eq_of_valid (hvalid : instant.Valid) (hother : other.Valid)
    (hshows : instant.Shows offset date time) (hsame : other.Shows offset date time) :
    instant = other := by
  have htotal := hshows.toNanos_eq
  rw [← hsame.toNanos_eq] at htotal
  rw [← hvalid.ofNanos_toNanos, ← hother.ofNanos_toNanos]
  congr 1
  omega

theorem Shows.valid_iff (hnanos : instant.nanos < nanosPerSecond)
    (hshows : instant.Shows 0 date time) : instant.Valid ↔ Date.InCalendar date.year := by
  have hfirst : Date.toDays ⟨Date.minYear, 1, 1⟩ ≤ date.toDays ↔ _ := hshows.proper.newYear_le_iff
  have hlast : date.toDays ≤ Date.toDays ⟨Date.maxYear, 12, 31⟩ ↔ _ := hshows.proper.le_lastDay_iff
  rw [Instant.valid_iff, and_iff_right hnanos, Date.InCalendar, ← hfirst, ← hlast]
  obtain ⟨-, hnonneg, hlt⟩ := id hshows
  have htotal := hshows.toNanos_eq
  simp only [InRange, minSeconds, maxSeconds, nanosPerDay, nanosPerSecond, secondsPerDay] at *
  omega

theorem Shows.year_near (hvalid : instant.Valid) (hshows : instant.Shows offset date time)
    (hwest : -secondsPerDay < offset) (heast : offset < secondsPerDay) :
    Date.minYear - 1 ≤ date.year ∧ date.year ≤ Date.maxYear + 1 := by
  have hfirst : Date.toDays ⟨Date.minYear - 1, 1, 1⟩ ≤ date.toDays ↔ _ :=
    hshows.proper.newYear_le_iff
  have hlast : date.toDays ≤ Date.toDays ⟨Date.maxYear + 1, 12, 31⟩ ↔ _ :=
    hshows.proper.le_lastDay_iff
  have hyearBefore := Date.toDays_newYear_succ (Date.minYear - 1)
  have hyearAfter := Date.toDays_newYear_succ (Date.maxYear + 1)
  have hlastBefore := Date.toDays_lastDay Date.maxYear
  have hlastAfter := Date.toDays_lastDay (Date.maxYear + 1)
  have hbefore := Date.yearLength_pos (Date.minYear - 1)
  have hafter := Date.yearLength_pos (Date.maxYear + 1)
  rw [Int.sub_add_cancel] at hyearBefore
  rw [← hfirst, ← hlast]
  obtain ⟨-, hin⟩ := Instant.valid_iff.mp hvalid
  obtain ⟨-, hnonneg, hlt⟩ := id hshows
  have htotal := hshows.toNanos_eq
  simp only [InRange, minSeconds, maxSeconds, nanosPerDay, nanosPerSecond, secondsPerDay] at *
  omega

end ValuePipeline.Instant
