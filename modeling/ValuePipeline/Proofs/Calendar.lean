import Mathlib.Data.Int.Init
import Mathlib.Tactic.SplitIfs
import ValuePipeline.Time.Calendar

/-!
# The calendar, day by day

A date and the number of its day give each other back, for every year before and after
the start of the count.  The numbers are those of the calendar: 1 January 1970 has
number 0, and the day after a date has the next number.
-/

namespace ValuePipeline.Date

/-! ## Dates and the day after -/

structure Proper (date : Date) : Prop where
  month_pos : 1 ≤ date.month
  month_le : date.month ≤ 12
  day_pos : 1 ≤ date.day
  day_le : date.day ≤ daysInMonth date.year date.month

def next (date : Date) : Date :=
  if date.day < daysInMonth date.year date.month then { date with day := date.day + 1 }
  else if date.month < 12 then ⟨date.year, date.month + 1, 1⟩
  else ⟨date.year + 1, 1, 1⟩

/-- The date of the day with this number, counted day by day from 1 January 1970. -/
inductive Falls : Date → Int → Prop where
  | epoch : Falls ⟨1970, 1, 1⟩ 0
  | forward {date : Date} {day : Int} (hfalls : Falls date day) : Falls date.next (day + 1)
  | back {date : Date} {day : Int} (hproper : date.Proper) (hfalls : Falls date.next day) :
      Falls date (day - 1)

variable {year : Int} {month : Nat} {date other : Date} {day : Int}

theorem getElem?_monthLengths (year : Int) (hpos : 1 ≤ month) (hle : month ≤ 12) :
    (monthLengths year)[month - 1]? = some (daysInMonth year month) := by
  have hlt : month - 1 < (monthLengths year).length := by
    change month - 1 < 12
    omega
  rw [daysInMonth, List.getElem?_eq_getElem hlt, Option.getD_some]

theorem daysInMonth_pos (hpos : 1 ≤ month) (hle : month ≤ 12) : 1 ≤ daysInMonth year month := by
  have hlengths : ∀ length ∈ monthLengths year, 1 ≤ length := by
    rw [monthLengths]
    cases isLeapYear year <;> decide
  exact hlengths _ (List.mem_of_getElem? (getElem?_monthLengths year hpos hle))

theorem Proper.next (hproper : date.Proper) : date.next.Proper := by
  obtain ⟨hpos, hle, -, -⟩ := hproper
  rw [Date.next]
  split
  case isTrue hwithin => exact ⟨hpos, hle, by simp, hwithin⟩
  case isFalse =>
    split
    case isTrue hmonth => exact ⟨by simp, hmonth, by simp, daysInMonth_pos (by simp) hmonth⟩
    case isFalse => exact ⟨by simp, by simp, by simp, daysInMonth_pos (by simp) (by simp)⟩

/-! ## Parts of a year -/

section Parts

variable {lengths : List Nat} {i length before : Nat}

theorem foldr_take_succ (lengths : List Nat) (i : Nat) :
    (lengths.take (i + 1)).foldr (· + ·) 0 =
      (lengths.take i).foldr (· + ·) 0 + lengths[i]?.getD 0 := by
  induction lengths generalizing i with
  | nil => simp
  | cons first rest ih =>
      cases i with
      | zero => simp
      | succ i => simp [ih, Nat.add_assoc]

theorem foldr_take_le (lengths : List Nat) (i : Nat) :
    (lengths.take i).foldr (· + ·) 0 ≤ lengths.foldr (· + ·) 0 := by
  induction lengths generalizing i with
  | nil => simp
  | cons first rest ih =>
      cases i with
      | zero => simp
      | succ i => simpa using ih i

theorem monthOfDay_eq (hlength : lengths[i]? = some length) (hbefore : before < length)
    (month : Nat) :
    monthOfDay lengths month ((lengths.take i).foldr (· + ·) 0 + before) =
      (month + i, before) := by
  induction lengths generalizing i month with
  | nil => simp at hlength
  | cons first rest ih =>
      cases i with
      | zero =>
          obtain rfl : first = length := by simpa using hlength
          simp [monthOfDay, hbefore]
      | succ i =>
          have hlater := ih (by simpa using hlength) (month + 1)
          simp [monthOfDay, Nat.add_assoc, hlater, Nat.add_comm 1]

theorem exists_part {within : Nat} (hwithin : within < lengths.foldr (· + ·) 0) :
    ∃ i length before, lengths[i]? = some length ∧ before < length ∧
      within = (lengths.take i).foldr (· + ·) 0 + before := by
  induction lengths generalizing within with
  | nil => simp at hwithin
  | cons first rest ih =>
      rcases Nat.lt_or_ge within first with hfirst | hlater
      · exact ⟨0, first, within, by simp, hfirst, by simp⟩
      · rw [List.foldr_cons] at hwithin
        have hless : within - first < rest.foldr (· + ·) 0 := by omega
        obtain ⟨i, length, before, hlength, hbefore, hrest⟩ := ih hless
        refine ⟨i + 1, length, before, by simpa using hlength, hbefore, ?_⟩
        simp only [List.take_succ_cons, List.foldr_cons]
        omega

end Parts

def yearLength (year : Int) : Nat := if isLeapYear year then 366 else 365

theorem yearLength_pos (year : Int) : 0 < yearLength year := by
  rw [yearLength]
  split <;> omega

theorem foldr_monthLengths : (monthLengths year).foldr (· + ·) 0 = yearLength year := by
  rw [monthLengths, yearLength]
  cases isLeapYear year <;> rfl

theorem daysBeforeMonth_succ (year : Int) (hpos : 1 ≤ month) :
    daysBeforeMonth year (month + 1) = daysBeforeMonth year month + daysInMonth year month := by
  obtain ⟨month, rfl⟩ := Nat.exists_eq_add_of_le' hpos
  exact foldr_take_succ _ _

theorem daysBeforeMonth_le : daysBeforeMonth year month ≤ yearLength year := by
  rw [← foldr_monthLengths]
  exact foldr_take_le _ _

/-! ## Years -/

theorem daysBeforeYear_succ (year : Int) :
    daysBeforeYear (year + 1) = daysBeforeYear year + yearLength year := by
  simp only [daysBeforeYear, yearLength, isLeapYear, Bool.and_eq_true, Bool.or_eq_true,
    decide_eq_true_eq]
  split <;> omega

theorem daysBeforeYear_mono {later : Int} (hle : year ≤ later) :
    daysBeforeYear year ≤ daysBeforeYear later := by
  simp only [daysBeforeYear]
  omega

theorem yearOfDay_bounds (day : Int) :
    daysBeforeYear (yearOfDay day) ≤ day ∧ day < daysBeforeYear (yearOfDay day + 1) := by
  have hlow : daysBeforeYear (day * 400 / 146097 - 1) ≤ day := by
    simp only [daysBeforeYear]
    omega
  have hhigh : day < daysBeforeYear (day * 400 / 146097 + 1 + 1) := by
    simp only [daysBeforeYear]
    omega
  rw [yearOfDay]
  generalize day * 400 / 146097 = guess at hlow hhigh ⊢
  split
  case isTrue hearlier => exact ⟨hlow, by rwa [Int.sub_add_cancel]⟩
  case isFalse hsame =>
    split
    case isTrue hlater => exact ⟨hlater, hhigh⟩
    case isFalse hbefore => exact ⟨Int.not_lt.mp hsame, Int.not_le.mp hbefore⟩

theorem yearOfDay_eq (hlow : daysBeforeYear year ≤ day) (hhigh : day < daysBeforeYear (year + 1)) :
    yearOfDay day = year := by
  obtain ⟨hstart, hend⟩ := yearOfDay_bounds day
  rcases Int.lt_trichotomy (yearOfDay day) year with hearlier | hsame | hlater
  · have := daysBeforeYear_mono (Int.add_one_le_of_lt hearlier)
    omega
  · exact hsame
  · have := daysBeforeYear_mono (Int.add_one_le_of_lt hlater)
    omega

/-! ## Dates and the numbers of days -/

/-- The days of the year that are over when the date begins. -/
def daysBefore (date : Date) : Nat := daysBeforeMonth date.year date.month + (date.day - 1)

theorem Proper.toDays_eq (hproper : date.Proper) :
    date.toDays + Date.epoch = daysBeforeYear date.year + daysBefore date := by
  have hday := hproper.day_pos
  rw [toDays, daysBefore]
  omega

theorem Proper.daysBefore_lt (hproper : date.Proper) : date.daysBefore < yearLength date.year := by
  have hmonth := daysBeforeMonth_succ date.year hproper.month_pos
  have hle : daysBeforeMonth date.year (date.month + 1) ≤ _ := daysBeforeMonth_le
  have hpos := hproper.day_pos
  have hday := hproper.day_le
  rw [daysBefore]
  omega

theorem Proper.yearOfDay_eq (hproper : date.Proper) :
    yearOfDay (date.toDays + Date.epoch) = date.year := by
  have hlt := hproper.daysBefore_lt
  refine Date.yearOfDay_eq ?_ ?_
  · rw [hproper.toDays_eq]
    omega
  · rw [daysBeforeYear_succ, hproper.toDays_eq]
    omega

theorem Proper.monthOfDay_eq (hproper : date.Proper) :
    monthOfDay (monthLengths date.year) 1 date.daysBefore = (date.month, date.day - 1) := by
  have hlength := getElem?_monthLengths date.year hproper.month_pos hproper.month_le
  have hbefore : date.day - 1 < daysInMonth date.year date.month := by
    have hpos := hproper.day_pos
    have hle := hproper.day_le
    omega
  have hmonth := Date.monthOfDay_eq hlength hbefore 1
  rwa [Nat.add_sub_cancel' hproper.month_pos] at hmonth

theorem ofDays_toDays (hproper : date.Proper) : ofDays date.toDays = date := by
  have hwithin : (date.toDays + Date.epoch - daysBeforeYear date.year).toNat =
      date.daysBefore := by
    rw [hproper.toDays_eq]
    omega
  simp only [ofDays, hproper.yearOfDay_eq, hwithin, hproper.monthOfDay_eq,
    Nat.sub_add_cancel hproper.day_pos]

theorem exists_proper (day : Int) : ∃ date : Date, date.Proper ∧ date.toDays = day := by
  obtain ⟨hlow, hhigh⟩ := yearOfDay_bounds (day + Date.epoch)
  generalize yearOfDay (day + Date.epoch) = year at hlow hhigh
  rw [daysBeforeYear_succ] at hhigh
  have hlt : (day + Date.epoch - daysBeforeYear year).toNat <
      (monthLengths year).foldr (· + ·) 0 := by
    rw [foldr_monthLengths]
    omega
  obtain ⟨i, length, before, hlength, hbefore, hwithin⟩ := exists_part hlt
  have hmonth : i < 12 := (List.getElem?_eq_some_iff.mp hlength).1
  have hproper : Proper ⟨year, i + 1, before + 1⟩ :=
    { month_pos := by simp
      month_le := hmonth
      day_pos := by simp
      day_le := by
        simp only [daysInMonth, Nat.add_sub_cancel, hlength, Option.getD_some]
        exact hbefore }
  refine ⟨_, hproper, ?_⟩
  have htoDays := hproper.toDays_eq
  simp only [daysBefore, daysBeforeMonth, Nat.add_sub_cancel, ← hwithin] at htoDays
  omega

theorem proper_ofDays (day : Int) : (ofDays day).Proper := by
  obtain ⟨date, hproper, rfl⟩ := exists_proper day
  rwa [ofDays_toDays hproper]

theorem toDays_ofDays (day : Int) : (ofDays day).toDays = day := by
  obtain ⟨date, hproper, rfl⟩ := exists_proper day
  rw [ofDays_toDays hproper]

theorem Proper.eq_of_toDays (hproper : date.Proper) (hother : other.Proper)
    (hdays : date.toDays = other.toDays) : date = other := by
  rw [← ofDays_toDays hproper, hdays, ofDays_toDays hother]

theorem toDays_next (hproper : date.Proper) : date.next.toDays = date.toDays + 1 := by
  have hnext := hproper.next.toDays_eq
  have hdate := hproper.toDays_eq
  have hmonth := daysBeforeMonth_succ date.year hproper.month_pos
  obtain ⟨-, hle, hday, hlast⟩ := hproper
  simp only [next, daysBefore] at hnext hdate ⊢
  split_ifs at hnext ⊢ with hwithin hearlier
  · dsimp only at hnext
    omega
  · dsimp only at hnext
    omega
  · have hfull : daysBeforeMonth date.year (date.month + 1) = yearLength date.year := by
      rw [show date.month = 12 by omega]
      exact foldr_monthLengths
    have hstart : daysBeforeMonth (date.year + 1) 1 = 0 := rfl
    have hyear := daysBeforeYear_succ date.year
    dsimp only at hnext
    omega

theorem Falls.proper_and_toDays (hfalls : Falls date day) : date.Proper ∧ date.toDays = day := by
  induction hfalls with
  | epoch => exact ⟨⟨by decide, by decide, by decide, by decide⟩, by decide⟩
  | forward _ ih =>
      obtain ⟨hproper, rfl⟩ := ih
      exact ⟨hproper.next, toDays_next hproper⟩
  | back hproper _ ih =>
      obtain ⟨-, rfl⟩ := ih
      exact ⟨hproper, by rw [toDays_next hproper, Int.add_sub_cancel]⟩

theorem falls_ofDays (day : Int) : Falls (ofDays day) day := by
  induction day using Int.induction_on with
  | zero => exact .epoch
  | succ day ih =>
      have hnext : (ofDays day).next = ofDays (day + 1) :=
        (proper_ofDays _).next.eq_of_toDays (proper_ofDays _) (by
          rw [toDays_next (proper_ofDays _), toDays_ofDays, toDays_ofDays])
      exact hnext ▸ ih.forward
  | pred day ih =>
      have hnext : (ofDays (-day - 1)).next = ofDays (-day) :=
        (proper_ofDays _).next.eq_of_toDays (proper_ofDays _) (by
          rw [toDays_next (proper_ofDays _), toDays_ofDays, toDays_ofDays, Int.sub_add_cancel])
      exact .back (proper_ofDays _) (hnext ▸ ih)

theorem falls_iff : Falls date day ↔ date.Proper ∧ date.toDays = day := by
  constructor
  · exact Falls.proper_and_toDays
  · rintro ⟨hproper, rfl⟩
    have hfalls := falls_ofDays date.toDays
    rwa [ofDays_toDays hproper] at hfalls

/-! ## First and last days of years -/

def InCalendar (year : Int) : Prop := minYear ≤ year ∧ year ≤ maxYear

instance (year : Int) : Decidable (InCalendar year) := by
  unfold InCalendar
  infer_instance

theorem toDays_newYear (year : Int) : toDays ⟨year, 1, 1⟩ + Date.epoch = daysBeforeYear year := by
  have hmonth : daysBeforeMonth year 1 = 0 := rfl
  simp only [toDays, hmonth]
  omega

theorem toDays_newYear_succ (year : Int) :
    toDays ⟨year + 1, 1, 1⟩ = toDays ⟨year, 1, 1⟩ + yearLength year := by
  have hstart := toDays_newYear year
  have hend := toDays_newYear (year + 1)
  rw [daysBeforeYear_succ] at hend
  omega

theorem toDays_lastDay (year : Int) : toDays ⟨year, 12, 31⟩ + 1 = toDays ⟨year + 1, 1, 1⟩ := by
  have hproper : Proper ⟨year, 12, 31⟩ := ⟨by simp, by simp, by simp, Nat.le_refl 31⟩
  exact (toDays_next hproper).symm

theorem Proper.newYear_le_iff (hproper : date.Proper) :
    toDays ⟨year, 1, 1⟩ ≤ date.toDays ↔ year ≤ date.year := by
  have hnewYear := toDays_newYear year
  have hdate := hproper.toDays_eq
  have hlt := hproper.daysBefore_lt
  have hnext := daysBeforeYear_succ date.year
  rcases Int.lt_or_le date.year year with hlater | hwithin
  · have := daysBeforeYear_mono (Int.add_one_le_of_lt hlater)
    omega
  · have := daysBeforeYear_mono hwithin
    omega

theorem Proper.le_lastDay_iff (hproper : date.Proper) :
    date.toDays ≤ toDays ⟨year, 12, 31⟩ ↔ date.year ≤ year := by
  have hlast := toDays_lastDay year
  have hnext : toDays ⟨year + 1, 1, 1⟩ ≤ date.toDays ↔ _ := hproper.newYear_le_iff
  omega

/-! ## Other months -/

def monthIndex (date : Date) : Int := 12 * date.year + ((date.month : Int) - 1)

/-- The same day of the month with this index, or the last day of that month. -/
def inMonth (date : Date) (index : Int) : Date :=
  ⟨index / 12, (index % 12).toNat + 1,
    min date.day (daysInMonth (index / 12) ((index % 12).toNat + 1))⟩

theorem addMonths?_eq (date : Date) (months : Int) :
    date.addMonths? months =
      if InCalendar ((date.monthIndex + months) / 12) then
        some (date.inMonth (date.monthIndex + months))
      else none := rfl

theorem Proper.inMonth (hproper : date.Proper) (index : Int) : (date.inMonth index).Proper := by
  have hle : (index % 12).toNat + 1 ≤ 12 := by omega
  exact
    { month_pos := Nat.le_add_left _ _
      month_le := hle
      day_pos := Nat.le_min.mpr ⟨hproper.day_pos, daysInMonth_pos (Nat.le_add_left _ _) hle⟩
      day_le := Nat.min_le_right _ _ }

@[simp] theorem monthIndex_inMonth (date : Date) (index : Int) :
    (date.inMonth index).monthIndex = index := by
  simp only [monthIndex, inMonth]
  omega

theorem Proper.inMonth_monthIndex (hproper : date.Proper) (other : Date) :
    other.inMonth date.monthIndex =
      { date with day := min other.day (daysInMonth date.year date.month) } := by
  have hpos := hproper.month_pos
  have hle := hproper.month_le
  have hyear : date.monthIndex / 12 = date.year := by
    rw [monthIndex]
    omega
  have hmonth : (date.monthIndex % 12).toNat + 1 = date.month := by
    rw [monthIndex]
    omega
  rw [Date.inMonth, hyear, hmonth]

theorem Proper.inMonth_self (hproper : date.Proper) : date.inMonth date.monthIndex = date := by
  rw [hproper.inMonth_monthIndex, Nat.min_eq_left hproper.day_le]

theorem Proper.inMonth_inMonth_eq_iff (hproper : date.Proper) (index : Int) :
    (date.inMonth index).inMonth date.monthIndex = date ↔
      date.day ≤ daysInMonth (index / 12) ((index % 12).toNat + 1) := by
  have hle := hproper.day_le
  rw [hproper.inMonth_monthIndex]
  obtain ⟨year, month, day⟩ := date
  simp only [Date.inMonth, mk.injEq, true_and] at hle ⊢
  omega

end ValuePipeline.Date
