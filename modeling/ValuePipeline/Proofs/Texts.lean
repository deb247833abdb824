import Mathlib.Data.List.DropRight
import ValuePipeline.Steps.Text

/-!
# What is made of a text

Trimming, padding and cutting, told by what a text and the result have to do with each
other: the parts the text falls into, what is in them and how long they are.  Each of
these relations has exactly one result, and it is the one that is computed.
-/

namespace ValuePipeline.Text

/-! ## Blank characters -/

theorem CharSet.containsCode_iff {code : Nat} {ranges : List (Nat × Nat)}
    (hascending : ranges.Pairwise fun range later => range.1 < later.1) :
    containsCode code ranges ↔ ∃ range ∈ ranges, range.1 ≤ code ∧ code ≤ range.2 := by
  induction ranges with
  | nil => simp [containsCode]
  | cons range rest ih =>
      obtain ⟨hlater, hrest⟩ := List.pairwise_cons.mp hascending
      obtain ⟨first, last⟩ := range
      by_cases hbefore : code < first
      · have hoff : ¬ ∃ range ∈ (first, last) :: rest, range.1 ≤ code ∧ code ≤ range.2 := by
          rintro ⟨range, hrange, hfirst, -⟩
          rcases List.mem_cons.mp hrange with rfl | hrange
          · exact absurd hfirst (Nat.not_le.mpr hbefore)
          · exact absurd hfirst (Nat.not_le.mpr (hbefore.trans (hlater range hrange)))
        simpa only [containsCode, if_pos hbefore, Bool.false_eq_true, false_iff] using hoff
      · simp only [containsCode, if_neg hbefore, Bool.or_eq_true, decide_eq_true_eq, ih hrest,
          List.exists_mem_cons_iff, Nat.not_lt.mp hbefore, true_and]

def blankRanges : List (Nat × Nat) :=
  [(0x9, 0xD), (0x20, 0x20), (0x85, 0x85), (0xA0, 0xA0), (0x1680, 0x1680), (0x2000, 0x200A),
    (0x2028, 0x2029), (0x202F, 0x202F), (0x205F, 0x205F), (0x3000, 0x3000)]

def Blank (c : Char) : Prop :=
  ∃ range ∈ blankRanges, range.1 ≤ c.toNat ∧ c.toNat ≤ range.2

theorem whiteSpace_contains_iff {c : Char} : Property.whiteSpace.contains c ↔ Blank c := by
  have hranges : Property.whiteSpace.ranges = blankRanges := by decide +kernel
  rw [CharSet.contains, hranges]
  exact CharSet.containsCode_iff (by decide)

/-! ## Trimming -/

inductive Side where
  | both
  | start
  | stop
  deriving DecidableEq, Repr

def Strippable (chars : List Char) (c : Char) : Prop :=
  c ∈ chars ∨ chars = [] ∧ Blank c

/-- The core is what is left when all that can be stripped is taken off a side, or off both. -/
structure Stripped (side : Side) (chars : List Char) (text core : String) : Prop where
  parts : ∃ front back, text.toList = front ++ core.toList ++ back ∧
    (∀ c ∈ front, Strippable chars c) ∧ (∀ c ∈ back, Strippable chars c) ∧
    (side = .stop → front = []) ∧ (side = .start → back = [])
  first : side ≠ .stop → ∀ c ∈ core.toList.head?, ¬ Strippable chars c
  last : side ≠ .start → ∀ c ∈ core.toList.getLast?, ¬ Strippable chars c

theorem strips_iff {chars : List Char} {c : Char} : strips chars c ↔ Strippable chars c := by
  cases chars with
  | nil => simp [strips, Strippable, whiteSpace_contains_iff]
  | cons first rest => simp [strips, Strippable]

section DropWhile

variable {α : Type} {p : α → Bool} {list rest : List α}

theorem dropWhile_eq_iff : list.dropWhile p = rest ↔
    ∃ front, list = front ++ rest ∧ (∀ a ∈ front, p a) ∧ ∀ a ∈ rest.head?, ¬ p a := by
  constructor
  · rintro rfl
    refine ⟨list.takeWhile p, List.takeWhile_append_dropWhile.symm,
      fun a ha => List.mem_takeWhile_imp ha, ?_⟩
    intro a ha
    have hstop := List.head?_dropWhile_not p list
    rw [Option.mem_def.mp ha] at hstop
    simpa using hstop
  · rintro ⟨front, rfl, hfront, hrest⟩
    rw [List.dropWhile_append_of_pos hfront]
    cases rest with
    | nil => rfl
    | cons a rest => exact List.dropWhile_cons_of_neg (hrest a rfl)

theorem rdropWhile_eq_iff : list.rdropWhile p = rest ↔
    ∃ back, list = rest ++ back ∧ (∀ a ∈ back, p a) ∧ ∀ a ∈ rest.getLast?, ¬ p a := by
  rw [List.rdropWhile, List.reverse_eq_iff, dropWhile_eq_iff, List.head?_reverse]
  constructor
  · rintro ⟨front, hlist, hfront, hrest⟩
    refine ⟨front.reverse, ?_, by simpa using hfront, hrest⟩
    rw [← List.reverse_reverse list, hlist, List.reverse_append, List.reverse_reverse]
  · rintro ⟨back, rfl, hback, hrest⟩
    exact ⟨back.reverse, List.reverse_append, by simpa using hback, hrest⟩

end DropWhile

variable {chars : List Char} {text core : String}

theorem trimStart_eq_iff : trimStart chars text = core ↔ Stripped .start chars text core := by
  rw [trimStart, ← String.toList_inj, String.toList_ofList, dropWhile_eq_iff]
  simp only [strips_iff]
  constructor
  · rintro ⟨front, htext, hfront, hfirst⟩
    exact
      { parts := ⟨front, [], by rw [htext, List.append_nil], hfront, by simp, by simp, by simp⟩
        first := fun _ => hfirst
        last := fun h => absurd rfl h }
  · rintro ⟨⟨front, back, htext, hfront, -, -, hback⟩, hfirst, -⟩
    rw [hback rfl, List.append_nil] at htext
    exact ⟨front, htext, hfront, hfirst (by simp)⟩

theorem trimEnd_eq_iff : trimEnd chars text = core ↔ Stripped .stop chars text core := by
  change String.ofList (text.toList.rdropWhile (strips chars)) = core ↔ _
  rw [← String.toList_inj, String.toList_ofList, rdropWhile_eq_iff]
  simp only [strips_iff]
  constructor
  · rintro ⟨back, htext, hback, hlast⟩
    exact
      { parts := ⟨[], back, by rw [htext, List.nil_append], by simp, hback, by simp, by simp⟩
        first := fun h => absurd rfl h
        last := fun _ => hlast }
  · rintro ⟨⟨front, back, htext, -, hback, hfront, -⟩, -, hlast⟩
    rw [hfront rfl, List.nil_append] at htext
    exact ⟨back, htext, hback, hlast (by simp)⟩

theorem trimBoth_eq_iff : trimBoth chars text = core ↔ Stripped .both chars text core := by
  change String.ofList ((text.toList.dropWhile (strips chars)).rdropWhile (strips chars)) = core ↔ _
  rw [← String.toList_inj, String.toList_ofList, rdropWhile_eq_iff]
  constructor
  · rintro ⟨back, hstart, hback, hlast⟩
    obtain ⟨front, htext, hfront, hfirst⟩ := dropWhile_eq_iff.mp hstart
    simp only [strips_iff] at hfront hback hfirst hlast
    refine
      { parts := ⟨front, back, by rw [htext, List.append_assoc], hfront, hback, by simp, by simp⟩
        first := fun _ c hc => hfirst c ?_
        last := fun _ => hlast }
    rw [List.head?_append, Option.mem_def.mp hc, Option.some_or]
    rfl
  · rintro ⟨⟨front, back, htext, hfront, hback, -, -⟩, hfirst, hlast⟩
    simp only [← strips_iff] at hfront hback hfirst hlast
    rw [htext, List.append_assoc, List.dropWhile_append_of_pos hfront]
    cases hcore : core.toList with
    | nil => exact ⟨[], by simpa using hback, by simp, by simp⟩
    | cons c rest =>
        rw [hcore] at hfirst hlast
        exact ⟨back, List.dropWhile_cons_of_neg (hfirst (by simp) c rfl), hback, hlast (by simp)⟩

/-! ## Padding -/

variable {fill : Char} {width : Nat} {padded : String}

theorem padding_length_iff {count : Nat} :
    count + text.length = max width text.length ↔ count = width - text.length := by
  omega

theorem padLeft_eq_iff : padLeft width fill text = padded ↔
    padded.length = max width text.length ∧
      ∃ count, padded.toList = List.replicate count fill ++ text.toList := by
  rw [padLeft, padding, ← String.toList_inj, String.toList_ofList,
    ← String.length_toList (s := padded)]
  constructor
  · intro hpadded
    refine ⟨?_, _, hpadded.symm⟩
    rw [← hpadded, List.length_append, List.length_replicate, String.length_toList]
    exact padding_length_iff.mpr rfl
  · rintro ⟨hlength, count, hpadded⟩
    rw [hpadded, List.length_append, List.length_replicate, String.length_toList,
      padding_length_iff] at hlength
    rw [hpadded, hlength]

theorem padRight_eq_iff : padRight width fill text = padded ↔
    padded.length = max width text.length ∧
      ∃ count, padded.toList = text.toList ++ List.replicate count fill := by
  rw [padRight, padding, ← String.toList_inj, String.toList_ofList,
    ← String.length_toList (s := padded)]
  constructor
  · intro hpadded
    refine ⟨?_, _, hpadded.symm⟩
    rw [← hpadded, List.length_append, List.length_replicate, String.length_toList, Nat.add_comm]
    exact padding_length_iff.mpr rfl
  · rintro ⟨hlength, count, hpadded⟩
    rw [hpadded, List.length_append, List.length_replicate, String.length_toList, Nat.add_comm,
      padding_length_iff] at hlength
    rw [hpadded, hlength]

/-! ## Cutting -/

/-- The middle of a text is what stands between two positions. -/
structure Cut (text : String) (start stop : Nat) (front middle back : String) : Prop where
  parts : text = front ++ middle ++ back
  start : front.length = start
  stop : front.length + middle.length = stop

/--
Where a range ends: at the end of the text if it has no length of its own, and nowhere
past the largest size there is.
-/
def rangeEnd (start : Nat) (count : Option Nat) (total : Nat) : Nat :=
  match count with
  | none => total
  | some count => min (start + count) maxSize

variable {step : String} {start stop : Nat} {count : Option Nat} {front middle back : String}

theorem cut_iff (horder : start ≤ stop) (hstop : stop ≤ text.length) :
    Cut text start stop front middle back ↔
      front.toList = text.toList.take start ∧
        middle.toList = (text.toList.drop start).take (stop - start) ∧
        back.toList = text.toList.drop stop := by
  constructor
  · rintro ⟨rfl, rfl, rfl⟩
    simp only [← String.length_toList, String.toList_append, List.append_assoc]
    refine ⟨by simp, by simp, ?_⟩
    rw [← List.append_assoc, ← List.length_append, List.drop_left]
  · rintro ⟨hfront, hmiddle, hback⟩
    rw [← String.length_toList] at hstop
    refine ⟨?_, ?_, ?_⟩
    · rw [← String.toList_inj, String.toList_append, String.toList_append, hfront, hmiddle, hback,
        List.append_assoc]
      have hrest : (text.toList.drop start).drop (stop - start) = text.toList.drop stop := by
        rw [List.drop_drop, Nat.add_sub_cancel' horder]
      rw [← hrest, List.take_append_drop, List.take_append_drop]
    · rw [← String.length_toList, hfront, List.length_take]
      omega
    · rw [← String.length_toList, ← String.length_toList, hfront, hmiddle, List.length_take,
        List.length_take, List.length_drop]
      omega

theorem Cut.le (hcut : Cut text start stop front middle back) :
    start ≤ stop ∧ stop ≤ text.length := by
  obtain ⟨rfl, rfl, rfl⟩ := hcut
  simp only [String.length_append]
  omega

def Outside (text : String) (start : Nat) (count : Option Nat) : Prop :=
  text.length < start ∨ text.length < rangeEnd start count text.length

theorem Cut.inside
    (hcut : Cut text start (rangeEnd start count text.length) front middle back) :
    ¬ Outside text start count := by
  obtain ⟨horder, hstop⟩ := hcut.le
  exact not_or.mpr ⟨Nat.not_lt.mpr (horder.trans hstop), Nat.not_lt.mpr hstop⟩

theorem le_of_inside (hstart : start ≤ maxSize) (hinside : ¬ Outside text start count) :
    start ≤ rangeEnd start count text.length ∧
      rangeEnd start count text.length ≤ text.length := by
  obtain ⟨hbegins, hends⟩ := not_or.mp hinside
  refine ⟨?_, Nat.not_lt.mp hends⟩
  cases count with
  | none => exact Nat.not_lt.mp hbegins
  | some count => exact Nat.le_min.mpr ⟨Nat.le_add_right _ _, hstart⟩

theorem range_of_outside (houtside : Outside text start count) :
    range step text start count =
      .error (.outOfRange step start (rangeEnd start count text.length) text.length) := by
  cases count <;> exact if_pos houtside

theorem range_of_inside (hinside : ¬ Outside text start count) :
    range step text start count = .ok (start, rangeEnd start count text.length) := by
  cases count <;> exact if_neg hinside

theorem substring_of_outside (houtside : Outside text start count) :
    substring start count text =
      .error (.outOfRange "substring" start (rangeEnd start count text.length) text.length) := by
  rw [substring, range_of_outside houtside]
  rfl

theorem remove_of_outside (houtside : Outside text start count) :
    remove start count text =
      .error (.outOfRange "remove" start (rangeEnd start count text.length) text.length) := by
  rw [remove, range_of_outside houtside]
  rfl

theorem substring_of_cut
    (hcut : Cut text start (rangeEnd start count text.length) front middle back) :
    substring start count text = .ok middle := by
  have hmiddle := (cut_iff hcut.le.1 hcut.le.2).mp hcut
  rw [substring, range_of_inside hcut.inside, ← String.ofList_toList (s := middle), hmiddle.2.1]
  rfl

theorem kept_outside {α : Type} {start stop : Nat} (horder : start ≤ stop) (list : List α)
    (first : Nat) :
    (((list.zipIdx first).filter fun (_, index) => index < start || stop ≤ index).map Prod.fst) =
      list.take (start - first) ++ list.drop (stop - first) := by
  induction list generalizing first with
  | nil => simp
  | cons a rest ih =>
      rcases Nat.lt_or_ge first start with hbefore | hstart
      · have htake : start - first = start - (first + 1) + 1 := by omega
        have hdrop : stop - first = stop - (first + 1) + 1 := by omega
        simp [List.zipIdx_cons, hbefore, ih, htake, hdrop]
      · have htake : start - first = 0 ∧ start - (first + 1) = 0 := by omega
        rcases Nat.lt_or_ge first stop with hwithin | hbehind
        · have hdrop : stop - first = stop - (first + 1) + 1 := by omega
          simp [List.zipIdx_cons, Nat.not_lt.mpr hstart, Nat.not_le.mpr hwithin, ih, htake, hdrop]
        · have hdrop : stop - first = 0 ∧ stop - (first + 1) = 0 := by omega
          simp [List.zipIdx_cons, hbehind, ih, htake, hdrop]

theorem remove_of_cut
    (hcut : Cut text start (rangeEnd start count text.length) front middle back) :
    remove start count text = .ok (front ++ back) := by
  have hparts := (cut_iff hcut.le.1 hcut.le.2).mp hcut
  have hkept := kept_outside hcut.le.1 text.toList 0
  rw [Nat.sub_zero, Nat.sub_zero, ← hparts.1, ← hparts.2.2, ← String.toList_append] at hkept
  rw [remove, range_of_inside hcut.inside, ← String.ofList_toList (s := front ++ back), ← hkept]
  rfl

theorem exists_cut (hstart : start ≤ maxSize) (hinside : ¬ Outside text start count) :
    ∃ front middle back,
      Cut text start (rangeEnd start count text.length) front middle back := by
  obtain ⟨horder, hstop⟩ := le_of_inside hstart hinside
  exact ⟨_, _, _, (cut_iff horder hstop).mpr
    ⟨String.toList_ofList, String.toList_ofList, String.toList_ofList⟩⟩

theorem outside_iff (hsize : text.length < maxSize) :
    Outside text start count ↔
      ¬ (start ≤ text.length ∧ ∀ size ∈ count, start + size ≤ text.length) := by
  cases count with
  | none => simp [Outside, rangeEnd]
  | some size =>
      simp only [Outside, rangeEnd, Option.mem_def, Option.some.injEq, forall_eq']
      omega

theorem Cut.middle_length (hsize : text.length < maxSize)
    (hcut : Cut text start (rangeEnd start count text.length) front middle back) :
    middle.length = count.getD (text.length - start) := by
  have hfront := hcut.start
  have hmiddle := hcut.stop
  have hle := hcut.le
  cases count with
  | none =>
      simp only [rangeEnd, Option.getD_none] at hmiddle ⊢
      omega
  | some size =>
      simp only [rangeEnd, Option.getD_some] at hmiddle hle ⊢
      omega

/--
A range that the text has is what one step keeps and the other leaves out; the counting
is exact, although the end of a range is held at the largest size.  Both refuse all
other ranges, and say which was asked for.
-/
theorem substring_remove_split {text : String} (hsize : text.length < maxSize) (start : Nat)
    (count : Option Nat) :
    let fits := start ≤ text.length ∧ ∀ size ∈ count, start + size ≤ text.length
    let outOfRange step : Failure :=
      .step (.outOfRange step start (rangeEnd start count text.length) text.length)
    (fits → ∃ front middle back : String, text = front ++ middle ++ back ∧
      front.length = start ∧ middle.length = count.getD (text.length - start) ∧
      (substringStep start count).apply text = .done (.ok middle) ∧
      (removeStep start count).apply text = .done (.ok (front ++ back))) ∧
    (¬ fits →
      (substringStep start count).apply text = .done (.failed text (outOfRange "substring")) ∧
      (removeStep start count).apply text = .done (.failed text (outOfRange "remove"))) := by
  intro fits outOfRange
  refine ⟨fun hfits => ?_, fun hmisfit => ?_⟩
  · have hinside : ¬ Outside text start count := fun houtside =>
      (outside_iff hsize).mp houtside hfits
    have hstart : start ≤ maxSize := hfits.1.trans (Nat.le_of_lt hsize)
    obtain ⟨front, middle, back, hcut⟩ := exists_cut hstart hinside
    exact ⟨front, middle, back, hcut.parts, hcut.start, hcut.middle_length hsize,
      Step.apply_checked_of_ok (substring_of_cut hcut),
      Step.apply_checked_of_ok (remove_of_cut hcut)⟩
  · have houtside : Outside text start count := (outside_iff hsize).mpr hmisfit
    exact ⟨Step.apply_checked_of_error (substring_of_outside houtside),
      Step.apply_checked_of_error (remove_of_outside houtside)⟩

theorem substring_remove_split_accented :
    "héllo".length < maxSize ∧
      (∃ front middle back : String, "héllo" = front ++ middle ++ back ∧
        front.length = 1 ∧ middle.length = 3 ∧
        (substringStep 1 (some 3)).apply "héllo" = .done (.ok middle) ∧
        (removeStep 1 (some 3)).apply "héllo" = .done (.ok (front ++ back))) ∧
      (substringStep 5 (some maxSize)).apply "héllo" =
        .done (.failed "héllo" (.step (.outOfRange "substring" 5 maxSize 5))) ∧
      (removeStep 5 (some maxSize)).apply "héllo" =
        .done (.failed "héllo" (.step (.outOfRange "remove" 5 maxSize 5))) := by
  have hsize : "héllo".length < maxSize := by decide
  have hoverlong : ¬ 5 + maxSize ≤ "héllo".length := by decide
  have hrefused := (substring_remove_split hsize 5 (some maxSize)).2 fun hfits =>
    hoverlong (hfits.2 maxSize rfl)
  exact ⟨hsize, (substring_remove_split hsize 1 (some 3)).1 (by decide), hrefused⟩

end ValuePipeline.Text
