import ValuePipeline.Config.Basic
import ValuePipeline.Proofs.Texts

/-!
# What a log filter says

The filter of a logging section is a level for everything and, for each target in order,
the target and its level.  If these are words without commas and equals signs, cutting the
filter at its commas and then at its equals signs gives them back, so the filter tells
what the section says.  No word runs into the next directive: the filter is accepted if
and only if the level of each target is one.

A level can be written as a number too, and then with zeros before it, and with a plus
sign before these.
-/

namespace ValuePipeline

namespace Filter

/-! ## Words -/

structure IsWord (text : String) : Prop where
  nonempty : text ≠ ""
  comma : ',' ∉ text.toList
  equals : '=' ∉ text.toList

/-- A word that begins as the name of a module does, without blanks and brackets. -/
structure IsTarget (text : String) : Prop extends IsWord text where
  starts : ∀ c ∈ text.toList.head?, startsTarget c = true
  blank : ∀ c ∈ text.toList, ¬ Text.Blank c
  bracket : '[' ∉ text.toList

/-- What the path of a module is made of in Latin letters. -/
def isModuleChar (c : Char) : Bool := c.isAlphanum || c = '_' || c = ':'

theorem not_blank_of_isModuleChar {c : Char} (hc : isModuleChar c = true) : ¬ Text.Blank c := by
  have hcode : 48 ≤ c.toNat ∧ c.toNat ≤ 122 := by
    simp only [isModuleChar, Bool.or_eq_true, decide_eq_true_eq] at hc
    rcases hc with (halphanum | rfl) | rfl
    · have hranges : ((decide ('A'.val ≤ c.val ∧ c.val ≤ 'Z'.val) ||
          (decide ('a'.val ≤ c.val) && decide (c.val ≤ 'z'.val))) ||
            (decide ('0'.val ≤ c.val) && decide (c.val ≤ '9'.val))) = true := halphanum
      simp only [Bool.or_eq_true, Bool.and_eq_true, decide_eq_true_eq,
        UInt32.le_iff_toNat_le] at hranges
      have hbounds : '0'.val.toNat = 48 ∧ '9'.val.toNat = 57 ∧ 'A'.val.toNat = 65 ∧
          'Z'.val.toNat = 90 ∧ 'a'.val.toNat = 97 ∧ 'z'.val.toNat = 122 := by decide
      change 48 ≤ c.val.toNat ∧ c.val.toNat ≤ 122
      omega
    · decide
    · decide
  rintro ⟨range, hrange, hfirst, hlast⟩
  have houtside : ∀ range ∈ Text.blankRanges, range.2 < 48 ∨ 122 < range.1 := by decide
  have := houtside range hrange
  omega

theorem startsTarget_of_isModuleChar {c : Char} (hc : isModuleChar c = true) :
    startsTarget c = true := by
  simp only [isModuleChar, Bool.or_eq_true, decide_eq_true_eq] at hc
  rcases hc with (halphanum | rfl) | rfl
  · simp [startsTarget, halphanum]
  · rfl
  · rfl

theorem isTarget_of_isModuleChar {text : String} (hne : text ≠ "")
    (hchars : text.toList.all isModuleChar = true) : IsTarget text := by
  rw [List.all_eq_true] at hchars
  exact {
    nonempty := hne
    comma := fun hmem => absurd (hchars _ hmem) (by decide)
    equals := fun hmem => absurd (hchars _ hmem) (by decide)
    starts := fun c hc => startsTarget_of_isModuleChar (hchars c (List.mem_of_mem_head? hc))
    blank := fun c hc => not_blank_of_isModuleChar (hchars c hc)
    bracket := fun hmem => absurd (hchars _ hmem) (by decide) }

theorem parts_intercalate {separator : Char} {words : List String} (hwords : words ≠ [])
    (hfree : ∀ word ∈ words, separator ∉ word.toList) :
    parts separator (String.intercalate (String.singleton separator) words) = words := by
  rw [parts, String.toList_split_intercalate hfree, if_neg hwords]

/-! ## Levels -/

/-- The name of a level in letters of either case, or its digit. -/
def IsLevelWord (text : String) : Prop :=
  text.map Char.toLower ∈ levelNames ∨ text ∈ ["0", "1", "2", "3", "4", "5"]

def IsPadded (chars : List Char) : Prop :=
  ∃ zeros, ∃ digit ∈ ['0', '1', '2', '3', '4', '5'],
    chars = List.replicate zeros '0' ++ [digit]

/-- A number up to 5 as it may be written: with zeros before it, and a plus sign before these. -/
def IsNumeral (chars : List Char) : Prop :=
  IsPadded chars ∨ ∃ digits, chars = '+' :: digits ∧ IsPadded digits

theorem map_toLower_eq_iff {text lower : String} :
    text.map Char.toLower = lower ↔ text.toList.map Char.toLower = lower.toList := by
  rw [← String.toList_inj, String.toList_map]

theorem isModuleChar_of_toLower {c : Char} (hlower : c.toLower.isAlphanum = true) :
    isModuleChar c = true := by
  by_cases hupper : c.isUpper = true
  · have halphanum : ((c.isUpper || c.isLower) || c.isDigit) = true := by rw [hupper]; rfl
    have : c.isAlphanum = true := halphanum
    simp [isModuleChar, this]
  · have hsame : c.toLower = c := dif_neg fun hrange => hupper (decide_eq_true hrange)
    rw [hsame] at hlower
    simp [isModuleChar, hlower]

theorem IsLevelWord.isTarget {text : String} (hlevel : IsLevelWord text) : IsTarget text := by
  rcases hlevel with hname | hdigit
  · have hnames : ∀ name ∈ levelNames, name ≠ "" ∧ name.toList.all Char.isAlphanum = true := by
      decide
    obtain ⟨hne, hchars⟩ := hnames _ hname
    rw [String.toList_map, List.all_map, List.all_eq_true] at hchars
    refine isTarget_of_isModuleChar ?_ ?_
    · rintro rfl
      exact hne (map_toLower_eq_iff.mpr rfl)
    · exact List.all_eq_true.mpr fun c hc => isModuleChar_of_toLower (hchars c hc)
  · have hdigits : ∀ digit ∈ ["0", "1", "2", "3", "4", "5"],
        digit ≠ "" ∧ digit.toList.all isModuleChar = true := by
      decide
    obtain ⟨hne, hchars⟩ := hdigits _ hdigit
    exact isTarget_of_isModuleChar hne hchars

theorem isPaddedDigit_iff {digits : List Char} : isPaddedDigit digits = true ↔ IsPadded digits := by
  rw [isPaddedDigit]
  constructor
  · intro haccepted
    obtain ⟨front, hdigits, hfront, -⟩ := Text.dropWhile_eq_iff.mp (rfl :
      digits.dropWhile (· = '0') = digits.dropWhile (· = '0'))
    have hzeros : front = List.replicate front.length '0' :=
      List.eq_replicate_iff.mpr ⟨rfl, by simpa using hfront⟩
    split at haccepted
    case h_1 hrest =>
      rw [hrest, List.append_nil] at hdigits
      subst hdigits
      cases hlength : digits.length with
      | zero => simp [List.length_eq_zero_iff.mp hlength] at haccepted
      | succ zeros =>
          rw [hlength, List.replicate_succ'] at hzeros
          exact ⟨zeros, '0', List.mem_cons_self, hzeros⟩
    case h_2 c hrest =>
      rw [hrest, hzeros] at hdigits
      exact ⟨_, c, List.mem_cons_of_mem _ (by simpa using haccepted), hdigits⟩
    case h_3 => cases haccepted
  · rintro ⟨zeros, digit, hdigit, rfl⟩
    rw [List.dropWhile_append_of_pos (by simp)]
    rcases List.mem_cons.mp hdigit with rfl | hpositive
    · simp
    · have hne : digit ≠ '0' := by
        rintro rfl
        revert hpositive
        decide
      simp [hne, hpositive]

theorem not_isPadded_plus {digits : List Char} : ¬ IsPadded ('+' :: digits) := by
  rintro ⟨zeros, digit, hdigit, hsame⟩
  cases zeros with
  | zero =>
      cases hsame
      revert hdigit
      decide
  | succ zeros => cases hsame

theorem isLevelNumber_iff {chars : List Char} : isLevelNumber chars = true ↔ IsNumeral chars := by
  fun_cases isLevelNumber chars with
  | case1 digits =>
      rw [isPaddedDigit_iff, IsNumeral, or_iff_right not_isPadded_plus]
      simp
  | case2 _ hunsigned =>
      rw [isPaddedDigit_iff, IsNumeral]
      refine (or_iff_left ?_).symm
      rintro ⟨digits, rfl, -⟩
      exact hunsigned digits rfl

theorem isLevel_iff {text : String} :
    isLevel text = true ↔ text.map Char.toLower ∈ levelNames ∨ IsNumeral text.toList := by
  rw [isLevel, Bool.or_eq_true, List.contains_iff_mem, isLevelNumber_iff]

/-! ## Directives -/

theorem dropWhile_target {target : String} (htarget : IsTarget target) (more : List Char) :
    (target.toList ++ more).dropWhile (fun c => c ≠ '=' ∧ c ≠ '[') =
      more.dropWhile fun c => c ≠ '=' ∧ c ≠ '[' := by
  refine List.dropWhile_append_of_pos fun c hc => ?_
  have hequals : c ≠ '=' := fun h => htarget.equals (h ▸ hc)
  have hbracket : c ≠ '[' := fun h => htarget.bracket (h ▸ hc)
  simp [hequals, hbracket]

theorem IsTarget.exists_first {target : String} (htarget : IsTarget target) (more : List Char) :
    ∃ first rest, target.toList ++ more = first :: rest ∧ startsTarget first = true ∧
      first ≠ '[' ∧
      (first :: rest).dropWhile Text.Property.whiteSpace.contains = first :: rest := by
  cases htext : target.toList with
  | nil => exact absurd (String.toList_inj.mp htext) htarget.nonempty
  | cons first rest =>
      have hfirst : first ∈ target.toList := by simp [htext]
      refine ⟨first, rest ++ more, rfl, htarget.starts first (by simp [htext]),
        fun hsame => htarget.bracket (hsame ▸ hfirst), List.dropWhile_cons_of_neg ?_⟩
      rw [Text.whiteSpace_contains_iff]
      exact htarget.blank first hfirst

theorem isDirective_bare {text : String} (htarget : IsTarget text) : isDirective text = true := by
  obtain ⟨first, rest, hsame, hstarts, hbracket, hkept⟩ := htarget.exists_first []
  have hdrop : (first :: rest).dropWhile (fun c => c ≠ '=' ∧ c ≠ '[') = [] := by
    rw [← hsame]
    exact dropWhile_target htarget []
  have htext : text.toList = first :: rest := by rw [← hsame, List.append_nil]
  simp only [isDirective, htext, hkept, hstarts, hdrop, Bool.true_and]

theorem isDirective_assignment {target level : String} (htarget : IsTarget target)
    (hlevel : IsWord level) : isDirective (target ++ "=" ++ level) = isLevel level := by
  obtain ⟨first, rest, hsame, hstarts, hbracket, hkept⟩ :=
    htarget.exists_first ('=' :: level.toList)
  have hdrop : (first :: rest).dropWhile (fun c => c ≠ '=' ∧ c ≠ '[') = '=' :: level.toList := by
    rw [← hsame]
    exact (dropWhile_target htarget _).trans (List.dropWhile_cons_of_neg (by simp))
  have htext : (target ++ "=" ++ level).toList = first :: rest := by
    rw [← hsame]
    simp
  simp only [isDirective, htext, hkept, hstarts, hdrop, List.head?_cons, Bool.true_and]
  simp [levelPart, hlevel.nonempty]

theorem isFilter_iff {text : String} :
    isFilter text = true ↔ ∀ part ∈ parts ',' text, part ≠ "" → isDirective part = true := by
  simp [isFilter, or_iff_not_imp_left]

end Filter

namespace Logging

open ValuePipeline.Filter

def assignment (entry : String × String) : String := entry.1 ++ "=" ++ entry.2

/-- The level is one, each target is the name of a module, and each target's level is a word. -/
structure Plain (logging : Logging) : Prop where
  level : IsLevelWord logging.level
  targets : ∀ entry ∈ logging.targets.entries, IsTarget entry.1 ∧ IsWord entry.2

theorem foldl_assignments (start : String) (entries : List (String × String)) :
    entries.foldl (fun filter (target, level) => filter ++ "," ++ target ++ "=" ++ level) start =
      String.intercalate (String.singleton ',') (start :: entries.map assignment) := by
  induction entries generalizing start with
  | nil => exact String.intercalate_singleton.symm
  | cons entry entries ih =>
      have hcomma : String.singleton ',' = "," := rfl
      rw [List.foldl_cons, ih, List.map_cons, String.intercalate_cons_cons, hcomma,
        ← String.intercalate_cons_append]
      simp [assignment, String.append_assoc]

variable {logging : Logging}

theorem Plain.parts_filterText (hplain : logging.Plain) :
    parts ',' logging.filterText = logging.level :: logging.targets.entries.map assignment := by
  rw [filterText, foldl_assignments]
  refine parts_intercalate (by simp) ?_
  rintro word (_ | ⟨_, hword⟩)
  · exact hplain.level.isTarget.comma
  · obtain ⟨entry, hentry, rfl⟩ := List.mem_map.mp hword
    obtain ⟨htarget, hlevel⟩ := hplain.targets entry hentry
    simp [assignment, htarget.comma, hlevel.comma]

theorem Plain.parts_assignments (hplain : logging.Plain) :
    (logging.targets.entries.map assignment).map (parts '=') =
      logging.targets.entries.map fun (target, level) => [target, level] := by
  rw [List.map_map]
  refine List.map_congr_left fun entry hentry => ?_
  obtain ⟨htarget, hlevel⟩ := hplain.targets entry hentry
  have hjoined : assignment entry =
      String.intercalate (String.singleton '=') [entry.1, entry.2] := by
    rw [String.intercalate_cons_cons, String.intercalate_singleton]
    rfl
  rw [Function.comp_apply, hjoined]
  refine parts_intercalate (by simp) ?_
  simp [htarget.equals, hlevel.equals]

theorem Plain.checkFilter_eq_ok_iff (hplain : logging.Plain) :
    logging.checkFilter = .ok () ↔
      ∀ entry ∈ logging.targets.entries, isLevel entry.2 = true := by
  have hfilter : logging.checkFilter = .ok () ↔ isFilter logging.filterText = true := by
    rw [checkFilter]
    split <;> simp [*]
  rw [hfilter, isFilter_iff, hplain.parts_filterText, List.forall_mem_cons, List.forall_mem_map]
  have hlevel : logging.level ≠ "" → isDirective logging.level = true :=
    fun _ => isDirective_bare hplain.level.isTarget
  rw [and_iff_right hlevel]
  refine forall₂_congr fun entry hentry => ?_
  obtain ⟨htarget, hword⟩ := hplain.targets entry hentry
  have hne : assignment entry ≠ "" := by simp [assignment]
  rw [forall_prop_of_true hne, assignment, isDirective_assignment htarget hword]

/--
Cut at its commas and its equals signs, the filter of a plain section gives back the level
and then the targets with their levels, in order, so sections with the same filter say the
same.  The filter is accepted if and only if the level of each target is the name of one or
a number up to 5.
-/
theorem filter_tells_section :
    (∀ {logging : Logging}, logging.Plain →
      (∃ rest, parts ',' logging.filterText = logging.level :: rest ∧
        rest.map (parts '=') =
          logging.targets.entries.map fun (target, level) => [target, level]) ∧
      Ascending logging.targets.entries ∧
      (logging.checkFilter = .ok () ↔ ∀ entry ∈ logging.targets.entries,
        entry.2.map Char.toLower ∈ levelNames ∨ IsNumeral entry.2.toList)) ∧
    ∀ {one other : Logging}, one.Plain → other.Plain → one.filterText = other.filterText →
      one.level = other.level ∧ one.targets = other.targets := by
  constructor
  · intro logging hplain
    refine ⟨⟨_, hplain.parts_filterText, hplain.parts_assignments⟩,
      logging.targets.ascending, ?_⟩
    simp only [hplain.checkFilter_eq_ok_iff, isLevel_iff]
  · intro one other hone hother htext
    have hparts := congrArg (parts ',') htext
    rw [hone.parts_filterText, hother.parts_filterText] at hparts
    obtain ⟨hlevel, hassignments⟩ := List.cons.inj hparts
    have hentries := congrArg (List.map (parts '=')) hassignments
    rw [hone.parts_assignments, hother.parts_assignments] at hentries
    have hpair : Function.Injective fun entry : String × String => [entry.1, entry.2] := by
      rintro ⟨target, level⟩ ⟨others, further⟩ hsame
      cases hsame
      rfl
    exact ⟨hlevel, Dictionary.ext_entries (List.map_injective_iff.mpr hpair hentries)⟩

def mixed : Logging where
  level := "Warn"
  targets := ⟨[("app::db", "TRACE"), ("web", "+05")], by unfold Ascending; decide⟩

theorem mixed_plain : mixed.Plain where
  level := by
    have hlower : mixed.level.map Char.toLower = "warn" := map_toLower_eq_iff.mpr rfl
    exact .inl (hlower ▸ by decide)
  targets := by
    rintro entry (_ | ⟨_, _ | ⟨_, hentry⟩⟩)
    · exact ⟨isTarget_of_isModuleChar (by decide) rfl, by decide, by decide, by decide⟩
    · exact ⟨isTarget_of_isModuleChar (by decide) rfl, by decide, by decide, by decide⟩
    · cases hentry

theorem filter_tells_section_mixed :
    mixed.Plain ∧ mixed.filterText = "Warn,app::db=TRACE,web=+05" ∧ mixed.checkFilter = .ok () := by
  obtain ⟨-, -, hcheck⟩ := filter_tells_section.1 mixed_plain
  refine ⟨mixed_plain, rfl, hcheck.mpr ?_⟩
  rintro entry (_ | ⟨_, _ | ⟨_, hentry⟩⟩)
  · have hlower : "TRACE".map Char.toLower = "trace" := map_toLower_eq_iff.mpr rfl
    exact .inl (hlower ▸ by decide)
  · exact .inr (.inr ⟨['0', '5'], rfl, 1, '5', by decide, rfl⟩)
  · cases hentry

def padded : Logging where
  targets := ⟨[("app", "05")], List.pairwise_singleton _ _⟩

theorem padded_level_accepted :
    padded.Plain ∧ padded.checkFilter = .ok () ∧
      ¬ ∀ entry ∈ padded.targets.entries, IsLevelWord entry.2 := by
  have hlower : padded.level.map Char.toLower = "info" := map_toLower_eq_iff.mpr rfl
  have hplain : padded.Plain := by
    refine ⟨.inl (hlower ▸ by decide), ?_⟩
    rintro entry (_ | ⟨_, hentry⟩)
    · exact ⟨isTarget_of_isModuleChar (by decide) rfl, by decide, by decide, by decide⟩
    · cases hentry
  refine ⟨hplain, hplain.checkFilter_eq_ok_iff.mpr ?_, fun hall => ?_⟩
  · rintro entry (_ | ⟨_, hentry⟩)
    · exact isLevel_iff.mpr (.inr (.inl ⟨1, '5', by decide, rfl⟩))
    · cases hentry
  · have hsame : "05".map Char.toLower = "05" := map_toLower_eq_iff.mpr rfl
    have hword : IsLevelWord "05" := hall _ List.mem_cons_self
    rw [IsLevelWord, hsame] at hword
    revert hword
    decide

end Logging

end ValuePipeline
