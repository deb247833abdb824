import ValuePipeline.Config.Rule
import ValuePipeline.Proofs.Compile
import ValuePipeline.Proofs.Setup
import ValuePipeline.Proofs.Texts
import ValuePipeline.Proofs.Tree

/-!
# Rule sets applied

What a rule makes of a text is told by relations between texts.  Applying a rule set
gives a builder the steps of its rules, up to the first whose pattern cannot be read,
and changes nothing else.  What is compiled then does what it did before as far as the
earlier steps go; on what they leave it does what the rules say, one after another, up
to the first range that is outside the text.
-/

namespace ValuePipeline

namespace Rule

/-! ## What a rule says -/

/-- What the rule makes of a text.  A pattern and the forms of a letter are taken as they are. -/
inductive Means : Rule → String → Except StepError String → Prop where
  | trim {chars text core : String} (hcore : Text.Stripped .both chars.toList text core) :
      Means (trim chars) text (.ok core)
  | trimStart {chars text core : String} (hcore : Text.Stripped .start chars.toList text core) :
      Means (trimStart chars) text (.ok core)
  | trimEnd {chars text core : String} (hcore : Text.Stripped .stop chars.toList text core) :
      Means (trimEnd chars) text (.ok core)
  | upper (text : String) : Means upper text (.ok (Text.toUpper text))
  | lower (text : String) : Means lower text (.ok (Text.toLower text))
  | replace {pattern : String} {compiled : Pattern} (replacement text : String)
      (hcompile : Pattern.compile pattern = .ok compiled) :
      Means (replace pattern replacement) text (.ok (compiled.replaceAll replacement text))
  | append (ending text : String) : Means (append ending) text (.ok (text ++ ending))
  | prepend (start text : String) : Means (prepend start) text (.ok (start ++ text))
  | padLeft {width : UInt64} {fill : Char} {text padded : String} {count : Nat}
      (hlength : padded.length = max width.toNat text.length)
      (hpadded : padded.toList = List.replicate count fill ++ text.toList) :
      Means (padLeft width fill) text (.ok padded)
  | padRight {width : UInt64} {fill : Char} {text padded : String} {count : Nat}
      (hlength : padded.length = max width.toNat text.length)
      (hpadded : padded.toList = text.toList ++ List.replicate count fill) :
      Means (padRight width fill) text (.ok padded)
  | substring {start : UInt64} {length : Option UInt64} {text front middle back : String}
      (hcut : Text.Cut text start.toNat
        (Text.rangeEnd start.toNat (length.map UInt64.toNat) text.length) front middle back) :
      Means (substring start length) text (.ok middle)
  | substringOutside {start : UInt64} {length : Option UInt64} {text : String}
      (houtside : Text.Outside text start.toNat (length.map UInt64.toNat)) :
      Means (substring start length) text (.error (.outOfRange "substring" start.toNat
        (Text.rangeEnd start.toNat (length.map UInt64.toNat) text.length) text.length))
  | remove {start : UInt64} {count : Option UInt64} {text front middle back : String}
      (hcut : Text.Cut text start.toNat
        (Text.rangeEnd start.toNat (count.map UInt64.toNat) text.length) front middle back) :
      Means (remove start count) text (.ok (front ++ back))
  | removeOutside {start : UInt64} {count : Option UInt64} {text : String}
      (houtside : Text.Outside text start.toNat (count.map UInt64.toNat)) :
      Means (remove start count) text (.error (.outOfRange "remove" start.toNat
        (Text.rangeEnd start.toNat (count.map UInt64.toNat) text.length) text.length))

def outcome (text : String) : Except StepError String → Outcome String
  | .ok changed => .ok changed
  | .error error => .failed text (.step error)

/-- The rules one after another, up to the first that the text is refused by. -/
inductive Leaves : List Rule → String → Outcome String → Prop where
  | finish (text : String) : Leaves [] text (.ok text)
  | next {rule : Rule} {rules : List Rule} {text changed : String} {final : Outcome String}
      (hrule : rule.Means text (.ok changed)) (hrules : Leaves rules changed final) :
      Leaves (rule :: rules) text final
  | stop {rule : Rule} {text : String} {error : StepError} (rules : List Rule)
      (hrule : rule.Means text (.error error)) :
      Leaves (rule :: rules) text (.failed text (.step error))

/-! ## The step of a rule does what the rule says -/

variable {rule : Rule} {step : Step String} {text : String} {answer : Except StepError String}

theorem apply_total {f : String → String} {changed : String} (name : String)
    (hf : f text = changed) :
    (Step.total name f).apply text = .done (outcome text (.ok changed)) := by
  rw [← hf]
  rfl

theorem apply_checked {f : String → Except StepError String} (name : String)
    (hf : f text = answer) :
    (Step.checked name f).apply text = .done (outcome text answer) := by
  subst hf
  change Run.done _ = _
  cases f text <;> rfl

theorem Means.apply_eq (hmeans : rule.Means text answer) (hstep : rule.step = .ok step) :
    step.apply text = .done (outcome text answer) := by
  cases hmeans with
  | trim hcore =>
      cases hstep
      exact apply_total _ (Text.trimBoth_eq_iff.mpr hcore)
  | trimStart hcore =>
      cases hstep
      exact apply_total _ (Text.trimStart_eq_iff.mpr hcore)
  | trimEnd hcore =>
      cases hstep
      exact apply_total _ (Text.trimEnd_eq_iff.mpr hcore)
  | upper | lower | append | prepend =>
      cases hstep
      rfl
  | replace replacement text hcompile =>
      rw [Rule.step, Text.replaceStep, hcompile] at hstep
      cases hstep
      rfl
  | padLeft hlength hpadded =>
      cases hstep
      exact apply_total _ (Text.padLeft_eq_iff.mpr ⟨hlength, _, hpadded⟩)
  | padRight hlength hpadded =>
      cases hstep
      exact apply_total _ (Text.padRight_eq_iff.mpr ⟨hlength, _, hpadded⟩)
  | substring hcut =>
      cases hstep
      exact apply_checked _ (Text.substring_of_cut hcut)
  | substringOutside houtside =>
      cases hstep
      exact apply_checked _ (Text.substring_of_outside houtside)
  | remove hcut =>
      cases hstep
      exact apply_checked _ (Text.remove_of_cut hcut)
  | removeOutside houtside =>
      cases hstep
      exact apply_checked _ (Text.remove_of_outside houtside)

theorem toNat_le_maxSize (size : UInt64) : size.toNat ≤ Text.maxSize :=
  Nat.le_sub_one_of_lt size.toNat_lt

theorem exists_means (hstep : rule.step = .ok step) (text : String) :
    ∃ answer, rule.Means text answer := by
  cases rule with
  | trim chars => exact ⟨_, .trim (Text.trimBoth_eq_iff.mp rfl)⟩
  | trimStart chars => exact ⟨_, .trimStart (Text.trimStart_eq_iff.mp rfl)⟩
  | trimEnd chars => exact ⟨_, .trimEnd (Text.trimEnd_eq_iff.mp rfl)⟩
  | upper => exact ⟨_, .upper text⟩
  | lower => exact ⟨_, .lower text⟩
  | replace pattern replacement =>
      rw [Rule.step, Text.replaceStep] at hstep
      cases hcompile : Pattern.compile pattern with
      | ok compiled => exact ⟨_, .replace replacement text hcompile⟩
      | error error =>
          rw [hcompile] at hstep
          cases hstep
  | append ending => exact ⟨_, .append ending text⟩
  | prepend start => exact ⟨_, .prepend start text⟩
  | padLeft width fill =>
      obtain ⟨hlength, count, hpadded⟩ := Text.padLeft_eq_iff.mp rfl
      exact ⟨_, .padLeft hlength hpadded⟩
  | padRight width fill =>
      obtain ⟨hlength, count, hpadded⟩ := Text.padRight_eq_iff.mp rfl
      exact ⟨_, .padRight hlength hpadded⟩
  | substring start length =>
      by_cases houtside : Text.Outside text start.toNat (length.map UInt64.toNat)
      · exact ⟨_, .substringOutside houtside⟩
      · obtain ⟨front, middle, back, hcut⟩ := Text.exists_cut (toNat_le_maxSize start) houtside
        exact ⟨_, .substring hcut⟩
  | remove start count =>
      by_cases houtside : Text.Outside text start.toNat (count.map UInt64.toNat)
      · exact ⟨_, .removeOutside houtside⟩
      · obtain ⟨front, middle, back, hcut⟩ := Text.exists_cut (toNat_le_maxSize start) houtside
        exact ⟨_, .remove hcut⟩

variable {rules : List Rule} {steps : List (Step String)} {final : Outcome String}

theorem Leaves.leave_eq (hleaves : Leaves rules text final)
    (hsteps : List.Forall₂ (fun rule step => rule.step = .ok step) rules steps) :
    Step.leave steps text = final := by
  induction hleaves generalizing steps with
  | finish text =>
      cases hsteps
      rfl
  | next hrule hrules ih =>
      cases hsteps with
      | cons hstep hsteps =>
          rw [Step.leave, hrule.apply_eq hstep]
          exact ih hsteps
  | stop rules hrule =>
      cases hsteps with
      | cons hstep hsteps =>
          rw [Step.leave, hrule.apply_eq hstep]
          rfl

theorem exists_leaves (hsteps : List.Forall₂ (fun rule step => rule.step = .ok step) rules steps)
    (text : String) : ∃ final, Leaves rules text final := by
  induction hsteps generalizing text with
  | nil => exact ⟨_, .finish text⟩
  | cons hstep hsteps ih =>
      obtain ⟨answer, hmeans⟩ := exists_means hstep text
      cases answer with
      | ok changed =>
          obtain ⟨final, hfinal⟩ := ih changed
          exact ⟨final, .next hmeans hfinal⟩
      | error error => exact ⟨_, .stop _ hmeans⟩

/-! ## Rules that are refused -/

def Compiles (pattern : String) : Prop :=
  ∃ compiled, Pattern.compile pattern = .ok compiled

theorem not_compiles_of_error {pattern : String} {reason : Pattern.ParseError}
    (hcompile : Pattern.compile pattern = .error reason) : ¬ Compiles pattern := by
  rintro ⟨compiled, hcompiled⟩
  rw [hcompile] at hcompiled
  cases hcompiled

def Configures (rule : Rule) : Prop :=
  ∀ pattern replacement, rule = replace pattern replacement → Compiles pattern

/-- The rules that were not reached, and what is answered: the first of them was refused. -/
inductive Ends : List Rule → Except SetupError Unit → Prop where
  | done : Ends [] (.ok ())
  | refused {pattern : String} {reason : Pattern.ParseError} (replacement : String)
      (rules : List Rule) (hcompile : Pattern.compile pattern = .error reason) :
      Ends (replace pattern replacement :: rules)
        (.error (.invalidSettings (.invalidPattern pattern reason)))

theorem step_cases (rule : Rule) :
    rule.Configures ∧ (∃ step, rule.step = .ok step) ∨
      ∃ pattern replacement reason, rule = replace pattern replacement ∧
        Pattern.compile pattern = .error reason ∧
        rule.step = .error (.invalidPattern pattern reason) := by
  cases rule with
  | replace pattern replacement =>
      rw [Rule.step, Text.replaceStep]
      cases hcompile : Pattern.compile pattern with
      | ok compiled =>
          refine .inl ⟨?_, _, rfl⟩
          rintro _ _ ⟨⟩
          exact ⟨compiled, hcompile⟩
      | error reason => exact .inr ⟨pattern, replacement, reason, rfl, hcompile, rfl⟩
  | _ => exact .inl ⟨nofun, _, rfl⟩

theorem Ends.eq_ok_iff {left : List Rule} {answer : Except SetupError Unit}
    (hends : Ends left answer) : answer = .ok () ↔ ∀ rule ∈ left, rule.Configures := by
  cases hends with
  | done => simp
  | refused replacement rules hcompile =>
      refine iff_of_false nofun fun hall => not_compiles_of_error hcompile ?_
      exact hall _ List.mem_cons_self _ replacement rfl

/-! ## Applying rules to a builder -/

variable {R : Type} [Schema R] [DecidableEq R] {bench : Workbench (ValueType R)}
variable {builder : Builder (ValueType.text (R := R))}

theorem on_apply (rule : Rule) (builder : Builder (ValueType.text (R := R)))
    (bench : Workbench (ValueType R)) :
    Setup.on (rule.apply builder) bench =
      match rule.step with
      | .ok step => (.ok (), bench.addStep builder step)
      | .error error => (.error (.invalidSettings error), bench) := by
  rw [apply]
  cases rule.step <;> simp [Except.mapError, Setup.on_bind]

theorem on_forM_apply (rules : List Rule) (bench : Workbench (ValueType R))
    (builder : Builder (ValueType.text (R := R))) :
    ∃ registered left added answer, rules = registered ++ left ∧ Ends left answer ∧
      (∀ rule ∈ registered, rule.Configures) ∧
      List.Forall₂ (fun rule step => rule.step = .ok step) registered added ∧
      Setup.on (rules.forM fun rule => rule.apply builder) bench =
        (answer, bench.addSteps builder added) := by
  induction rules generalizing bench with
  | nil => exact ⟨[], [], [], _, rfl, .done, by simp, .nil, rfl⟩
  | cons rule rules ih =>
      rw [List.forM_eq_forM] at ih ⊢
      simp only [List.forM_cons, Setup.on_bind, on_apply]
      rcases step_cases rule with ⟨hconfigures, step, hstep⟩ | ⟨_, _, _, rfl, hcompile, hstep⟩
      · obtain ⟨registered, left, added, answer, rfl, hends, hregistered, hadded, hon⟩ :=
          ih (bench.addStep builder step)
        rw [hstep]
        exact ⟨rule :: registered, left, step :: added, answer, rfl, hends,
          List.forall_mem_cons.mpr ⟨hconfigures, hregistered⟩, .cons hstep hadded, hon⟩
      · rw [hstep]
        exact ⟨[], _, [], _, rfl, .refused _ rules hcompile, by simp, .nil, rfl⟩

end Rule

/--
Rules are applied up to the first that is refused.  The builder has its earlier steps and
one for each of these rules, and what is compiled from it runs the earlier steps, does
what the rules say on the text these leave, and goes on to the fields as before.
-/
theorem RuleSet.apply_means {R : Type} [Schema R] [DecidableEq R] (set : RuleSet)
    {bench : Workbench (ValueType R)} {builder : Builder (ValueType.text (R := R))}
    (hholds : bench.Holds builder) :
    let result := Setup.on (set.apply builder) bench
    let fields := bench.compileFields builder.index (bench.draft builder).fields
    (result.1 = .ok () ↔ ∀ rule ∈ set.rules, rule.Configures) ∧
    ∃ registered left added,
      set.rules = registered ++ left ∧ Rule.Ends left result.1 ∧
      (∀ rule ∈ registered, rule.Configures) ∧
      List.Forall₂ (fun rule step => rule.step = .ok step) registered added ∧
      result.2 = bench.addSteps builder added ∧
      result.2.draft builder =
        { steps := (bench.draft builder).steps ++ added
          fields := (bench.draft builder).fields } ∧
      ∀ text : String,
        let earlier : Outcome String := Step.leave (bench.draft builder).steps text
        let run := (result.2.compile builder).run text
        ((bench.compile builder).run text).result =
          (earlier.andThen (fields.runFrom (bench.draft builder).steps.length)).result ∧
        (earlier.failure ≠ none → run.result = earlier) ∧
        (earlier.failure = none → (∃! final, Rule.Leaves registered earlier.value final) ∧
          ∀ final, Rule.Leaves registered earlier.value final →
            run.result = (final.andThen
              (fields.runFrom ((bench.draft builder).steps.length + added.length))).result) := by
  obtain ⟨registered, left, added, answer, hrules, hends, hregistered, hadded, hon⟩ :=
    Rule.on_forM_apply set.rules bench builder
  rw [RuleSet.apply, hon]
  intro result fields
  refine ⟨?_, registered, left, added, hrules, hends, hregistered, hadded, rfl,
    Workbench.draft_addSteps hholds added, fun text => ?_⟩
  · rw [hends.eq_ok_iff, hrules, List.forall_mem_append]
    exact ⟨fun hleft => ⟨hregistered, hleft⟩, fun hall => hall.2⟩
  · intro earlier run
    have hrun : run.result = _ := Workbench.result_run_addSteps hholds added text
    rw [Step.leave_append] at hrun
    refine ⟨bench.result_run_compile builder text, fun hfailed => ?_,
      fun hgone => ⟨?_, fun final hfinal => ?_⟩⟩
    · obtain ⟨failure, hfailure⟩ := Option.ne_none_iff_exists'.mp hfailed
      rw [hrun, hfailure, Outcome.andThen, hfailure]
      rfl
    · obtain ⟨final, hfinal⟩ := Rule.exists_leaves hadded earlier.value
      exact ⟨final, hfinal, fun other hother =>
        (hother.leave_eq hadded).symm.trans (hfinal.leave_eq hadded)⟩
    · rw [hrun, hgone, hfinal.leave_eq hadded]

/-! ## A rule set that is refused half-way -/

namespace RuleSet

instance : Schema Empty where
  Carrier := nofun
  recordName := nofun
  scalarName _ := "String"

def shortened : RuleSet :=
  ⟨[.trim "", .append "!", .substring 0 (some 9), .replace "(" "", .upper]⟩

def starred : Workbench (ValueType Empty) :=
  (Workbench.place {} ValueType.text).2.addStep
    (⟨0⟩ : Builder (ValueType.text (R := Empty))) (Text.appendStep " *")

theorem starred_holds : starred.Holds (⟨0⟩ : Builder (ValueType.text (R := Empty))) :=
  ⟨_, rfl⟩

theorem apply_means_shortened :
    starred.Holds (⟨0⟩ : Builder (ValueType.text (R := Empty))) ∧
      ¬ Rule.Compiles "(" ∧
      (Setup.on (shortened.apply ⟨0⟩) starred).1 =
        .error (.invalidSettings (.invalidPattern "(" .groupUnclosed)) ∧
      (((Setup.on (shortened.apply ⟨0⟩) starred).2.compile
          (⟨0⟩ : Builder (ValueType.text (R := Empty)))).run "  ab").result =
        .failed "ab *!" (.step (.outOfRange "substring" 0 9 5)) := by
  have hunclosed : Pattern.compile "(" = .error .groupUnclosed := rfl
  have hrefused : ¬ Rule.Compiles "(" := Rule.not_compiles_of_error hunclosed
  obtain ⟨hanswer, registered, left, added, hrules, hends, -, -, -, -, hruns⟩ :=
    apply_means shortened starred_holds
  obtain ⟨-, -, hrun⟩ := hruns "  ab"
  generalize (Setup.on (shortened.apply ⟨0⟩) starred).1 = answer at hanswer hends
  cases hends with
  | done =>
      have hconfigures := hanswer.mp rfl (.replace "(" "") (by simp [shortened])
      exact absurd (hconfigures _ _ rfl) hrefused
  | @refused pattern reason replacement rest hcompile =>
      obtain ⟨rfl, rfl⟩ : registered = [.trim "", .append "!", .substring 0 (some 9)] ∧
          pattern = "(" := by
        clear hanswer hruns hrun
        rcases registered with _ | ⟨_, _ | ⟨_, _ | ⟨_, _ | ⟨_, _ | ⟨_, _⟩⟩⟩⟩⟩ <;>
          simp_all [shortened]
      obtain rfl : .groupUnclosed = reason := Except.error.inj (hunclosed.symm.trans hcompile)
      refine ⟨starred_holds, hrefused, rfl, ?_⟩
      refine (hrun rfl).2 (.failed "ab *!" (.step (.outOfRange "substring" 0 9 5))) ?_
      exact .next (.trim (Text.trimBoth_eq_iff.mp rfl)) <|
        .next (.append "!" "ab *") (.stop [] (.substringOutside (.inr (by decide))))

end RuleSet

end ValuePipeline
