import ValuePipeline.Proofs.Reckoning
import ValuePipeline.Proofs.Texts
import ValuePipeline.ValueType

/-!
# Trimming again and again

What is left when a text is trimmed is told by `Stripped`, and stripping what was stripped
is stripping at both places at once.  So the order in which the ends of a text are trimmed
does not matter, and to trim a second time changes nothing.
-/

namespace ValuePipeline.Text

namespace Side

/-- The ends that are trimmed by one side and then another. -/
def join : Side → Side → Side
  | .start, .start => .start
  | .stop, .stop => .stop
  | _, _ => .both

def trim : Side → List Char → String → String
  | .both => trimBoth
  | .start => trimStart
  | .stop => trimEnd

def name : Side → String
  | .both => "trim"
  | .start => "trim_start"
  | .stop => "trim_end"

def step : Side → List Char → Step String
  | .both => trimCharsStep
  | .start => trimStartStep
  | .stop => trimEndStep

variable {first second : Side}

theorem join_self (side : Side) : side.join side = side := by
  cases side <;> rfl

theorem join_eq_start_iff : first.join second = .start ↔ first = .start ∧ second = .start := by
  cases first <;> cases second <;> decide

theorem join_eq_stop_iff : first.join second = .stop ↔ first = .stop ∧ second = .stop := by
  cases first <;> cases second <;> decide

variable {chars : List Char} {text core : String}

theorem trim_eq_iff (side : Side) :
    side.trim chars text = core ↔ Stripped side chars text core := by
  cases side with
  | both => exact trimBoth_eq_iff
  | start => exact trimStart_eq_iff
  | stop => exact trimEnd_eq_iff

theorem step_eq (side : Side) : side.step chars = .total side.name (side.trim chars) := by
  cases side <;> rfl

end Side

variable {first second : Side} {chars : List Char} {text middle core : String}

theorem Stripped.trans (hmiddle : Stripped first chars text middle)
    (hcore : Stripped second chars middle core) :
    Stripped (first.join second) chars text core := by
  obtain ⟨front, back, htext, hfront, hback, hnoFront, hnoBack⟩ := hmiddle.parts
  obtain ⟨front', back', hparts, hfront', hback', hnoFront', hnoBack'⟩ := hcore.parts
  refine
    { parts := ⟨front ++ front', back' ++ back, ?_, ?_, ?_, ?_, ?_⟩
      first := fun hstart c hc => ?_
      last := fun hstop c hc => ?_ }
  · simp only [htext, hparts, List.append_assoc]
  · simpa only [List.forall_mem_append] using ⟨hfront, hfront'⟩
  · simpa only [List.forall_mem_append] using ⟨hback', hback⟩
  · intro hjoin
    obtain ⟨hfirst, hsecond⟩ := Side.join_eq_stop_iff.mp hjoin
    rw [hnoFront hfirst, hnoFront' hsecond, List.append_nil]
  · intro hjoin
    obtain ⟨hfirst, hsecond⟩ := Side.join_eq_start_iff.mp hjoin
    rw [hnoBack hfirst, hnoBack' hsecond, List.append_nil]
  · by_cases hsecond : second = .stop
    · -- Nothing was taken off the front of the middle, so the core begins as the middle does.
      have hfirst : first ≠ .stop := fun hfirst =>
        hstart (Side.join_eq_stop_iff.mpr ⟨hfirst, hsecond⟩)
      refine hmiddle.first hfirst c ?_
      rw [hparts, hnoFront' hsecond, List.nil_append, List.head?_append, Option.mem_def.mp hc]
      rfl
    · exact hcore.first hsecond c hc
  · by_cases hsecond : second = .start
    · have hfirst : first ≠ .start := fun hfirst =>
        hstop (Side.join_eq_start_iff.mpr ⟨hfirst, hsecond⟩)
      refine hmiddle.last hfirst c ?_
      rw [hparts, hnoBack' hsecond, List.append_nil, List.getLast?_append, Option.mem_def.mp hc]
      rfl
    · exact hcore.last hsecond c hc

theorem stripped_trim (side : Side) (chars : List Char) (text : String) :
    Stripped side chars text (side.trim chars text) :=
  side.trim_eq_iff.mp rfl

theorem trim_trim (first second : Side) (chars : List Char) (text : String) :
    second.trim chars (first.trim chars text) = (first.join second).trim chars text := by
  have hmiddle := stripped_trim first chars text
  have hcore := stripped_trim second chars (first.trim chars text)
  exact (Side.trim_eq_iff _).mpr (hmiddle.trans hcore) |>.symm

theorem leave_trims (side : Side) (sides : List Side) (chars : List Char) (text : String) :
    Step.leave ((side :: sides).map fun side => side.step chars) text =
      .ok ((sides.foldl Side.join side).trim chars text) := by
  simp only [Side.step_eq, Step.leave_total, List.foldl_cons]
  congr 1
  induction sides generalizing side with
  | nil => rfl
  | cons next sides ih => rw [List.foldl_cons, trim_trim, ih, List.foldl_cons]

/--
What a trim leaves is the one part of the text that nothing more can be taken off.  Both
ends can be trimmed together or one after the other, and a second time changes nothing.
-/
theorem trims_settle {R : Type} [Schema R] [DecidableEq R] (chars : List Char) (text : String) :
    let run (steps : List (Step String)) : Outcome String :=
      ((Plan.ofParts steps .finish : Plan (ValueType.text (R := R))).run text).result
    (∀ side : Side, ∃ core, run [side.step chars] = .ok core ∧
      ∀ other, Stripped side chars text other ↔ other = core) ∧
    run [trimStartStep chars, trimEndStep chars] = run [trimCharsStep chars] ∧
    run [trimEndStep chars, trimStartStep chars] = run [trimCharsStep chars] ∧
    (∀ side : Side, run [side.step chars, side.step chars] = run [side.step chars]) ∧
    run [trimStep] = run [trimCharsStep []] := by
  intro run
  have hrun (side : Side) (sides : List Side) :
      run ((side :: sides).map fun side => side.step chars) =
        .ok ((sides.foldl Side.join side).trim chars text) :=
    (Plan.result_run_steps (ValueType.text (R := R)) _ text).trans
      (leave_trims side sides chars text)
  have hboth : run [trimCharsStep chars] = .ok (trimBoth chars text) := hrun .both []
  refine ⟨fun side => ⟨side.trim chars text, hrun side [], fun other => ?_⟩, ?_, ?_,
    fun side => ?_, rfl⟩
  · rw [← side.trim_eq_iff, eq_comm]
  · exact (hrun .start [.stop]).trans hboth.symm
  · exact (hrun .stop [.start]).trans hboth.symm
  · refine (hrun side [side]).trans (Eq.trans ?_ (hrun side []).symm)
    rw [List.foldl_cons, side.join_self]

example : Side.both.trim ['-'] "---" = "" ∧ Side.start.trim ['-'] "-a-" = "a-" := by decide

end ValuePipeline.Text
