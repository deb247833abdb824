import ValuePipeline.Proofs.Reckoning
import ValuePipeline.Proofs.Texts
import ValuePipeline.ValueType

/-!
# Padding again and again

A pad brings a text up to its width, if the text is shorter.  So a list of pads brings it
up to the greatest of their widths, whichever ends they are at, and only those pads add
characters whose width is greater than all before.  What was padded at an end can be
trimmed off that end.
-/

namespace ValuePipeline.Text

inductive Pad where
  | left (width : Nat) (fill : Char)
  | right (width : Nat) (fill : Char)
  deriving DecidableEq, Repr

namespace Pad

def width : Pad → Nat
  | left width _ | right width _ => width

def apply : Pad → String → String
  | left width fill => padLeft width fill
  | right width fill => padRight width fill

def name : Pad → String
  | left _ _ => "pad_left"
  | right _ _ => "pad_right"

def step : Pad → Step String
  | left width fill => padLeftStep width fill
  | right width fill => padRightStep width fill

def applyAll (pads : List Pad) (text : String) : String :=
  pads.foldl (fun text pad => pad.apply text) text

variable {pads : List Pad} {pad : Pad} {text : String}

theorem step_eq (pad : Pad) : pad.step = .total pad.name pad.apply := by
  cases pad <;> rfl

theorem leave_steps (pads : List Pad) (text : String) :
    Step.leave (pads.map step) text = .ok (applyAll pads text) := by
  rw [funext step_eq, Step.leave_total, applyAll]

@[simp] theorem applyAll_nil : applyAll [] text = text := rfl

@[simp] theorem applyAll_cons :
    applyAll (pad :: pads) text = applyAll pads (pad.apply text) := rfl

theorem applyAll_append {later : List Pad} :
    applyAll (pads ++ later) text = applyAll later (applyAll pads text) :=
  List.foldl_append

/-! ## Lengths -/

@[simp] theorem length_apply : (pad.apply text).length = max text.length pad.width := by
  cases pad with
  | left width fill => exact (padLeft_eq_iff.mp rfl).1.trans (Nat.max_comm _ _)
  | right width fill => exact (padRight_eq_iff.mp rfl).1.trans (Nat.max_comm _ _)

theorem length_applyAll :
    (applyAll pads text).length = (pads.map width).foldl max text.length := by
  induction pads generalizing text with
  | nil => rfl
  | cons pad pads ih => rw [applyAll_cons, ih, length_apply, List.map_cons, List.foldl_cons]

theorem length_applyAll_lt_iff {bound : Nat} :
    (applyAll pads text).length < bound ↔
      text.length < bound ∧ ∀ pad ∈ pads, pad.width < bound := by
  induction pads generalizing text with
  | nil => simp
  | cons pad pads ih =>
      rw [applyAll_cons, ih, length_apply, Nat.max_lt, List.forall_mem_cons, and_assoc]

/-! ## What is added -/

/-- Each character added at an end is the fill of a pad at that end. -/
structure Around (pads : List Pad) (text padded : String) (front back : List Char) : Prop where
  parts : padded.toList = front ++ text.toList ++ back
  front : ∀ fill ∈ front, ∃ width, left width fill ∈ pads
  back : ∀ fill ∈ back, ∃ width, right width fill ∈ pads

theorem around_apply (pad : Pad) (text : String) :
    ∃ front back, Around [pad] text (pad.apply text) front back := by
  cases pad with
  | left width fill =>
      obtain ⟨-, count, hpadded⟩ := padLeft_eq_iff.mp (Eq.refl (padLeft width fill text))
      refine ⟨List.replicate count fill, [], ⟨by rw [List.append_nil]; exact hpadded, ?_, by simp⟩⟩
      intro c hc
      exact ⟨width, by rw [List.eq_of_mem_replicate hc]; exact List.mem_singleton_self _⟩
  | right width fill =>
      obtain ⟨-, count, hpadded⟩ := padRight_eq_iff.mp (Eq.refl (padRight width fill text))
      refine ⟨[], List.replicate count fill, ⟨hpadded, by simp, ?_⟩⟩
      intro c hc
      exact ⟨width, by rw [List.eq_of_mem_replicate hc]; exact List.mem_singleton_self _⟩

section Around

variable {first second : List Pad} {middle padded : String} {front back front' back' : List Char}

theorem Around.trans (hfirst : Around first text middle front back)
    (hsecond : Around second middle padded front' back') :
    Around (first ++ second) text padded (front' ++ front) (back ++ back') where
  parts := by
    rw [hsecond.parts, hfirst.parts]
    simp only [List.append_assoc]
  front fill hfill := by
    rcases List.mem_append.mp hfill with hfill | hfill
    · obtain ⟨width, hpad⟩ := hsecond.front fill hfill
      exact ⟨width, List.mem_append_right _ hpad⟩
    · obtain ⟨width, hpad⟩ := hfirst.front fill hfill
      exact ⟨width, List.mem_append_left _ hpad⟩
  back fill hfill := by
    rcases List.mem_append.mp hfill with hfill | hfill
    · obtain ⟨width, hpad⟩ := hfirst.back fill hfill
      exact ⟨width, List.mem_append_left _ hpad⟩
    · obtain ⟨width, hpad⟩ := hsecond.back fill hfill
      exact ⟨width, List.mem_append_right _ hpad⟩

theorem around_applyAll (pads : List Pad) (text : String) :
    ∃ front back, Around pads text (applyAll pads text) front back := by
  induction pads generalizing text with
  | nil => exact ⟨[], [], by simp, by simp, by simp⟩
  | cons pad pads ih =>
      obtain ⟨front, back, hpad⟩ := around_apply pad text
      obtain ⟨front', back', hpads⟩ := ih (pad.apply text)
      exact ⟨_, _, hpad.trans hpads⟩

theorem Around.length_added (haround : Around pads text padded front back) :
    (front ++ back).length + text.length = padded.length := by
  rw [← String.length_toList, ← String.length_toList, haround.parts]
  simp only [List.length_append]
  omega

end Around

end Pad

/-! ## Two pads, and a pad that is trimmed -/

section Laws

variable {width other : Nat} {fill : Char} {text : String}

theorem padLeft_padLeft :
    padLeft other fill (padLeft width fill text) = padLeft (max width other) fill text := by
  have hrefl := Eq.refl (padLeft other fill (padLeft width fill text))
  obtain ⟨hfirst, count, hpadded⟩ := padLeft_eq_iff.mp (Eq.refl (padLeft width fill text))
  obtain ⟨hsecond, more, hagain⟩ := padLeft_eq_iff.mp hrefl
  refine (padLeft_eq_iff.mpr ⟨?_, more + count, ?_⟩).symm
  · omega
  · rw [hagain, hpadded, ← List.append_assoc, List.replicate_append_replicate]

theorem padRight_padRight :
    padRight other fill (padRight width fill text) = padRight (max width other) fill text := by
  have hrefl := Eq.refl (padRight other fill (padRight width fill text))
  obtain ⟨hfirst, count, hpadded⟩ := padRight_eq_iff.mp (Eq.refl (padRight width fill text))
  obtain ⟨hsecond, more, hagain⟩ := padRight_eq_iff.mp hrefl
  refine (padRight_eq_iff.mpr ⟨?_, count + more, ?_⟩).symm
  · omega
  · rw [hagain, hpadded, List.append_assoc, List.replicate_append_replicate]

theorem strips_of_mem_replicate {count : Nat} :
    ∀ c ∈ List.replicate count fill, strips [fill] c := by
  intro c hc
  exact strips_iff.mpr (.inl (List.mem_singleton.mpr (List.eq_of_mem_replicate hc)))

theorem trimStart_padLeft : trimStart [fill] (padLeft width fill text) = trimStart [fill] text := by
  rw [trimStart, padLeft, String.toList_ofList, padding,
    List.dropWhile_append_of_pos strips_of_mem_replicate]
  rfl

theorem trimEnd_padRight : trimEnd [fill] (padRight width fill text) = trimEnd [fill] text := by
  rw [trimEnd, padRight, String.toList_ofList, padding, List.reverse_append,
    List.reverse_replicate, List.dropWhile_append_of_pos strips_of_mem_replicate]
  rfl

end Laws

/--
Pads go around the text.  They bring it up to the greatest width; a pad adds characters if
its width is above the text's length and all widths before, and then it adds what is missing.
Two pads in a row at one end with one fill are one, and a trim of the fill takes a pad back.
-/
theorem pads_reach_greatest_width {R : Type} [Schema R] [DecidableEq R] (text : String) :
    let run (steps : List (Step String)) : Outcome String :=
      ((Plan.ofParts steps .finish : Plan (ValueType.text (R := R))).run text).result
    (∀ pads : List Pad, ∃ padded front back,
      run (pads.map Pad.step) = .ok padded ∧ Pad.Around pads text padded front back ∧
        padded.length = (pads.map Pad.width).foldl max text.length) ∧
    (∀ (pads : List Pad) (pad : Pad), ∃ current next front back,
      run (pads.map Pad.step) = .ok current ∧ run ((pads ++ [pad]).map Pad.step) = .ok next ∧
        Pad.Around [pad] current next front back ∧
        (current.length < next.length ↔
          text.length < pad.width ∧ ∀ earlier ∈ pads, earlier.width < pad.width) ∧
        (front ++ back).length = pad.width - current.length) ∧
    (∀ (before after : List Pad) (width other : Nat) (fill : Char),
      let between (pads : List Pad) : Outcome String :=
        run ((before ++ pads ++ after).map Pad.step)
      between [.left width fill, .left other fill] = between [.left (max width other) fill] ∧
      between [.right width fill, .right other fill] = between [.right (max width other) fill]) ∧
    ∀ (width : Nat) (fill : Char),
      run [padLeftStep width fill, trimStartStep [fill]] = run [trimStartStep [fill]] ∧
      run [padRightStep width fill, trimEndStep [fill]] = run [trimEndStep [fill]] := by
  intro run
  have hrun (steps : List (Step String)) : run steps = Step.leave steps text :=
    Plan.result_run_steps (ValueType.text (R := R)) steps text
  refine ⟨fun pads => ?_, fun pads pad => ?_, fun before after width other fill => ?_,
    fun width fill => ⟨?_, ?_⟩⟩
  · obtain ⟨front, back, haround⟩ := Pad.around_applyAll pads text
    exact ⟨_, front, back, (hrun _).trans (Pad.leave_steps pads text), haround,
      Pad.length_applyAll⟩
  · obtain ⟨front, back, haround⟩ := Pad.around_apply pad (Pad.applyAll pads text)
    have hadded := haround.length_added
    rw [Pad.length_apply] at hadded
    refine ⟨_, _, front, back, (hrun _).trans (Pad.leave_steps pads text),
      (hrun _).trans (Pad.leave_steps (pads ++ [pad]) text), ?_, ?_, ?_⟩
    · rwa [Pad.applyAll_append]
    · rw [← Pad.length_applyAll_lt_iff, Pad.applyAll_append, Pad.applyAll_cons, Pad.applyAll_nil,
        Pad.length_apply]
      omega
    · omega
  · intro between
    have hbetween (pads : List Pad) : between pads =
        .ok (Pad.applyAll after (Pad.applyAll pads (Pad.applyAll before text))) := by
      rw [← Pad.applyAll_append, ← Pad.applyAll_append, ← List.append_assoc, ← Pad.leave_steps]
      exact hrun _
    simp only [hbetween, Pad.applyAll_cons, Pad.applyAll_nil, Pad.apply, padLeft_padLeft,
      padRight_padRight, and_self]
  · rw [hrun, hrun]
    exact congrArg Outcome.ok trimStart_padLeft
  · rw [hrun, hrun]
    exact congrArg Outcome.ok trimEnd_padRight

end ValuePipeline.Text
