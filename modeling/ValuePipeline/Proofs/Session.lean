import Mathlib.Data.List.Induction
import ValuePipeline.Proofs.Compile

/-!
# Sessions

A session is what a sequence of configuration calls has led to: the bench, the
handles and plans that were given out, and a record of the calls that were accepted.
A call names a builder by the number of one of its handles.  A call through a handle
that was never given out, or that has another type, is not made.
-/

namespace ValuePipeline

variable {Ty : Type} [TypeCode Ty]

inductive Call (Ty : Type) [TypeCode Ty] where
  | new (type : Ty)
  | copy (on : Nat)
  /-- Appends a step, unless its settings were refused when it was made. -/
  | append (type : Ty) (on : Nat) (step : Except StepError (Step (Carrier type)))
  | property {type leaf : Ty} (on : Nat) (path : PathExpression type leaf)
  | build (on : Nat)

structure Session (Ty : Type) [TypeCode Ty] where
  bench : Workbench Ty := {}
  handles : List ((type : Ty) × Builder type) := []
  plans : List ((type : Ty) × Plan type) := []
  record : List (Deed Ty) := []

namespace Session

variable {type leaf : Ty}

def hand (session : Session Ty) (builder : Builder type) : Session Ty :=
  { session with handles := session.handles ++ [⟨type, builder⟩] }

def log (session : Session Ty) (deed : Deed Ty) : Session Ty :=
  { session with record := session.record ++ [deed] }

def keepPlan (session : Session Ty) (plan : Plan type) : Session Ty :=
  { session with plans := session.plans ++ [⟨type, plan⟩] }

def carryOut {α : Type} (session : Session Ty) (work : Setup Ty α)
    (accept : α → Session Ty → Session Ty) : Session Ty :=
  match (work.run.run session.bench).run with
  | (.ok answer, bench) => accept answer { session with bench }
  | (.error _, bench) => { session with bench }

variable [DecidableEq Ty]

def handle? (session : Session Ty) (type : Ty) (on : Nat) : Option (Builder type) :=
  match session.handles[on]? with
  | some ⟨other, builder⟩ => if same : other = type then some (same ▸ builder) else none
  | none => none

def perform (session : Session Ty) : Call Ty → Session Ty
  | .new type => session.carryOut (Builder.new type) fun builder after => after.hand builder
  | .copy on =>
      match session.handles[on]? with
      | some handle => session.hand handle.2
      | none => session
  | .append type on step =>
      match session.handle? type on, step with
      | some builder, .ok step =>
          session.carryOut (builder.addStep step) fun _ after => after.log (.appended builder step)
      | _, _ => session
  | @Call.property _ _ type _ on path =>
      match session.handle? type on with
      | some builder =>
          session.carryOut (builder.addField path) fun child after =>
            (after.log (.registered builder path child)).hand child
      | none => session
  | .build on =>
      match session.handles[on]? with
      | some handle => session.carryOut handle.2.build fun plan after => after.keepPlan plan
      | none => session

def after (calls : List (Call Ty)) : Session Ty :=
  calls.foldl perform {}

theorem after_append (calls later : List (Call Ty)) :
    after (calls ++ later) = later.foldl perform (after calls) := by
  simp [after]

theorem handle?_eq_some_iff {session : Session Ty} {on : Nat} {builder : Builder type} :
    session.handle? type on = some builder ↔ session.handles[on]? = some ⟨type, builder⟩ := by
  simp only [handle?]
  cases session.handles[on]? with
  | none => simp
  | some handle =>
      obtain ⟨other, target⟩ := handle
      by_cases htype : other = type
      · subst htype
        simp
      · simp [htype]

/-! ## What a call can do -/

/-- The changes that a call can make of a session, each with what it is made on. -/
inductive Move (session : Session Ty) : Session Ty → Prop where
  | idle : Move session session
  | placed (type : Ty) :
      Move session ({ session with bench := (session.bench.place type).2 }.hand
        (session.bench.place type).1)
  | copied {type : Ty} {builder : Builder type} (hknown : ⟨type, builder⟩ ∈ session.handles) :
      Move session (session.hand builder)
  | appended {type : Ty} {builder : Builder type} (hknown : ⟨type, builder⟩ ∈ session.handles)
      (step : Step (Carrier type)) :
      Move session ({ session with bench := session.bench.addStep builder step }.log
        (.appended builder step))
  | registered {type leaf : Ty} {builder : Builder type} {path : PathExpression type leaf}
      {chain : Chain type leaf} (hknown : ⟨type, builder⟩ ∈ session.handles)
      (hresolve : resolve path = .ok chain)
      (hnew : ∀ entry ∈ (session.bench.draft builder).fields, entry.chain.keys ≠ chain.keys) :
      Move session
        (({ session with bench := session.bench.register builder chain }.log
          (.registered builder path ⟨session.bench.slots.length⟩)).hand
            (⟨session.bench.slots.length⟩ : Builder leaf))
  | built {type : Ty} {builder : Builder type} (hknown : ⟨type, builder⟩ ∈ session.handles) :
      Move session
        ({ session with
          bench := session.bench.note (session.bench.compile builder).notices }.keepPlan
            (session.bench.compile builder))

variable {session : Session Ty}

theorem mem_of_handle? {on : Nat} {builder : Builder type}
    (hon : session.handle? type on = some builder) : ⟨type, builder⟩ ∈ session.handles :=
  List.mem_of_getElem? (handle?_eq_some_iff.mp hon)

theorem perform_property {on : Nat} {builder : Builder type} {path : PathExpression type leaf}
    (hon : session.handle? type on = some builder) :
    session.perform (.property on path) =
      match session.bench.addField builder path with
      | .ok (child, bench) =>
          ({ session with bench }.log (.registered builder path child)).hand child
      | .error _ => session := by
  simp only [perform, hon, carryOut, Builder.run_addField]
  cases session.bench.addField builder path <;> rfl

theorem perform_property_of_new {on : Nat} {builder : Builder type}
    {path : PathExpression type leaf} {chain : Chain type leaf}
    (hon : session.handle? type on = some builder) (hresolve : resolve path = .ok chain)
    (hnew : ∀ entry ∈ (session.bench.draft builder).fields, entry.chain.keys ≠ chain.keys) :
    session.perform (.property on path) =
      ({ session with bench := session.bench.register builder chain }.log
        (.registered builder path ⟨session.bench.slots.length⟩)).hand
          (⟨session.bench.slots.length⟩ : Builder leaf) := by
  have hregistered : ((session.bench.draft builder).fields.any
      fun entry => entry.chain.keys = chain.keys) = false := by
    simpa using hnew
  simp only [perform_property hon, Workbench.addField_eq, hresolve, hregistered]
  rfl

theorem perform_property_of_error {on : Nat} {builder : Builder type}
    {path : PathExpression type leaf} {error : SetupError}
    (hon : session.handle? type on = some builder) (hresolve : resolve path = .error error) :
    session.perform (.property on path) = session := by
  simp only [perform_property hon, Workbench.addField_eq, hresolve]

theorem perform_property_of_taken {on : Nat} {builder : Builder type}
    {path : PathExpression type leaf} {chain : Chain type leaf}
    (hon : session.handle? type on = some builder) (hresolve : resolve path = .ok chain)
    (htaken : ¬ ∀ entry ∈ (session.bench.draft builder).fields, entry.chain.keys ≠ chain.keys) :
    session.perform (.property on path) = session := by
  have hregistered : ((session.bench.draft builder).fields.any
      fun entry => entry.chain.keys = chain.keys) = true := by
    simpa using htaken
  simp only [perform_property hon, Workbench.addField_eq, hresolve, hregistered, if_true]

theorem perform_build {on : Nat} {builder : Builder type}
    (hon : session.handles[on]? = some ⟨type, builder⟩) :
    session.perform (.build on) =
      { session with
        bench := session.bench.note (session.bench.compile builder).notices }.keepPlan
          (session.bench.compile builder) := by
  simp only [perform, hon]
  rfl

theorem move_property {on : Nat} {builder : Builder type} {path : PathExpression type leaf}
    (hon : session.handle? type on = some builder) :
    session.Move (session.perform (.property on path)) := by
  cases hresolve : resolve path with
  | error error =>
      rw [perform_property_of_error hon hresolve]
      exact .idle
  | ok chain =>
      by_cases hnew : ∀ entry ∈ (session.bench.draft builder).fields,
          entry.chain.keys ≠ chain.keys
      case pos =>
          rw [perform_property_of_new hon hresolve hnew]
          exact .registered (mem_of_handle? hon) hresolve hnew
      case neg =>
          rw [perform_property_of_taken hon hresolve hnew]
          exact .idle

theorem move_perform (session : Session Ty) (call : Call Ty) :
    session.Move (session.perform call) := by
  cases call with
  | new type => exact .placed type
  | copy on =>
      simp only [perform]
      cases hon : session.handles[on]? with
      | none => exact .idle
      | some handle => exact .copied (List.mem_of_getElem? hon)
  | append type on step =>
      simp only [perform]
      cases hon : session.handle? type on with
      | none => exact .idle
      | some builder =>
          cases step with
          | error error => exact .idle
          | ok step => exact .appended (mem_of_handle? hon) step
  | @property type leaf on path =>
      cases hon : session.handle? type on with
      | none =>
          simp only [perform, hon]
          exact .idle
      | some builder => exact move_property hon
  | build on =>
      cases hon : session.handles[on]? with
      | none =>
          simp only [perform, hon]
          exact .idle
      | some handle =>
          rw [perform_build hon]
          exact .built (List.mem_of_getElem? hon)

/-! ## What every session keeps -/

/-- The builders that were given out are on the bench, and the bench keeps to the record. -/
structure Sound (session : Session Ty) : Prop where
  holds : ∀ handle ∈ session.handles, session.bench.Holds handle.2
  keeps : session.bench.Keeps session.record

theorem Sound.move {next : Session Ty} (hsound : session.Sound) (hmove : session.Move next) :
    next.Sound := by
  obtain ⟨hholds, hkeeps⟩ := hsound
  cases hmove with
  | idle => exact ⟨hholds, hkeeps⟩
  | placed type =>
      refine ⟨?_, hkeeps.place type⟩
      intro handle hhandle
      rcases List.mem_append.mp hhandle with h | h
      · exact (hholds handle h).place type
      · rw [List.mem_singleton.mp h]
        exact Workbench.holds_place session.bench type
  | copied hknown =>
      refine ⟨?_, hkeeps⟩
      intro handle hhandle
      rcases List.mem_append.mp hhandle with h | h
      · exact hholds handle h
      · rw [List.mem_singleton.mp h]
        exact hholds _ hknown
  | appended hknown step =>
      have hbuilder := hholds _ hknown
      refine ⟨?_, hkeeps.addStep hbuilder step⟩
      intro handle hhandle
      exact (hholds handle hhandle).revise hbuilder _
  | @registered type leaf builder path chain hknown hresolve hnew =>
      have hbuilder := hholds _ hknown
      refine ⟨?_, hkeeps.register hbuilder hresolve⟩
      intro handle hhandle
      rcases List.mem_append.mp hhandle with h | h
      · exact (hholds handle h).register hbuilder chain
      · rw [List.mem_singleton.mp h]
        exact Workbench.holds_register hbuilder chain
  | built hknown => exact ⟨hholds, hkeeps.note _⟩

theorem sound_foldl (hsound : session.Sound) (calls : List (Call Ty)) :
    (calls.foldl perform session).Sound := by
  induction calls generalizing session with
  | nil => exact hsound
  | cons call calls ih => exact ih (hsound.move (move_perform session call))

theorem sound_after (calls : List (Call Ty)) : (after calls).Sound :=
  sound_foldl ⟨by simp, .empty⟩ calls

theorem Move.plans_isPrefix {next : Session Ty} (hmove : session.Move next) :
    session.plans <+: next.plans := by
  cases hmove with
  | built hknown => exact List.prefix_append _ _
  | _ => exact List.prefix_rfl

theorem plans_isPrefix_foldl (session : Session Ty) (calls : List (Call Ty)) :
    session.plans <+: (calls.foldl perform session).plans := by
  induction calls generalizing session with
  | nil => exact List.prefix_rfl
  | cons call calls ih =>
      exact (move_perform session call).plans_isPrefix.trans (ih (session.perform call))

/-! ## What the calls put on record -/

/-- What the call does, if it is accepted, with the builder that its handle is of. -/
def deed? (session : Session Ty) : Call Ty → Option (Deed Ty)
  | .new _ | .copy _ | .build _ => none
  | .append type on step =>
      match session.handle? type on, step with
      | some builder, .ok step => some (.appended builder step)
      | _, _ => none
  | @Call.property _ _ type _ on path =>
      match session.handle? type on with
      | some builder =>
          match session.bench.addField builder path with
          | .ok (child, _) => some (.registered builder path child)
          | .error _ => none
      | none => none

theorem record_perform (session : Session Ty) (call : Call Ty) :
    (session.perform call).record = session.record ++ (session.deed? call).toList := by
  cases call with
  | new type => exact (List.append_nil _).symm
  | copy on =>
      simp only [perform, deed?, Option.toList_none, List.append_nil]
      cases session.handles[on]? <;> rfl
  | append type on step =>
      simp only [perform, deed?]
      cases session.handle? type on with
      | none => exact (List.append_nil _).symm
      | some builder =>
          cases step with
          | error error => exact (List.append_nil _).symm
          | ok step => rfl
  | @property type leaf on path =>
      cases hon : session.handle? type on with
      | none =>
          simp only [perform, deed?, hon, Option.toList_none, List.append_nil]
      | some builder =>
          rw [perform_property hon]
          simp only [deed?, hon]
          cases session.bench.addField builder path with
          | ok added => rfl
          | error error => exact (List.append_nil _).symm
  | build on =>
      simp only [perform, deed?, Option.toList_none, List.append_nil]
      cases session.handles[on]? <;> rfl

theorem record_after (calls : List (Call Ty)) :
    (after calls).record =
      calls.zipIdx.filterMap fun entry => (after (calls.take entry.2)).deed? entry.1 := by
  induction calls using List.reverseRecOn with
  | nil => rfl
  | append_singleton calls call ih =>
      have hbefore : calls.zipIdx.filterMap (fun entry =>
            (after ((calls ++ [call]).take entry.2)).deed? entry.1) =
          calls.zipIdx.filterMap fun entry => (after (calls.take entry.2)).deed? entry.1 := by
        refine List.filterMap_congr fun entry hentry => ?_
        have hplace := List.snd_lt_of_mem_zipIdx hentry
        rw [List.take_append_of_le_length (by omega)]
      have hlast : [call].zipIdx calls.length = [(call, calls.length)] := rfl
      rw [after_append, List.foldl_cons, List.foldl_nil, record_perform, ih, List.zipIdx_append,
        List.filterMap_append, Nat.zero_add, hlast, hbefore]
      simp only [List.filterMap_cons, List.take_left, List.filterMap_nil]
      cases (after calls).deed? call <;> rfl

theorem deed?_eq_appended_iff {call : Call Ty} {builder : Builder type}
    {step : Step (Carrier type)} :
    session.deed? call = some (.appended builder step) ↔
      ∃ on, call = .append type on (.ok step) ∧
        session.handles[on]? = some ⟨type, builder⟩ := by
  constructor
  · intro hdeed
    cases call with
    | append other on given =>
        simp only [deed?] at hdeed
        split at hdeed
        case h_1 hon =>
            cases hdeed
            exact ⟨on, rfl, handle?_eq_some_iff.mp hon⟩
        case h_2 => cases hdeed
    | property on path =>
        simp only [deed?] at hdeed
        split at hdeed
        · split at hdeed <;> cases hdeed
        · cases hdeed
    | _ => cases hdeed
  · rintro ⟨on, rfl, hon⟩
    simp only [deed?, handle?_eq_some_iff.mpr hon]

theorem deed?_eq_registered_iff {call : Call Ty} {builder : Builder type}
    {path : PathExpression type leaf} {child : Builder leaf} :
    session.deed? call = some (.registered builder path child) ↔
      ∃ on bench, call = .property on path ∧ session.handles[on]? = some ⟨type, builder⟩ ∧
        session.bench.addField builder path = .ok (child, bench) := by
  constructor
  · intro hdeed
    cases call with
    | append other on given =>
        simp only [deed?] at hdeed
        split at hdeed <;> cases hdeed
    | property on path =>
        simp only [deed?] at hdeed
        split at hdeed
        case h_1 hon =>
            split at hdeed
            case h_1 hadd =>
                cases hdeed
                exact ⟨on, _, rfl, handle?_eq_some_iff.mp hon, hadd⟩
            case h_2 => cases hdeed
        case h_2 => cases hdeed
    | _ => cases hdeed
  · rintro ⟨on, bench, rfl, hon, hadd⟩
    simp only [deed?, handle?_eq_some_iff.mpr hon, hadd]

/-- The steps that were appended through the handles of the builder, in the order of the calls. -/
theorem stepsOn_after (calls : List (Call Ty)) (builder : Builder type) :
    stepsOn (after calls).record builder = calls.zipIdx.filterMap fun entry =>
      ((after (calls.take entry.2)).deed? entry.1).bind (Deed.stepOn? builder) := by
  rw [stepsOn, record_after, List.filterMap_filterMap]

theorem deed?_bind_stepOn?_eq_some_iff {call : Call Ty} {builder : Builder type}
    {step : Step (Carrier type)} :
    (session.deed? call).bind (Deed.stepOn? builder) = some step ↔
      ∃ on, call = .append type on (.ok step) ∧
        session.handles[on]? = some ⟨type, builder⟩ := by
  simp only [Option.bind_eq_some_iff, Deed.stepOn?_eq_some_iff, exists_eq_right,
    deed?_eq_appended_iff]

theorem fieldsOn_after (calls : List (Call Ty)) (builder : Builder type) :
    fieldsOn (after calls).record builder = calls.zipIdx.filterMap fun entry =>
      ((after (calls.take entry.2)).deed? entry.1).bind (Deed.fieldOn? builder) := by
  rw [fieldsOn, record_after, List.filterMap_filterMap]

theorem deed?_bind_fieldOn?_eq_some_iff {call : Call Ty} {builder : Builder type}
    {registration : Registration type} :
    (session.deed? call).bind (Deed.fieldOn? builder) = some registration ↔
      ∃ on bench, call = .property on registration.path ∧
        session.handles[on]? = some ⟨type, builder⟩ ∧
        session.bench.addField builder registration.path = .ok (registration.child, bench) := by
  simp only [Option.bind_eq_some_iff, Deed.fieldOn?_eq_some_iff, exists_eq_right,
    deed?_eq_registered_iff]

end Session

/-! ## Ways to set up orders -/

namespace Goods

def recountStep : Step Nat := ⟨"recount", recount⟩

def doubleStep : Step Nat := .total "double" (2 * ·)

def renumberStep : Step Order := .total "renumber" fun order => { order with number := 0 }

def fieldFirst : List (Call Goods) :=
  [.new order, .property 0 countPath, .append count 1 (.ok recountStep),
    .append order 0 (.ok renumberStep)]

def stepFirst : List (Call Goods) :=
  [.new order, .copy 0, .append order 1 (.ok renumberStep), .property 0 countPath,
    .property 1 countPath, .append count 2 (.ok recountStep)]

def twoLevels : List (Call Goods) :=
  [.new order, .property 0 itemPath, .property 1 itemCountPath, .append count 2 (.ok recountStep)]

def numberFirst : List (Call Goods) :=
  [.new order, .property 0 numberPath, .property 0 countPath, .append count 1 (.ok doubleStep),
    .append count 2 (.ok doubleStep)]

def countFirst : List (Call Goods) :=
  [.new order, .property 0 countPath, .property 0 numberPath, .append count 1 (.ok doubleStep),
    .append count 2 (.ok doubleStep)]

def fieldFirstTree : Tree order :=
  .step renumberStep
    (.field countRoute countRoute_length_pos (.step recountStep .finish) .finish)

inductive Counterparts : ∀ {type : Goods}, Builder type → Builder type → Prop where
  | order : Counterparts (⟨0⟩ : Builder Goods.order) ⟨0⟩
  | count : Counterparts (⟨1⟩ : Builder Goods.count) ⟨1⟩

end Goods

end ValuePipeline
