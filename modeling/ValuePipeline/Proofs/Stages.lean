import ValuePipeline.Proofs.Split

/-!
# Sessions with a path in stages

Two sessions are told the same, but one registers a path at once and the other in two
stages.  From then on the second has one draft more, so every builder that is handed
out later has a number that is greater by one.  Apart from that the calls that follow
do the same in both.
-/

namespace ValuePipeline

variable {Ty : Type} [TypeCode Ty] {type root middle leaf : Ty}

/-! ## Builders one place further -/

def Builder.shift {Ty : Type} {type : Ty} (builder : Builder type) : Builder type :=
  ⟨builder.index + 1⟩

def Registration.shift (registration : Registration type) : Registration type :=
  ⟨registration.leaf, registration.path, registration.child.shift⟩

def Deed.shift : Deed Ty → Deed Ty
  | appended builder step => appended builder.shift step
  | registered builder path child => registered builder.shift path child.shift

def Call.renumber (f : Nat → Nat) : Call Ty → Call Ty
  | new type => new type
  | copy on => copy (f on)
  | append type on step => append type (f on) step
  | property on path => property (f on) path
  | build on => build (f on)

namespace Deed

@[simp] theorem index_shift (deed : Deed Ty) : deed.shift.index = deed.index + 1 := by
  cases deed <;> rfl

theorem index_ne_of_mem_shift {deeds : List (Deed Ty)} {bound index : Nat}
    (hlater : ∀ deed ∈ deeds, bound ≤ deed.index) (hle : index ≤ bound) :
    ∀ deed ∈ deeds.map shift, deed.index ≠ index := by
  intro deed hdeed
  obtain ⟨before, hbefore, rfl⟩ := List.mem_map.mp hdeed
  rw [index_shift]
  exact Nat.ne_of_gt (Nat.lt_succ_of_le (Nat.le_trans hle (hlater before hbefore)))

variable [DecidableEq Ty] (deeds : List (Deed Ty)) (builder : Builder type)

theorem stepOn?_shift (deed : Deed Ty) :
    deed.shift.stepOn? builder.shift = deed.stepOn? builder := by
  cases deed with
  | appended target step => simp [stepOn?, shift, Builder.shift]
  | registered target path child => rfl

theorem fieldOn?_shift (deed : Deed Ty) :
    deed.shift.fieldOn? builder.shift = (deed.fieldOn? builder).map Registration.shift := by
  cases deed with
  | appended target step => rfl
  | @registered other leaf target path child =>
      by_cases hsame : other = type ∧ target.index = builder.index
      · obtain ⟨rfl, hindex⟩ := hsame
        simp [fieldOn?, shift, Builder.shift, hindex, Registration.shift]
      · simp [fieldOn?, shift, Builder.shift, hsame]

theorem stepsOn_shift : stepsOn (deeds.map shift) builder.shift = stepsOn deeds builder := by
  rw [stepsOn, List.filterMap_map]
  exact congrArg (List.filterMap · deeds) (funext (stepOn?_shift builder))

theorem fieldsOn_shift :
    fieldsOn (deeds.map shift) builder.shift = (fieldsOn deeds builder).map Registration.shift := by
  rw [fieldsOn, List.filterMap_map, fieldsOn, List.map_filterMap]
  exact congrArg (List.filterMap · deeds) (funext (fieldOn?_shift builder))

theorem stepsOn_append_later {later : List (Deed Ty)}
    (hne : ∀ deed ∈ later, deed.index ≠ builder.index) :
    stepsOn (deeds ++ later) builder = stepsOn deeds builder := by
  rw [stepsOn, List.filterMap_append, ← stepsOn, ← stepsOn, stepsOn_eq_nil hne, List.append_nil]

theorem fieldsOn_append_later {later : List (Deed Ty)}
    (hne : ∀ deed ∈ later, deed.index ≠ builder.index) :
    fieldsOn (deeds ++ later) builder = fieldsOn deeds builder := by
  rw [fieldsOn, List.filterMap_append, ← fieldsOn, ← fieldsOn, fieldsOn_eq_nil hne,
    List.append_nil]

theorem stepsOn_append_of_ne {earlier : List (Deed Ty)}
    (hne : ∀ deed ∈ earlier, deed.index ≠ builder.index) :
    stepsOn (earlier ++ deeds) builder = stepsOn deeds builder := by
  rw [stepsOn, List.filterMap_append, ← stepsOn, stepsOn_eq_nil hne, List.nil_append]
  rfl

theorem fieldsOn_append_of_ne {earlier : List (Deed Ty)}
    (hne : ∀ deed ∈ earlier, deed.index ≠ builder.index) :
    fieldsOn (earlier ++ deeds) builder = fieldsOn deeds builder := by
  rw [fieldsOn, List.filterMap_append, ← fieldsOn, fieldsOn_eq_nil hne, List.nil_append]
  rfl

end Deed

theorem Entry.map_keys_eq [DecidableEq Ty] {entries others : List (Entry type)}
    {fields : List (Registration type)} (hentries : List.Forall₂ Entry.Records entries fields)
    (hothers : List.Forall₂ Entry.Records others (fields.map Registration.shift)) :
    others.map (fun entry => entry.chain.keys) = entries.map fun entry => entry.chain.keys := by
  induction hentries generalizing others with
  | nil =>
      cases hothers
      rfl
  | cons hentry hentries ih =>
      obtain ⟨hresolve⟩ := hentry
      cases hothers with
      | cons hother hothers =>
          obtain ⟨hresolve'⟩ := hother
          rw [hresolve] at hresolve'
          cases hresolve'
          simp [ih hothers]

/-- Builders that were there before, other than the root and those above it, and builders that
were handed out since. -/
inductive Builder.Staged (low high : Nat) : ∀ {type : Ty}, Builder type → Builder type → Prop where
  | earlier {type : Ty} {builder : Builder type} (hlow : low < builder.index)
      (hhigh : builder.index < high) : Staged low high builder builder
  | later {type : Ty} {builder : Builder type} (hhigh : high ≤ builder.index) :
      Staged low high builder builder.shift

/-! ## Two sessions side by side -/

namespace Session

/-- The handles given out since, each one place further in the second session. -/
def shiftHandle (handle : (type : Ty) × Builder type) : (type : Ty) × Builder type :=
  ⟨handle.1, handle.2.shift⟩

variable [DecidableEq Ty]

/-- A call that adds so many drafts, gives out these handles, and does these deeds. -/
structure Gains (session next : Session Ty) (drafts : Nat)
    (handles : List ((type : Ty) × Builder type)) (deeds : List (Deed Ty)) : Prop where
  move : session.Move next
  slots : next.bench.slots.length = session.bench.slots.length + drafts
  handles : next.handles = session.handles ++ handles
  record : next.record = session.record ++ deeds

theorem gains_new (session : Session Ty) (type : Ty) :
    session.Gains (session.perform (.new type)) 1 [⟨type, ⟨session.bench.slots.length⟩⟩] [] :=
  ⟨move_perform _ _, List.length_append, rfl, (List.append_nil _).symm⟩

theorem gains_copy {session : Session Ty} {on : Nat} {handle : (type : Ty) × Builder type}
    (hon : session.handles[on]? = some handle) :
    session.Gains (session.perform (.copy on)) 0 [handle] [] := by
  have hmove := move_perform session (.copy on)
  simp only [perform, hon] at hmove ⊢
  exact ⟨hmove, rfl, rfl, (List.append_nil _).symm⟩

theorem gains_append {session : Session Ty} {on : Nat} {builder : Builder type}
    (hon : session.handle? type on = some builder) (step : Step (Carrier type)) :
    session.Gains (session.perform (.append type on (.ok step))) 0 [] [.appended builder step] := by
  have hmove := move_perform session (.append type on (.ok step))
  simp only [perform, hon] at hmove ⊢
  exact ⟨hmove, List.length_modify _ _ _, (List.append_nil _).symm, rfl⟩

theorem gains_property {session : Session Ty} {on : Nat} {builder : Builder type}
    {path : PathExpression type leaf} {chain : Chain type leaf}
    (hon : session.handle? type on = some builder) (hresolve : resolve path = .ok chain)
    (hnew : ∀ entry ∈ (session.bench.draft builder).fields, entry.chain.keys ≠ chain.keys) :
    session.Gains (session.perform (.property on path)) 1 [⟨leaf, ⟨session.bench.slots.length⟩⟩]
      [.registered builder path ⟨session.bench.slots.length⟩] := by
  have hmove := move_perform session (.property on path)
  rw [perform_property_of_new hon hresolve hnew] at hmove ⊢
  exact ⟨hmove, Workbench.length_register _ _ _, rfl, rfl⟩

theorem gains_build {session : Session Ty} {on : Nat} {builder : Builder type}
    (hon : session.handles[on]? = some ⟨type, builder⟩) :
    session.Gains (session.perform (.build on)) 0 [] [] := by
  have hmove := move_perform session (.build on)
  rw [perform_build hon] at hmove ⊢
  exact ⟨hmove, rfl, (List.append_nil _).symm, (List.append_nil _).symm⟩

/--
Since the start one session has registered the whole path, the other its two stages, and
all that was called after that was the same in both.
-/
structure Parallel (start : Session Ty) (builder : Builder root) (whole : PathExpression root leaf)
    (outer : PathExpression root middle) (inner : PathExpression middle leaf)
    (once twice : Session Ty) : Prop where
  soundOnce : once.Sound
  soundTwice : twice.Sound
  slots : start.bench.slots.length < once.bench.slots.length ∧
    twice.bench.slots.length = once.bench.slots.length + 1
  handles : ∃ handles : List ((type : Ty) × Builder type),
    once.handles = start.handles ++ handles ∧
    twice.handles = start.handles ++ ⟨middle, ⟨start.bench.slots.length⟩⟩ ::
      handles.map shiftHandle ∧
    ∀ handle ∈ handles, start.bench.slots.length ≤ handle.2.index
  leafHandle : once.handles[start.handles.length]? = some ⟨leaf, ⟨start.bench.slots.length⟩⟩
  record : ∃ deeds : List (Deed Ty),
    once.record = start.record ++ [.registered builder whole ⟨start.bench.slots.length⟩] ++ deeds ∧
    twice.record = start.record ++ [.registered builder outer ⟨start.bench.slots.length⟩] ++
      [.registered (⟨start.bench.slots.length⟩ : Builder middle) inner
        ⟨start.bench.slots.length + 1⟩] ++ deeds.map Deed.shift ∧
    ∀ deed ∈ deeds, start.bench.slots.length ≤ deed.index

namespace Parallel

variable {start once twice : Session Ty} {builder : Builder root}
  {whole : PathExpression root leaf} {outer : PathExpression root middle}
  {inner : PathExpression middle leaf}

section

variable (hparallel : Parallel start builder whole outer inner once twice)
include hparallel

theorem getElem?_handles (on : Nat) :
    twice.handles[start.handles.length + 1 + on]? =
        (once.handles[start.handles.length + on]?).map shiftHandle ∧
      ∀ handle, once.handles[start.handles.length + on]? = some handle →
        start.bench.slots.length ≤ handle.2.index := by
  obtain ⟨handles, honce, htwice, hlater⟩ := hparallel.handles
  have hon : once.handles[start.handles.length + on]? = handles[on]? := by
    rw [honce, List.getElem?_append_right (Nat.le_add_right _ _), Nat.add_sub_cancel_left]
  refine ⟨?_, ?_⟩
  · rw [hon, htwice, List.getElem?_append_right (by omega),
      show start.handles.length + 1 + on - start.handles.length = on + 1 by omega,
      List.getElem?_cons_succ, List.getElem?_map]
  · intro handle hhandle
    rw [hon] at hhandle
    exact hlater handle (List.mem_of_getElem? hhandle)

theorem handle?_eq (type : Ty) (on : Nat) :
    twice.handle? type (start.handles.length + 1 + on) =
      (once.handle? type (start.handles.length + on)).map Builder.shift := by
  simp only [handle?, (hparallel.getElem?_handles on).1]
  cases once.handles[start.handles.length + on]? with
  | none => rfl
  | some handle =>
      obtain ⟨other, target⟩ := handle
      by_cases htype : other = type
      · subst htype
        simp [shiftHandle]
      · simp [shiftHandle, htype]

theorem later_of_handle? {type : Ty} {on : Nat} {target : Builder type}
    (hon : once.handle? type (start.handles.length + on) = some target) :
    start.bench.slots.length ≤ target.index :=
  (hparallel.getElem?_handles on).2 _ (handle?_eq_some_iff.mp hon)

theorem extend {onceNext twiceNext : Session Ty} {drafts : Nat}
    {handles : List ((type : Ty) × Builder type)} {deeds : List (Deed Ty)}
    (honce : once.Gains onceNext drafts handles deeds)
    (htwice : twice.Gains twiceNext drafts (handles.map shiftHandle) (deeds.map Deed.shift))
    (hhandles : ∀ handle ∈ handles, start.bench.slots.length ≤ handle.2.index)
    (hdeeds : ∀ deed ∈ deeds, start.bench.slots.length ≤ deed.index) :
    Parallel start builder whole outer inner onceNext twiceNext where
  soundOnce := hparallel.soundOnce.move honce.move
  soundTwice := hparallel.soundTwice.move htwice.move
  slots := by
    obtain ⟨hgrown, hslots⟩ := hparallel.slots
    rw [honce.slots, htwice.slots]
    omega
  handles := by
    obtain ⟨earlier, hearlierOnce, hearlierTwice, hearlier⟩ := hparallel.handles
    refine ⟨earlier ++ handles, ?_, ?_, List.forall_mem_append.mpr ⟨hearlier, hhandles⟩⟩
    · rw [honce.handles, hearlierOnce, List.append_assoc]
    · simp [htwice.handles, hearlierTwice]
  leafHandle := by
    have hlt := (List.getElem?_eq_some_iff.mp hparallel.leafHandle).1
    rw [honce.handles, List.getElem?_append_left hlt]
    exact hparallel.leafHandle
  record := by
    obtain ⟨earlier, hearlierOnce, hearlierTwice, hearlier⟩ := hparallel.record
    refine ⟨earlier ++ deeds, ?_, ?_, List.forall_mem_append.mpr ⟨hearlier, hdeeds⟩⟩
    · rw [honce.record, hearlierOnce, List.append_assoc]
    · simp [htwice.record, hearlierTwice]

theorem perform_new (type : Ty) : Parallel start builder whole outer inner
    (once.perform (.new type)) (twice.perform (.new type)) := by
  obtain ⟨hgrown, hslots⟩ := hparallel.slots
  have htwice := gains_new twice type
  rw [hslots] at htwice
  refine hparallel.extend (gains_new once type) htwice ?_ (List.forall_mem_nil _)
  exact List.forall_mem_singleton.mpr (Nat.le_of_lt hgrown)

theorem perform_copy (on : Nat) : Parallel start builder whole outer inner
    (once.perform (.copy (start.handles.length + on)))
    (twice.perform (.copy (start.handles.length + 1 + on))) := by
  obtain ⟨hsame, hlater⟩ := hparallel.getElem?_handles on
  cases hon : once.handles[start.handles.length + on]? with
  | none =>
      rw [hon, Option.map_none] at hsame
      simp only [perform, hon, hsame]
      exact hparallel
  | some handle =>
      rw [hon, Option.map_some] at hsame
      exact hparallel.extend (gains_copy hon) (gains_copy hsame)
        (List.forall_mem_singleton.mpr (hlater handle hon)) (List.forall_mem_nil _)

theorem perform_append (type : Ty) (on : Nat) (step : Except StepError (Step (Carrier type))) :
    Parallel start builder whole outer inner
      (once.perform (.append type (start.handles.length + on) step))
      (twice.perform (.append type (start.handles.length + 1 + on) step)) := by
  have hsame := hparallel.handle?_eq type on
  cases hon : once.handle? type (start.handles.length + on) with
  | none =>
      rw [hon, Option.map_none] at hsame
      simp only [perform, hon, hsame]
      exact hparallel
  | some target =>
      rw [hon, Option.map_some] at hsame
      cases step with
      | error error =>
          simp only [perform, hon, hsame]
          exact hparallel
      | ok step =>
          exact hparallel.extend (gains_append hon step) (gains_append hsame step)
            (List.forall_mem_nil _)
            (List.forall_mem_singleton.mpr (hparallel.later_of_handle? hon))

theorem perform_build (on : Nat) : Parallel start builder whole outer inner
    (once.perform (.build (start.handles.length + on)))
    (twice.perform (.build (start.handles.length + 1 + on))) := by
  have hsame := (hparallel.getElem?_handles on).1
  cases hon : once.handles[start.handles.length + on]? with
  | none =>
      rw [hon, Option.map_none] at hsame
      simp only [perform, hon, hsame]
      exact hparallel
  | some handle =>
      rw [hon, Option.map_some] at hsame
      exact hparallel.extend (gains_build hon) (gains_build hsame) (List.forall_mem_nil _)
        (List.forall_mem_nil _)

theorem on_earlier {target : Builder type} (hearlier : target.index < start.bench.slots.length) :
    (stepsOn once.record target = stepsOn start.record target ∧
      fieldsOn once.record target = fieldsOn start.record target ++
        ((Deed.registered builder whole ⟨start.bench.slots.length⟩).fieldOn? target).toList) ∧
    stepsOn twice.record target = stepsOn start.record target ∧
      fieldsOn twice.record target = fieldsOn start.record target ++
        ((Deed.registered builder outer ⟨start.bench.slots.length⟩).fieldOn? target).toList := by
  obtain ⟨deeds, honce, htwice, hlater⟩ := hparallel.record
  have hneOnce : ∀ deed ∈ deeds, deed.index ≠ target.index :=
    fun deed hdeed => Nat.ne_of_gt (Nat.lt_of_lt_of_le hearlier (hlater deed hdeed))
  have hneTwice := Deed.index_ne_of_mem_shift hlater (Nat.le_of_lt hearlier)
  have hneInner : (Deed.registered (⟨start.bench.slots.length⟩ : Builder middle) inner
      ⟨start.bench.slots.length + 1⟩).index ≠ target.index := Nat.ne_of_gt hearlier
  rw [honce, htwice, Deed.stepsOn_append_later _ _ hneOnce, Deed.stepsOn_append_later _ _ hneTwice,
    Deed.fieldsOn_append_later _ _ hneOnce, Deed.fieldsOn_append_later _ _ hneTwice]
  simp only [stepsOn_append, fieldsOn_append, Deed.stepOn?_registered, Deed.fieldOn?_ne hneInner,
    Option.toList_none, List.append_nil, and_self]

theorem mem_handles {handle : (type : Ty) × Builder type} (hmem : handle ∈ start.handles) :
    handle ∈ once.handles ∧ handle ∈ twice.handles := by
  obtain ⟨handles, honce, htwice, -⟩ := hparallel.handles
  rw [honce, htwice]
  exact ⟨List.mem_append_left _ hmem, List.mem_append_left _ hmem⟩

variable (hstart : start.Sound) (hholds : start.bench.Holds builder)
include hstart hholds

theorem on_later {target : Builder type} (hlater : start.bench.slots.length ≤ target.index) :
    stepsOn twice.record target.shift = stepsOn once.record target ∧
      fieldsOn twice.record target.shift =
        (fieldsOn once.record target).map Registration.shift := by
  obtain ⟨deeds, honce, htwice, -⟩ := hparallel.record
  have hbuilder := hholds.index_lt
  have hearlier := hstart.keeps.index_lt
  have hneOnce : ∀ deed ∈ start.record ++ [.registered builder whole ⟨start.bench.slots.length⟩],
      deed.index ≠ target.index := by
    grind [Deed.index]
  have hneTwice : ∀ deed ∈ start.record ++
      [.registered builder outer ⟨start.bench.slots.length⟩] ++
        [.registered (⟨start.bench.slots.length⟩ : Builder middle) inner
          ⟨start.bench.slots.length + 1⟩],
      deed.index ≠ target.shift.index := by
    grind [Deed.index, Builder.shift]
  rw [honce, htwice, Deed.stepsOn_append_of_ne _ _ hneOnce, Deed.stepsOn_append_of_ne _ _ hneTwice,
    Deed.fieldsOn_append_of_ne _ _ hneOnce, Deed.fieldsOn_append_of_ne _ _ hneTwice]
  exact ⟨Deed.stepsOn_shift deeds target, Deed.fieldsOn_shift deeds target⟩

theorem new_iff {target : Builder type} (hlater : start.bench.slots.length ≤ target.index)
    (honce : once.bench.Holds target) (htwice : twice.bench.Holds target.shift)
    (keys : List (FieldKey Ty)) :
    (∀ entry ∈ (twice.bench.draft target.shift).fields, entry.chain.keys ≠ keys) ↔
      ∀ entry ∈ (once.bench.draft target).fields, entry.chain.keys ≠ keys := by
  have hkeptOnce := (hparallel.soundOnce.keeps.drafts honce).fields
  have hkeptTwice := (hparallel.soundTwice.keeps.drafts htwice).fields
  rw [(hparallel.on_later hstart hholds hlater).2] at hkeptTwice
  have hkeys := congrArg (fun taken => ∀ key ∈ taken, key ≠ keys)
    (Entry.map_keys_eq hkeptOnce hkeptTwice)
  simpa only [List.forall_mem_map, eq_iff_iff] using hkeys

theorem perform_property {type leaf : Ty} (on : Nat) (path : PathExpression type leaf) :
    Parallel start builder whole outer inner
      (once.perform (.property (start.handles.length + on) path))
      (twice.perform (.property (start.handles.length + 1 + on) path)) := by
  have hsame := hparallel.handle?_eq type on
  cases hon : once.handle? type (start.handles.length + on) with
  | none =>
      rw [hon, Option.map_none] at hsame
      simp only [perform, hon, hsame]
      exact hparallel
  | some target =>
      rw [hon, Option.map_some] at hsame
      cases hresolve : resolve path with
      | error error =>
          rw [perform_property_of_error hon hresolve, perform_property_of_error hsame hresolve]
          exact hparallel
      | ok chain =>
          have hlater := hparallel.later_of_handle? hon
          have hiff := hparallel.new_iff hstart hholds hlater
            (hparallel.soundOnce.holds _ (mem_of_handle? hon))
            (hparallel.soundTwice.holds _ (mem_of_handle? hsame)) chain.keys
          by_cases hnew : ∀ entry ∈ (once.bench.draft target).fields, entry.chain.keys ≠ chain.keys
          case neg =>
              rw [perform_property_of_taken hon hresolve hnew,
                perform_property_of_taken hsame hresolve (mt hiff.mp hnew)]
              exact hparallel
          case pos =>
              obtain ⟨hgrown, hslots⟩ := hparallel.slots
              have htwice := gains_property hsame hresolve (hiff.mpr hnew)
              rw [hslots] at htwice
              exact hparallel.extend (gains_property hon hresolve hnew) htwice
                (List.forall_mem_singleton.mpr (Nat.le_of_lt hgrown))
                (List.forall_mem_singleton.mpr hlater)

theorem perform_renumber (call : Call Ty) : Parallel start builder whole outer inner
    (once.perform (call.renumber (start.handles.length + ·)))
    (twice.perform (call.renumber (start.handles.length + 1 + ·))) := by
  cases call with
  | new type => exact hparallel.perform_new type
  | copy on => exact hparallel.perform_copy on
  | append type on step => exact hparallel.perform_append type on step
  | property on path => exact hparallel.perform_property hstart hholds on path
  | build on => exact hparallel.perform_build on

theorem on_middle :
    stepsOn twice.record (⟨start.bench.slots.length⟩ : Builder middle) = [] ∧
      fieldsOn twice.record (⟨start.bench.slots.length⟩ : Builder middle) =
        [⟨leaf, inner, ⟨start.bench.slots.length + 1⟩⟩] := by
  obtain ⟨deeds, -, htwice, hlater⟩ := hparallel.record
  have hbuilder := hholds.index_lt
  have hearlier := hstart.keeps.index_lt
  have hneEarlier : ∀ deed ∈ start.record ++
      [.registered builder outer (⟨start.bench.slots.length⟩ : Builder middle)],
      deed.index ≠ (⟨start.bench.slots.length⟩ : Builder middle).index := by
    grind [Deed.index]
  have hneLater := Deed.index_ne_of_mem_shift hlater (Nat.le_refl _)
  rw [htwice, Deed.stepsOn_append_later _ _ hneLater, Deed.fieldsOn_append_later _ _ hneLater,
    stepsOn_append, fieldsOn_append, Deed.stepsOn_eq_nil hneEarlier,
    Deed.fieldsOn_eq_nil hneEarlier]
  simp

theorem corresponds : Corresponds once.record twice.record
    (Builder.Staged builder.index start.bench.slots.length) where
  steps := by
    rintro type target twin (⟨hlow, hhigh⟩ | hhigh)
    · obtain ⟨⟨honce, -⟩, htwice, -⟩ := hparallel.on_earlier hhigh
      rw [honce, htwice]
    · exact (hparallel.on_later hstart hholds hhigh).1.symm
  fields := by
    rintro type target twin (⟨hlow, hhigh⟩ | hhigh)
    · obtain ⟨⟨-, honce⟩, -, htwice⟩ := hparallel.on_earlier hhigh
      have hnone : ∀ {part : Ty} (path : PathExpression root part),
          (Deed.registered builder path ⟨start.bench.slots.length⟩).fieldOn? target = none :=
        fun path => Deed.fieldOn?_ne (Nat.ne_of_lt hlow)
      rw [honce, htwice, hnone, hnone, Option.toList_none, List.append_nil, List.forall₂_same]
      intro registration hmem
      obtain ⟨hchild, hnewer, -⟩ := hstart.keeps.child_of_mem hmem
      exact .intro (.earlier (Nat.lt_trans hlow hnewer) hchild.index_lt)
    · rw [(hparallel.on_later hstart hholds hhigh).2, List.forall₂_map_right_iff,
        List.forall₂_same]
      intro registration hmem
      obtain ⟨-, hnewer, -⟩ := hparallel.soundOnce.keeps.child_of_mem hmem
      exact .intro (.later (Nat.le_trans hhigh (Nat.le_of_lt hnewer)))

theorem exists_alike {first : Route root middle} {second : Route middle leaf}
    (hwhole : whole.Denotes (first.trans second)) (houter : outer.Denotes first)
    (hinner : inner.Denotes second) :
    ∃ single double, Describes once.record builder single ∧
      Describes twice.record builder double ∧ single.Alike double := by
  obtain ⟨⟨hstepsOnce, hfieldsOnce⟩, hstepsTwice, hfieldsTwice⟩ :=
    hparallel.on_earlier hholds.index_lt
  rw [Deed.fieldOn?_registered, Option.toList_some] at hfieldsOnce hfieldsTwice
  obtain ⟨hstepsMiddle, hfieldsMiddle⟩ := hparallel.on_middle hstart hholds
  have hcorresponds := hparallel.corresponds hstart hholds
  have hkeeps := hparallel.soundOnce.keeps
  have hchildren : ∀ registration ∈ fieldsOn start.record builder ++
      [⟨leaf, whole, ⟨start.bench.slots.length⟩⟩],
      (∃ route, registration.path.Denotes route) ∧
        ∃ part, Describes once.record registration.child part := by
    intro registration hmem
    rw [← hfieldsOnce] at hmem
    obtain ⟨hchild, -, hdenotes⟩ := hkeeps.child_of_mem hmem
    exact ⟨hdenotes, hkeeps.exists_describes hchild⟩
  obtain ⟨branches, hbranches⟩ := exists_branches fun registration hmem =>
    hchildren registration (List.mem_append_left _ hmem)
  obtain ⟨-, part, hpart⟩ := hchildren _ (List.mem_append_right _ List.mem_cons_self)
  have hbranchesTwice : List.Forall₂ (Branch.Grows twice.record)
      (fieldsOn start.record builder) branches := by
    have hmem := (List.forall₂_and_left _ _).mpr ⟨fun _ hmem => hmem, hbranches⟩
    refine hmem.imp ?_
    rintro registration branch ⟨hregistration, hgrows⟩
    obtain ⟨hchild, hnewer, -⟩ := hstart.keeps.child_of_mem hregistration
    exact hgrows.twin hcorresponds (.intro (.earlier hnewer hchild.index_lt))
  have hpartTwice : Describes twice.record
      (⟨start.bench.slots.length + 1⟩ : Builder leaf) part :=
    hpart.twin hcorresponds (.later (Nat.le_refl _))
  have hmiddle : Describes twice.record (⟨start.bench.slots.length⟩ : Builder middle)
      (.node [] [⟨leaf, second, hinner.1, part⟩]) := by
    rw [Describes, hstepsMiddle, hfieldsMiddle]
    exact grown_node (.cons (.intro hinner hpartTwice) .nil)
  have hsplit := Tree.Alike.split hwhole.1 houter.1 hinner.1 part
  refine ⟨_, _, ?_, ?_, hsplit.node (stepsOn start.record builder) branches⟩
  · rw [Describes, hstepsOnce, hfieldsOnce]
    exact grown_node (List.rel_append hbranches (.cons (.intro hwhole hpart) .nil))
  · rw [Describes, hstepsTwice, hfieldsTwice]
    exact grown_node (List.rel_append hbranchesTwice (.cons (.intro houter hmiddle) .nil))

end

end Parallel

/-! ## From the calls -/

theorem parallel_start {start : Session Ty} {on : Nat} {builder : Builder root}
    (hstart : start.Sound) (hon : start.handle? root on = some builder)
    {first : Route root middle} {second : Route middle leaf} {whole : PathExpression root leaf}
    {outer : PathExpression root middle} {inner : PathExpression middle leaf}
    (hwhole : whole.Denotes (first.trans second)) (houter : outer.Denotes first)
    (hinner : inner.Denotes second)
    (hnewWhole : ∀ entry ∈ (start.bench.draft builder).fields,
      entry.chain.keys ≠ (first.trans second).chain.keys)
    (hnewOuter : ∀ entry ∈ (start.bench.draft builder).fields,
      entry.chain.keys ≠ first.chain.keys) :
    Parallel start builder whole outer inner (start.perform (.property on whole))
      ((start.perform (.property on outer)).perform (.property start.handles.length inner)) := by
  have hholds := hstart.holds _ (mem_of_handle? hon)
  have honce := perform_property_of_new hon hwhole.resolve_eq hnewWhole
  have houterDone := perform_property_of_new hon houter.resolve_eq hnewOuter
  have hmiddle : (start.perform (.property on outer)).handle? middle start.handles.length =
      some ⟨start.bench.slots.length⟩ := by
    rw [houterDone, handle?_eq_some_iff]
    simp [hand, log]
  have hempty : ∀ entry ∈ ((start.perform (.property on outer)).bench.draft
      (⟨start.bench.slots.length⟩ : Builder middle)).fields,
      entry.chain.keys ≠ second.chain.keys := by
    rw [houterDone]
    change ∀ entry ∈ ((start.bench.register builder first.chain).draft _).fields, _
    rw [Workbench.draft_register_new hholds]
    simp
  have htwice := perform_property_of_new hmiddle hinner.resolve_eq hempty
  have hslots : (start.bench.register builder first.chain).slots.length =
      start.bench.slots.length + 1 := Workbench.length_register _ _ _
  refine ⟨hstart.move (move_perform _ _), (hstart.move (move_perform _ _)).move (move_perform _ _),
    ?_, ⟨[⟨leaf, ⟨start.bench.slots.length⟩⟩], ?_⟩, ?_, ⟨[], ?_⟩⟩
  · rw [honce, htwice, houterDone]
    simp [hand, log, Workbench.length_register]
  · rw [honce, htwice, houterDone]
    simp [hand, log, shiftHandle, Builder.shift, hslots]
  · rw [honce]
    simp [hand, log]
  · rw [honce, htwice, houterDone]
    simp [hand, log, hslots]

theorem Parallel.foldl {start once twice : Session Ty} {builder : Builder root}
    {whole : PathExpression root leaf} {outer : PathExpression root middle}
    {inner : PathExpression middle leaf}
    (hparallel : Parallel start builder whole outer inner once twice) (hstart : start.Sound)
    (hholds : start.bench.Holds builder) (calls : List (Call Ty)) :
    Parallel start builder whole outer inner
      ((calls.map (.renumber (start.handles.length + ·))).foldl perform once)
      ((calls.map (.renumber (start.handles.length + 1 + ·))).foldl perform twice) := by
  induction calls generalizing once twice with
  | nil => exact hparallel
  | cons call calls ih => exact ih (hparallel.perform_renumber hstart hholds call)

/--
Registers the whole path and then configures the builder for its value.  The calls that
configure it number the handles from the one that was just given out.
-/
def atOnce (before : List (Call Ty)) (on : Nat) (whole : PathExpression root leaf)
    (config : List (Call Ty)) : Session Ty :=
  after (before ++ .property on whole ::
    config.map (.renumber ((after before).handles.length + ·)))

def inStages (before : List (Call Ty)) (on : Nat) (outer : PathExpression root middle)
    (inner : PathExpression middle leaf) (config : List (Call Ty)) : Session Ty :=
  after (before ++ .property on outer :: .property (after before).handles.length inner ::
    config.map (.renumber ((after before).handles.length + 1 + ·)))

/--
A path that is registered at once and the same path registered in two stages, wherever
it is split, make plans that run alike: they use the accessors in the same order,
execute the same steps on the same values, and leave the same value and failure.
-/
theorem split_path_runs_alike (before config : List (Call Ty)) {on : Nat} {builder : Builder root}
    (hon : (after before).handles[on]? = some ⟨root, builder⟩)
    {first : Route root middle} {second : Route middle leaf} {whole : PathExpression root leaf}
    {outer : PathExpression root middle} {inner : PathExpression middle leaf}
    (hwhole : whole.Denotes (first.trans second)) (houter : outer.Denotes first)
    (hinner : inner.Denotes second)
    (hnewWhole : ∀ entry ∈ ((after before).bench.draft builder).fields,
      entry.chain.keys ≠ (first.trans second).chain.keys)
    (hnewOuter : ∀ entry ∈ ((after before).bench.draft builder).fields,
      entry.chain.keys ≠ first.chain.keys) :
    (∃ child : Builder leaf,
      (atOnce before on whole config).handles[(after before).handles.length]? =
        some ⟨leaf, child⟩ ∧
      (inStages before on outer inner config).handles[(after before).handles.length + 1]? =
        some ⟨leaf, child.shift⟩) ∧
    ∃ single double, Describes (atOnce before on whole config).record builder single ∧
      Describes (inStages before on outer inner config).record builder double ∧
      ∀ value,
        (((atOnce before on whole config).bench.compile builder).run value).result =
          (((inStages before on outer inner config).bench.compile builder).run value).result ∧
        (((atOnce before on whole config).bench.compile builder).run value).quiet =
          (((inStages before on outer inner config).bench.compile builder).run value).quiet ∧
        (((atOnce before on whole config).bench.compile builder).run value).events =
          (single.acts value).flatMap Act.events ∧
        (((inStages before on outer inner config).bench.compile builder).run value).events =
          (double.acts value).flatMap Act.events ∧
        (single.acts value).filter Act.isEffect = (double.acts value).filter Act.isEffect := by
  have hstart := sound_after before
  have hknown := handle?_eq_some_iff.mpr hon
  have hholds := hstart.holds _ (mem_of_handle? hknown)
  have hparallel : Parallel (after before) builder whole outer inner
      (atOnce before on whole config) (inStages before on outer inner config) := by
    have hbegun := parallel_start hstart hknown hwhole houter hinner hnewWhole hnewOuter
    rw [atOnce, inStages, after_append, after_append]
    exact hbegun.foldl hstart hholds config
  refine ⟨⟨⟨(after before).bench.slots.length⟩, hparallel.leafHandle, ?_⟩, ?_⟩
  · have hleaf := (hparallel.getElem?_handles 0).1
    simp only [Nat.add_zero, hparallel.leafHandle, Option.map_some] at hleaf
    exact hleaf
  obtain ⟨single, double, hsingle, hdouble, halike⟩ :=
    hparallel.exists_alike hstart hholds hwhole houter hinner
  obtain ⟨hknownOnce, hknownTwice⟩ := hparallel.mem_handles (mem_of_handle? hknown)
  refine ⟨single, double, hsingle, hdouble, fun value => ?_⟩
  have honce : ((atOnce before on whole config).bench.compile builder).run value =
      single.run value := by
    rw [atOnce, compile_eq_plan hknownOnce hsingle, single.run_plan]
  have htwice : ((inStages before on outer inner config).bench.compile builder).run value =
      double.run value := by
    rw [inStages, compile_eq_plan hknownTwice hdouble, double.run_plan]
  have hquiet : (single.run value).quiet = (double.run value).quiet := halike.runs 0 value
  rw [honce, htwice]
  refine ⟨?_, hquiet, single.events_sequence 0 value, double.events_sequence 0 value,
    halike.acts 0 value⟩
  rw [← Run.result_quiet, hquiet, Run.result_quiet]

theorem split_path_runs_alike_recount :
    Goods.countPath.Denotes (Goods.itemRoute.trans Goods.itemCountRoute) ∧
    ((after [.new Goods.order]).bench.draft (⟨0⟩ : Builder Goods.order)).fields = [] ∧
    (∃ child : Builder Goods.count,
      (atOnce [.new .order] 0 Goods.countPath
        [.append .count 0 (.ok Goods.recountStep)]).handles[1]? = some ⟨.count, child⟩) ∧
    ∀ value, (((atOnce [.new .order] 0 Goods.countPath
        [.append .count 0 (.ok Goods.recountStep)]).bench.compile
          (⟨0⟩ : Builder Goods.order)).run value).quiet =
      (((inStages [.new .order] 0 Goods.itemPath Goods.itemCountPath
        [.append .count 0 (.ok Goods.recountStep)]).bench.compile
          (⟨0⟩ : Builder Goods.order)).run value).quiet := by
  have hon : (after [.new Goods.order]).handles[0]? = some ⟨.order, ⟨0⟩⟩ := rfl
  have hwhole : Goods.countPath.Denotes (Goods.itemRoute.trans Goods.itemCountRoute) :=
    Goods.countPath_denotes
  have hempty : ((after [.new Goods.order]).bench.draft (⟨0⟩ : Builder Goods.order)).fields = [] :=
    rfl
  obtain ⟨⟨child, hchild, -⟩, single, double, -, -, hruns⟩ := split_path_runs_alike
    [.new .order] [.append .count 0 (.ok Goods.recountStep)] hon hwhole
    Goods.itemPath_denotes Goods.itemCountPath_denotes (by simp [hempty]) (by simp [hempty])
  exact ⟨hwhole, hempty, ⟨child, hchild⟩, fun value => (hruns value).2.1⟩

end Session

end ValuePipeline
