import ValuePipeline.Proofs.Tree

/-!
# Steps that compute exactly

A value may stand for something simpler, as a length of time stands for a number of
nanoseconds.  A faithful step does to the value what an exact operation does to what the
value stands for; where the result is out of range it fails and leaves the value.  A run
of faithful steps succeeds if no result on the way is out of range.  Otherwise the first
that is ends it, and the value before it is left.
-/

namespace ValuePipeline

structure Reckoning (α M σ : Type) where
  Stands : α → M → Prop
  InRange : M → Prop
  step : σ → Step α
  exact : σ → M → M
  failure : σ → Failure

namespace Reckoning

variable {α M σ : Type} (r : Reckoning α M σ) {ops : List σ} {op : σ} {a : α} {m : M}

def total (ops : List σ) (m : M) : M := ops.foldl (fun m op => r.exact op m) m

def Stays (ops : List σ) (m : M) : Prop := ∀ done, done <+: ops → r.InRange (r.total done m)

structure Faithful (op : σ) : Prop where
  of_inRange {a : α} {m : M} (hstands : r.Stands a m) (hin : r.InRange (r.exact op m)) :
    ∃ b, r.Stands b (r.exact op m) ∧ (r.step op).apply a = .done (.ok b)
  of_not_inRange {a : α} {m : M} (hstands : r.Stands a m) (hout : ¬ r.InRange (r.exact op m)) :
    (r.step op).apply a = .done (.failed a (r.failure op))

/-- How a run ends that starts on a value for `m`. -/
structure Ends (ops : List σ) (m : M) (outcome : Outcome α) : Prop where
  succeeds_iff : outcome.failure = none ↔ r.Stays ops m
  stands : r.Stays ops m → r.Stands outcome.value (r.total ops m)
  fails : ¬ r.Stays ops m → ∃ done op rest, ops = done ++ op :: rest ∧
    r.Stays done m ∧ ¬ r.InRange (r.exact op (r.total done m)) ∧
    r.Stands outcome.value (r.total done m) ∧ outcome.failure = some (r.failure op)

@[simp] theorem total_nil : r.total [] m = m := rfl

@[simp] theorem total_cons : r.total (op :: ops) m = r.total ops (r.exact op m) := rfl

theorem measure_total (measure : M → Int) (weight : σ → Int)
    (hexact : ∀ op m, measure (r.exact op m) = measure m + weight op) (ops : List σ) (m : M) :
    measure (r.total ops m) = measure m + (ops.map weight).foldr (· + ·) 0 := by
  induction ops generalizing m with
  | nil => simp
  | cons op ops ih =>
      rw [total_cons, ih, hexact, List.map_cons, List.foldr_cons, Int.add_assoc]

@[simp] theorem stays_nil : r.Stays [] m ↔ r.InRange m := by
  simp [Stays]

theorem stays_cons : r.Stays (op :: ops) m ↔ r.InRange m ∧ r.Stays ops (r.exact op m) := by
  constructor
  · intro hstays
    refine ⟨hstays [] List.nil_prefix, fun done hdone => ?_⟩
    exact hstays (op :: done) (List.cons_prefix_cons.mpr ⟨rfl, hdone⟩)
  · rintro ⟨hin, hstays⟩ done hdone
    rcases List.prefix_cons_iff.mp hdone with rfl | ⟨later, rfl, hlater⟩
    · exact hin
    · exact hstays later hlater

variable {r}

theorem Ends.cons {outcome : Outcome α} (hin : r.InRange m)
    (hends : r.Ends ops (r.exact op m) outcome) : r.Ends (op :: ops) m outcome where
  succeeds_iff := by rw [hends.succeeds_iff, stays_cons, and_iff_right hin]
  stands hstays := hends.stands (r.stays_cons.mp hstays).2
  fails hleaves := by
    rw [stays_cons, and_iff_right hin] at hleaves
    obtain ⟨done, last, rest, rfl, hdone, hout⟩ := hends.fails hleaves
    exact ⟨op :: done, last, rest, rfl, r.stays_cons.mpr ⟨hin, hdone⟩, hout⟩

theorem Ends.of_out (hin : r.InRange m) (hstands : r.Stands a m)
    (hout : ¬ r.InRange (r.exact op m)) :
    r.Ends (op :: ops) m (.failed a (r.failure op)) := by
  have hleaves : ¬ r.Stays (op :: ops) m := fun hstays =>
    hout ((r.stays_cons.mp hstays).2 [] List.nil_prefix)
  exact
    { succeeds_iff := iff_of_false nofun hleaves
      stands := fun hstays => absurd hstays hleaves
      fails := fun _ => ⟨[], op, ops, rfl, r.stays_nil.mpr hin, hout, hstands, rfl⟩ }

theorem ends_leave (hfaithful : ∀ op ∈ ops, r.Faithful op) (hin : r.InRange m)
    (hstands : r.Stands a m) : r.Ends ops m (Step.leave (ops.map r.step) a) := by
  induction ops generalizing a m with
  | nil =>
      exact
        { succeeds_iff := iff_of_true rfl (r.stays_nil.mpr hin)
          stands := fun _ => hstands
          fails := fun hleaves => absurd (r.stays_nil.mpr hin) hleaves }
  | cons op ops ih =>
      obtain ⟨hop, hops⟩ := List.forall_mem_cons.mp hfaithful
      rw [List.map_cons, Step.leave]
      by_cases hnext : r.InRange (r.exact op m)
      · obtain ⟨b, hb, happly⟩ := hop.of_inRange hstands hnext
        rw [happly]
        exact (ih hops hnext hb).cons hin
      · rw [hop.of_not_inRange hstands hnext]
        exact .of_out hin hstands hnext

/-! ## Faithful steps -/

theorem Faithful.of_total {f : α → α} (hstep : ∀ a, (r.step op).apply a = .done (.ok (f a)))
    (hin : ∀ {a m}, r.Stands a m → r.InRange m)
    (hf : ∀ {a m}, r.Stands a m → r.Stands (f a) (r.exact op m)) : r.Faithful op where
  of_inRange hstands _ := ⟨_, hf hstands, hstep _⟩
  of_not_inRange hstands hout := absurd (hin (hf hstands)) hout

theorem Faithful.of_partial {f : α → Option α}
    (hsome : ∀ {a b}, f a = some b → (r.step op).apply a = .done (.ok b))
    (hnone : ∀ {a}, f a = none → (r.step op).apply a = .done (.failed a (r.failure op)))
    (hin : ∀ {m}, r.InRange m ↔ ∃ a, r.Stands a m)
    (hf : ∀ {a m b}, r.Stands a m → (f a = some b ↔ r.Stands b (r.exact op m))) :
    r.Faithful op where
  of_inRange hstands hnext := by
    obtain ⟨b, hb⟩ := hin.mp hnext
    exact ⟨b, hb, hsome ((hf hstands).mpr hb)⟩
  of_not_inRange hstands hout := by
    refine hnone (Option.eq_none_iff_forall_ne_some.mpr fun b hb => hout ?_)
    exact hin.mpr ⟨b, (hf hstands).mp hb⟩

end Reckoning

/-! ## Plans of steps alone -/

section Plans

variable {Ty : Type} [TypeCode Ty] [DecidableEq Ty] (type : Ty)

theorem Plan.result_run_steps (steps : List (Step (Carrier type))) (value : Carrier type) :
    ((ofParts steps .finish).run value).result = Step.leave steps value := by
  rw [run, result_runFrom_ofParts, Outcome.andThen]
  cases hfailure : (Step.leave steps value).failure with
  | none =>
      change Outcome.ok _ = _
      rw [Outcome.ok, ← hfailure]
  | some failure => rfl

theorem Reckoning.ends_run {M σ : Type} (r : Reckoning (Carrier type) M σ) {ops : List σ}
    {value : Carrier type} {m : M} (hfaithful : ∀ op ∈ ops, r.Faithful op) (hin : r.InRange m)
    (hstands : r.Stands value m) :
    r.Ends ops m ((Plan.ofParts (ops.map r.step) .finish).run value).result := by
  rw [Plan.result_run_steps]
  exact ends_leave hfaithful hin hstands

end Plans

end ValuePipeline
