import ValuePipeline.Proofs.Session
import ValuePipeline.Proofs.Setup

/-!
# Registering a path

A path is refused if it does not resolve, or if the builder has a path with the same keys
already; the keys are the types that declare the fields and the names of the fields, and
what reads and writes the fields plays no part.  A path that is refused changes nothing.
Any other path gets a new draft, and its entry comes after all others.  So registering a
path stands in the way of the same path on the same builder and of nothing else: not of
what is shorter or longer, and not of the path on another builder.
-/

namespace ValuePipeline

variable {Ty : Type} [TypeCode Ty] {type leaf : Ty}

def Draft.Has (draft : Draft type) (keys : List (FieldKey Ty)) : Prop :=
  ∃ entry ∈ draft.fields, entry.chain.keys = keys

theorem Draft.has_addField_iff {draft : Draft type} {entry : Entry type}
    {keys : List (FieldKey Ty)} :
    (draft.addField entry).Has keys ↔ draft.Has keys ∨ entry.chain.keys = keys := by
  simp [Has, addField, or_and_right, exists_or]

variable [DecidableEq Ty]

def Builder.ask (builder : Builder type) (path : PathExpression type leaf)
    (bench : Workbench Ty) : Except SetupError (Builder leaf) × Workbench Ty :=
  Setup.on (builder.addField path) bench

namespace Workbench

variable {bench : Workbench Ty} {builder : Builder type} {path : PathExpression type leaf}
variable {chain : Chain type leaf}

def Accepts (bench : Workbench Ty) (builder : Builder type) (path : PathExpression type leaf) :
    Prop :=
  ∃ child after, builder.ask path bench = (.ok child, after)

/-! ## The three answers -/

theorem ask_eq (bench : Workbench Ty) (builder : Builder type) (path : PathExpression type leaf) :
    builder.ask path bench =
      match bench.addField builder path with
      | .ok (child, after) => (.ok child, after)
      | .error error => (.error error, bench) :=
  builder.run_addField path bench

theorem ask_of_error {error : SetupError} (hresolve : resolve path = .error error) :
    builder.ask path bench = (.error error, bench) := by
  rw [ask_eq, addField_eq, hresolve]

theorem ask_of_has (hresolve : resolve path = .ok chain)
    (hhas : (bench.draft builder).Has chain.keys) :
    builder.ask path bench = (.error (.duplicateField chain.path), bench) := by
  have hany : ((bench.draft builder).fields.any
      fun entry => entry.chain.keys = chain.keys) = true := by
    simpa [Draft.Has] using hhas
  rw [ask_eq, addField_eq, hresolve]
  simp only [hany, if_true]

theorem ask_of_new (hresolve : resolve path = .ok chain)
    (hnew : ¬ (bench.draft builder).Has chain.keys) :
    builder.ask path bench = (.ok ⟨bench.slots.length⟩, bench.register builder chain) := by
  have hany : ((bench.draft builder).fields.any
      fun entry => entry.chain.keys = chain.keys) = false := by
    simpa [Draft.Has] using hnew
  rw [ask_eq, addField_eq, hresolve]
  simp only [hany, Bool.false_eq_true, if_false]

theorem ask_unchanged {error : SetupError}
    (hrefused : (builder.ask path bench).1 = .error error) :
    (builder.ask path bench).2 = bench := by
  rw [ask_eq] at hrefused ⊢
  cases hadd : bench.addField builder path with
  | ok added =>
      rw [hadd] at hrefused
      cases hrefused
  | error error => rfl

theorem accepts_of_new (hresolve : resolve path = .ok chain)
    (hnew : ¬ (bench.draft builder).Has chain.keys) : bench.Accepts builder path :=
  ⟨_, _, ask_of_new hresolve hnew⟩

/-! ## What a new path changes -/

/-- The child is new and empty, its entry is the last one of the builder, and all else is as it
was. -/
structure Registers (bench after : Workbench Ty) (builder : Builder type)
    (chain : Chain type leaf) (child : Builder leaf) : Prop where
  holds : after.Holds child
  fresh : ∀ {other : Ty} {handle : Builder other}, bench.Holds handle →
    handle.index ≠ child.index
  empty : after.draft child = {}
  entry : after.draft builder =
    { bench.draft builder with
      fields := (bench.draft builder).fields ++ [⟨leaf, chain, child.index⟩] }
  others : ∀ {other : Ty} {handle : Builder other}, bench.Holds handle →
    handle.index ≠ builder.index → after.draft handle = bench.draft handle

theorem registers_register (hholds : bench.Holds builder) (chain : Chain type leaf) :
    bench.Registers (bench.register builder chain) builder chain ⟨bench.slots.length⟩ where
  holds := holds_register hholds chain
  fresh hhandle := Nat.ne_of_lt hhandle.index_lt
  empty := draft_register_new hholds chain
  entry := by
    have hplaced := hholds.draft_place leaf
    rw [register, draft_note, draft_revise_self (hholds.place leaf), hplaced]
    rfl
  others hhandle hne := by
    rw [register, draft_note, draft_revise_ne _ hne.symm, hhandle.draft_place]

end Workbench

/-! ## Sessions -/

namespace Session

variable {calls : List (Call Ty)} {on : Nat} {builder : Builder type}

theorem after_refused_property
    (hon : (after calls).handles[on]? = some ⟨type, builder⟩) {path : PathExpression type leaf}
    {error : SetupError} (hrefused : (builder.ask path (after calls).bench).1 = .error error)
    (later : List (Call Ty)) :
    after (calls ++ .property on path :: later) = after (calls ++ later) := by
  have hknown := handle?_eq_some_iff.mpr hon
  rw [Workbench.ask_eq] at hrefused
  rw [after_append, after_append, List.foldl_cons, perform_property hknown]
  cases hadd : (after calls).bench.addField builder path with
  | ok answer =>
      rw [hadd] at hrefused
      cases hrefused
  | error error => rfl

/--
A path that does not resolve is refused for the reason it does not resolve for; one that
does is refused if and only if the builder has its keys already, and gets a new draft
otherwise.  What is refused changes nothing, at once or later.  Once a path has been
registered, its proper prefixes and extensions and the same path on other builders are
still taken where they are new.
-/
theorem property_answers (calls : List (Call Ty)) {on : Nat} {builder : Builder type}
    (hon : (after calls).handles[on]? = some ⟨type, builder⟩) (path : PathExpression type leaf) :
    let bench := (after calls).bench
    let answer := builder.ask path bench
    (∀ error, resolve path = .error error → answer.1 = .error error) ∧
    (∀ chain, resolve path = .ok chain →
      (answer.1 = .error (.duplicateField chain.path) ↔
        (bench.draft builder).Has chain.keys) ∧
      (¬ (bench.draft builder).Has chain.keys → ∃ child,
        answer.1 = .ok child ∧ bench.Registers answer.2 builder chain child)) ∧
    (∀ error, answer.1 = .error error → answer.2 = bench ∧
      ∀ later, after (calls ++ .property on path :: later) = after (calls ++ later)) ∧
    ∀ chain child, resolve path = .ok chain → answer.1 = .ok child →
      (∀ {part : Ty} (further : PathExpression type part) (next : Chain type part)
        (more : List (FieldKey Ty)), resolve further = .ok next → more ≠ [] →
        next.keys = chain.keys ++ more ∨ chain.keys = next.keys ++ more →
        ¬ (bench.draft builder).Has next.keys → answer.2.Accepts builder further) ∧
      ∀ other : Builder type, ⟨type, other⟩ ∈ (after calls).handles →
        other.index ≠ builder.index → ¬ (bench.draft other).Has chain.keys →
        answer.2.Accepts other path := by
  intro bench answer
  have hsound := sound_after calls
  have hholds : bench.Holds builder := hsound.holds _ (List.mem_of_getElem? hon)
  refine ⟨?_, ?_, ?_, ?_⟩
  · intro error hresolve
    simp only [answer, Workbench.ask_of_error hresolve]
  · intro chain hresolve
    by_cases hhas : (bench.draft builder).Has chain.keys
    · have hanswer := Workbench.ask_of_has hresolve hhas
      exact ⟨iff_of_true (congrArg Prod.fst hanswer) hhas, fun hnew => absurd hhas hnew⟩
    · simp only [answer, Workbench.ask_of_new hresolve hhas]
      exact ⟨iff_of_false nofun hhas,
        fun _ => ⟨_, rfl, Workbench.registers_register hholds chain⟩⟩
  · intro error hrefused
    exact ⟨Workbench.ask_unchanged hrefused, after_refused_property hon hrefused⟩
  · intro chain child hresolve haccepted
    have hnew : ¬ (bench.draft builder).Has chain.keys := by
      intro hhas
      simp only [answer, Workbench.ask_of_has hresolve hhas] at haccepted
      cases haccepted
    have hregisters := Workbench.registers_register hholds chain
    have hafter : answer.2 = bench.register builder chain := by
      simp only [answer, Workbench.ask_of_new hresolve hnew]
    rw [hafter]
    constructor
    · intro part further next more hfurther hmore hkeys hfree
      refine Workbench.accepts_of_new hfurther ?_
      rw [hregisters.entry]
      intro hhas
      rcases Draft.has_addField_iff.mp hhas with hbefore | hsame
      · exact hfree hbefore
      · rcases hkeys with hlonger | hshorter
        · exact hmore (List.append_right_eq_self.mp (hlonger.symm.trans hsame.symm))
        · exact hmore (List.append_right_eq_self.mp (hshorter.symm.trans hsame))
    · intro other hknown hne hfree
      refine Workbench.accepts_of_new hresolve ?_
      rw [hregisters.others (hsound.holds _ hknown) hne]
      exact hfree

end Session

namespace Goods

def watchedCountPath : PathExpression order count :=
  .field itemPath { countField.toField with watched := true }

def twoOrders : List (Call Goods) := [.new order, .new order, .property 0 countPath]

end Goods

namespace Session

theorem property_answers_twoOrders :
    (after Goods.twoOrders).handles[0]? = some ⟨.order, ⟨0⟩⟩ ∧
      (after Goods.twoOrders).handles[1]? = some ⟨.order, ⟨1⟩⟩ ∧
      ((⟨0⟩ : Builder Goods.order).ask Goods.watchedCountPath (after Goods.twoOrders).bench).1 =
        .error (.duplicateField "item.count") ∧
      (∃ child, ((⟨0⟩ : Builder Goods.order).ask Goods.itemPath
        (after Goods.twoOrders).bench).1 = .ok child) ∧
      ∃ child, ((⟨1⟩ : Builder Goods.order).ask Goods.watchedCountPath
        (after Goods.twoOrders).bench).1 = .ok child := by
  have hfirst : (after Goods.twoOrders).handles[0]? = some ⟨.order, ⟨0⟩⟩ := rfl
  have hsecond : (after Goods.twoOrders).handles[1]? = some ⟨.order, ⟨1⟩⟩ := rfl
  have hwatched : resolve Goods.watchedCountPath =
      .ok ⟨[Goods.itemField.descriptor,
        .ofField { Goods.countField.toField with watched := true }]⟩ := rfl
  obtain ⟨-, hduplicate, -⟩ := property_answers Goods.twoOrders hfirst Goods.watchedCountPath
  obtain ⟨-, hshorter, -⟩ := property_answers Goods.twoOrders hfirst Goods.itemPath
  obtain ⟨-, hother, -⟩ := property_answers Goods.twoOrders hsecond Goods.watchedCountPath
  refine ⟨hfirst, hsecond, ?_, ?_, ?_⟩
  · exact (hduplicate _ hwatched).1.mpr ⟨_, List.mem_singleton_self _, rfl⟩
  · have hnew : ¬ ((after Goods.twoOrders).bench.draft (⟨0⟩ : Builder Goods.order)).Has
        Goods.itemRoute.chain.keys := by
      rintro ⟨entry, hentry, hkeys⟩
      obtain rfl := List.mem_singleton.mp hentry
      cases hkeys
    obtain ⟨child, hchild, -⟩ := (hshorter _ Goods.itemPath_denotes.resolve_eq).2 hnew
    exact ⟨child, hchild⟩
  · obtain ⟨child, hchild, -⟩ := (hother _ hwatched).2 (by rintro ⟨entry, hentry, -⟩; cases hentry)
    exact ⟨child, hchild⟩

end Session

end ValuePipeline
