import ValuePipeline.Config.Basic
import ValuePipeline.Proofs.Assembly
import ValuePipeline.Proofs.Rules

/-!
# Ways to a sanitizer

A function that configures a builder can be given a new builder that is compiled
afterwards; it can be given to a registry, whose sanitizer for the type is then looked
up, alone or after others; and it can be given to `create`.  Each way has the same
answer, whether the function succeeds or fails half-way, and the drafts are left alike;
only what is noted in the journal differs.  The short ways, for a single step and for a
rule set by its name, are cases of this.
-/

namespace ValuePipeline

variable {Ty : Type} [TypeCode Ty] {type : Ty} {α : Type}

/-! ## Work that comes to the same -/

/-- The same answer or failure, and the same drafts left behind. -/
structure Setup.Agrees (work other : Setup Ty α) (bench : Workbench Ty) : Prop where
  answer : (on work bench).1 = (on other bench).1
  drafts : (on work bench).2.slots = (on other bench).2.slots

theorem Setup.Agrees.symm {work other : Setup Ty α} {bench : Workbench Ty}
    (hagrees : work.Agrees other bench) : other.Agrees work bench :=
  ⟨hagrees.answer.symm, hagrees.drafts.symm⟩

variable [DecidableEq Ty]

def Sanitizer.direct (type : Ty) (body : Builder type → Setup Ty Unit) :
    Setup Ty (Sanitizer type) := do
  let builder ← Builder.new type
  body builder
  return ⟨← builder.build⟩

/-- The function is called on a builder of the registry's, which is then built and asked for the
type. -/
def RegistryBuilder.lookedUp (registry : RegistryBuilder Ty) (type : Ty)
    (configure : RegistryBuilder Ty → Setup Ty (RegistryBuilder Ty)) :
    Setup Ty (Sanitizer type) := do
  let built ← (← configure registry).build
  SetupT.ofExcept (built.sanitizer type)

def Registry.lookedUp (type : Ty)
    (configure : RegistryBuilder Ty → Setup Ty (RegistryBuilder Ty)) :
    Setup Ty (Sanitizer type) := do
  let registry ← Registry.configure configure
  SetupT.ofExcept (registry.sanitizer type)

theorem Sanitizer.on_direct (body : Builder type → Setup Ty Unit) (bench : Workbench Ty) :
    Setup.on (Sanitizer.direct type body) bench =
      match Setup.on (body (bench.place type).1) (bench.place type).2 with
      | (.error error, after) => (.error error, after)
      | (.ok _, after) =>
          (.ok ⟨after.compile (bench.place type).1⟩,
            after.note (after.compile (bench.place type).1).notices) := by
  simp only [direct, Setup.on_bind, Setup.on_new, Setup.on_build, Setup.on_pure]
  rcases Setup.on (body (bench.place type).1) (bench.place type).2 with ⟨_ | _, after⟩ <;> rfl

namespace RegistryBuilder

variable {registry : RegistryBuilder Ty}

omit [TypeCode Ty] in
theorem mem_insert (registry : RegistryBuilder Ty) (entry : Pending Ty) :
    entry ∈ (registry.insert entry).pending :=
  mem_insert_iff.mpr (.inl rfl)

theorem sanitizer_insert (htypes : (registry.pending.map Pending.type).Nodup)
    (builder : Builder type) (bench : Workbench Ty) :
    ((registry.insert ⟨type, builder⟩).compiled bench).sanitizer type =
      .ok ⟨bench.compile builder⟩ := by
  have hpending := registry.mem_insert ⟨type, builder⟩
  rw [Registry.sanitizer, sanitizer?_compiled (nodup_types_insert htypes) hpending]

theorem on_lookedUp (htypes : (registry.pending.map Pending.type).Nodup)
    (haccepts : ¬ (registry.policy = .reject ∧ registry.contains type))
    (body : Builder type → Setup Ty Unit) (bench : Workbench Ty) :
    ∃ notices, Setup.on (registry.lookedUp type (·.configure type body)) bench =
      match Setup.on (body (bench.place type).1) (bench.place type).2 with
      | (.error error, after) => (.error error, after)
      | (.ok _, after) =>
          (.ok ⟨after.compile (bench.place type).1⟩, after.note notices) := by
  simp only [lookedUp, Setup.on_bind, on_configure, if_neg haccepts]
  rcases Setup.on (body (bench.place type).1) (bench.place type).2 with ⟨error | _, after⟩
  · exact ⟨[], rfl⟩
  · obtain ⟨notices, hbuild⟩ := (registry.insert ⟨type, (bench.place type).1⟩).on_build
      (after.note [.typeRegistered (TypeCode.name type) (registry.contains type)])
    refine ⟨[.typeRegistered (TypeCode.name type) (registry.contains type)] ++ notices, ?_⟩
    simp only [hbuild, Setup.on_ofExcept, sanitizer_insert htypes, Workbench.compile_note,
      Workbench.note_note]

theorem lookedUp_agrees (htypes : (registry.pending.map Pending.type).Nodup)
    (haccepts : ¬ (registry.policy = .reject ∧ registry.contains type))
    (body : Builder type → Setup Ty Unit) (bench : Workbench Ty) :
    (registry.lookedUp type (·.configure type body)).Agrees (Sanitizer.direct type body)
      bench := by
  obtain ⟨notices, hregistry⟩ := on_lookedUp htypes haccepts body bench
  have hdirect := Sanitizer.on_direct body bench
  constructor
  all_goals
    rw [hregistry, hdirect]
    rcases Setup.on (body (bench.place type).1) (bench.place type).2 with ⟨_ | _, after⟩ <;> rfl

end RegistryBuilder

theorem Registry.lookedUp_eq (configure : RegistryBuilder Ty → Setup Ty (RegistryBuilder Ty)) :
    Registry.lookedUp type configure = ({} : RegistryBuilder Ty).lookedUp type configure := by
  simp only [lookedUp, Registry.configure, RegistryBuilder.lookedUp, bind_assoc]

theorem Sanitizer.create_eq (body : Builder type → Setup Ty Unit) :
    Sanitizer.create type body =
      ({} : RegistryBuilder Ty).lookedUp type (·.configure type body) :=
  Registry.lookedUp_eq _

theorem Sanitizer.ofStep_eq (step : Step (Carrier type)) :
    (Sanitizer.ofStep step : Setup Ty (Sanitizer type)) = Sanitizer.direct type (·.addStep step) :=
  rfl

/-! ## Rule sets by name -/

namespace Config

variable {R : Type} [Schema R]

variable {β : Type} {config : Config} {name : String} {bench : Workbench (ValueType R)}

def on (work : ConfigT R Id α) (bench : Workbench (ValueType R)) :
    Except ConfigError α × Workbench (ValueType R) :=
  (work.run.run bench).run

theorem on_bind (work : ConfigT R Id α) (further : α → ConfigT R Id β) :
    on (work >>= further) bench =
      match on work bench with
      | (.ok a, after) => on (further a) after
      | (.error error, after) => (.error error, after) := by
  simp only [on, ExceptT.run_bind, StateT.run_bind, Id.run_bind]
  rcases (work.run.run bench).run with ⟨_ | _, after⟩ <;> rfl

theorem on_ofSetup (work : Setup (ValueType R) α) :
    on (ofSetup work) bench =
      ((Setup.on work bench).1.mapError .setup, (Setup.on work bench).2) := by
  change (match (work.run.run bench).run with | (answer, after) => _) = _
  rcases (work.run.run bench).run with ⟨_ | _, after⟩ <;> rfl

variable [DecidableEq R]

theorem on_applyRules_of_missing (hmissing : config.rules.get? name = none)
    (builder : Builder (ValueType.text (R := R))) :
    on (config.applyRules name builder) bench = (.error (.unknownRuleSet name), bench) := by
  rw [applyRules, ruleSet, hmissing]
  rfl

theorem on_applyRules_of_found {set : RuleSet} (hfound : config.rules.get? name = some set)
    (builder : Builder (ValueType.text (R := R))) :
    on (config.applyRules name builder) bench = on (ofSetup (set.apply builder)) bench := by
  rw [applyRules, ruleSet, hfound]
  rfl

theorem on_stringSanitizer_of_missing (hmissing : config.rules.get? name = none) :
    (on (config.stringSanitizer name) bench).1 = .error (.unknownRuleSet name) := by
  simp only [stringSanitizer, on_bind, on_ofSetup, Setup.on_new, Except.mapError,
    on_applyRules_of_missing hmissing]

theorem on_stringSanitizer_of_found {set : RuleSet}
    (hfound : config.rules.get? name = some set) :
    (on (config.stringSanitizer name) bench).1 =
      (Setup.on (Sanitizer.direct ValueType.text set.apply) bench).1.mapError .setup := by
  simp only [stringSanitizer, on_bind, on_ofSetup, Setup.on_new, Except.mapError,
    on_applyRules_of_found hfound, Sanitizer.on_direct]
  rcases Setup.on (set.apply (bench.place ValueType.text).1) _ with ⟨_ | _, after⟩ <;> rfl

end Config

/-! ## All ways agree -/

namespace Sanitizer

theorem create_agrees (body : Builder type → Setup Ty Unit) (bench : Workbench Ty) :
    Setup.Agrees (Sanitizer.create type body) (Sanitizer.direct type body) bench := by
  have htypes : (({} : RegistryBuilder Ty).pending.map Pending.type).Nodup := List.nodup_nil
  have haccepts : ¬ (({} : RegistryBuilder Ty).policy = .reject ∧
      ({} : RegistryBuilder Ty).contains type) := by
    simp [RegistryBuilder.contains]
  rw [create_eq]
  exact RegistryBuilder.lookedUp_agrees htypes haccepts body bench

/--
A function that configures a builder leads to the same sanitizer, or to the same failure,
if it is called directly, by `create`, or through a registry, whatever was configured
there before; a single step does so too.  A rule set that is named leads to the sanitizer
that `create` makes of it, and only a name that is not known is refused as such.
-/
theorem ways_agree {R : Type} [Schema R] [DecidableEq R] (type : Ty)
    (body : Builder type → Setup Ty Unit) (bench : Workbench Ty) (config : Config)
    (name : String) (shelf : Workbench (ValueType R)) :
    (Setup.Agrees (Sanitizer.create type body) (Sanitizer.direct type body) bench ∧
      (Registry.lookedUp type (·.configure type body)).Agrees (Sanitizer.direct type body)
        bench ∧
      ∀ requests : List (Request Ty),
        let registry := (Assembly.after requests).registry
        ¬ (registry.policy = .reject ∧ registry.contains type) →
        (registry.lookedUp type (·.configure type body)).Agrees (Sanitizer.direct type body)
          bench) ∧
    (∀ step : Step (Carrier type),
      Setup.Agrees (Sanitizer.ofStep step) (Sanitizer.create type (·.addStep step)) bench ∧
      (Registry.lookedUp type (·.configureWith type step)).Agrees
        (Sanitizer.create type (·.addStep step)) bench) ∧
    (∀ set, config.rules.get? name = some set →
      (Config.on (config.stringSanitizer name) shelf).1 =
        (Setup.on (Sanitizer.create ValueType.text set.apply) shelf).1.mapError .setup) ∧
    ∀ other, (Config.on (config.stringSanitizer name) shelf).1 =
        .error (.unknownRuleSet other) ↔
      other = name ∧ config.rules.get? name = none := by
  refine ⟨⟨create_agrees body bench, ?_, ?_⟩, ?_, ?_, ?_⟩
  · rw [Registry.lookedUp_eq, ← create_eq]
    exact create_agrees body bench
  · intro requests registry haccepts
    have hkeeps := (Assembly.sound_after requests).entries
    exact RegistryBuilder.lookedUp_agrees hkeeps.types haccepts body bench
  · intro step
    have hcreate : Setup.Agrees (Sanitizer.create type (·.addStep step))
        (Sanitizer.direct type (·.addStep step)) bench := create_agrees _ bench
    constructor
    · rw [ofStep_eq]
      exact hcreate.symm
    · rw [Registry.lookedUp_eq, create_eq]
      exact ⟨rfl, rfl⟩
  · intro set hfound
    rw [Config.on_stringSanitizer_of_found hfound, (create_agrees set.apply shelf).answer]
  · intro other
    cases hrules : config.rules.get? name with
    | none =>
        rw [Config.on_stringSanitizer_of_missing hrules]
        simp [eq_comm]
    | some set =>
        rw [Config.on_stringSanitizer_of_found hrules]
        refine iff_of_false ?_ (by simp)
        cases (Setup.on (Sanitizer.direct ValueType.text set.apply) shelf).1 <;> nofun

end Sanitizer

namespace Goods

def halfDone (builder : Builder order) : Setup Goods Unit := do
  builder.addStep renumberStep
  let child ← builder.addField countPath
  child.addStep recountStep
  let _ ← builder.addField countPath

end Goods

namespace Sanitizer

def named : Config := { rules := Dictionary.insert ∅ "short" RuleSet.shortened }

theorem ways_agree_halfDone :
    ¬ ((Assembly.after Goods.stocked).registry.policy = .reject ∧
        (Assembly.after Goods.stocked).registry.contains Goods.order) ∧
      (Setup.on ((Assembly.after Goods.stocked).registry.lookedUp Goods.order
        (·.configure Goods.order Goods.halfDone)) {}).1 = .error (.duplicateField "item.count") ∧
      (Setup.on (Sanitizer.create Goods.order Goods.halfDone) {}).1 =
        .error (.duplicateField "item.count") ∧
      (Config.on (named.stringSanitizer (R := Empty) "short") {}).1 =
        .error (.setup (.invalidSettings (.invalidPattern "(" .groupUnclosed))) ∧
      (Config.on (named.stringSanitizer (R := Empty) "long") {}).1 =
        .error (.unknownRuleSet "long") := by
  have hdirect : (Setup.on (Sanitizer.direct Goods.order Goods.halfDone) {}).1 =
      .error (.duplicateField "item.count") := rfl
  have haccepts : ¬ ((Assembly.after Goods.stocked).registry.policy = .reject ∧
      (Assembly.after Goods.stocked).registry.contains Goods.order) := by decide
  have hshort : named.rules.get? "short" = some RuleSet.shortened := rfl
  have hrefused : (Setup.on (Sanitizer.direct (ValueType.text (R := Empty))
      RuleSet.shortened.apply) {}).1 =
        .error (.invalidSettings (.invalidPattern "(" .groupUnclosed)) := rfl
  obtain ⟨⟨hcreate, -, hregistry⟩, -, hfound, -⟩ :=
    ways_agree (R := Empty) Goods.order Goods.halfDone {} named "short" {}
  obtain ⟨-, -, -, hmissing⟩ :=
    ways_agree (R := Empty) Goods.order Goods.halfDone {} named "long" {}
  refine ⟨haccepts, ?_, hcreate.answer.trans hdirect, ?_, ?_⟩
  · exact (hregistry Goods.stocked haccepts).answer.trans hdirect
  · rw [hfound _ hshort, (create_agrees _ _).answer, hrefused]
    rfl
  · exact (hmissing "long").mpr ⟨rfl, rfl⟩

end Sanitizer

end ValuePipeline
