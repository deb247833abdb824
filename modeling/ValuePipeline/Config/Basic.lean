import ValuePipeline.Config.Dictionary
import ValuePipeline.Config.Filter
import ValuePipeline.Config.Format
import ValuePipeline.Config.Rule
import ValuePipeline.Registry

/-!
# Configurations

A configuration holds what a document can say about pipelines: the policy for
types that are configured twice, how the journal is filtered and shown, and named
rule sets.
-/

namespace ValuePipeline

structure Logging where
  level : String := "info"
  targets : Dictionary String := ∅
  includeTarget : Bool := true
  useAnsi : Bool := true
  deriving DecidableEq

structure Config where
  duplicateTypes : DuplicatePolicy := .reject
  logging : Logging := {}
  rules : Dictionary RuleSet := ∅
  deriving DecidableEq

namespace Logging

def filterText (logging : Logging) : String :=
  logging.targets.entries.foldl
    (fun filter (target, level) => filter ++ "," ++ target ++ "=" ++ level) logging.level

def checkFilter (logging : Logging) : Except ConfigError Unit :=
  if Filter.isFilter logging.filterText then .ok () else .error .logging

/-- Sets the journal up.  This can be done once only. -/
def install (logging : Logging) (installed : Bool) : Except ConfigError Unit := do
  logging.checkFilter
  if installed then throw .logging

end Logging

namespace Config

variable (config : Config)

def registryBuilder (Ty : Type) : RegistryBuilder Ty :=
  { policy := config.duplicateTypes }

def ruleSet (name : String) : Except ConfigError RuleSet :=
  match config.rules.get? name with
  | some rules => .ok rules
  | none => .error (.unknownRuleSet name)

/-! ## Using rule sets -/

variable {R : Type} [Schema R] [DecidableEq R] {m : Type → Type} [Monad m]

/-- Work on the bench that may fail for want of a rule set, or as setting up can fail. -/
abbrev ConfigT (R : Type) [Schema R] (m : Type → Type) : Type → Type :=
  ExceptT ConfigError (StateT (Workbench (ValueType R)) m)

def ofSetup {α : Type} (work : SetupT (ValueType R) m α) : ConfigT R m α :=
  ExceptT.adapt .setup work

def applyRules (name : String) (builder : Builder (ValueType.text (R := R))) :
    ConfigT R m Unit := do
  let rules ← ExceptT.mk (pure (config.ruleSet name))
  ofSetup (rules.apply builder)

def stringSanitizer (name : String) :
    ConfigT R m (Sanitizer (ValueType.text (R := R))) := do
  let builder ← ofSetup (Builder.new ValueType.text)
  config.applyRules name builder
  return ⟨← ofSetup builder.build⟩

end Config

/-! ## The written form -/

def DuplicatePolicy.word : DuplicatePolicy → String
  | reject => "reject"
  | replace => "replace"

def DuplicatePolicy.ofWord? : String → Option DuplicatePolicy
  | "reject" => some reject
  | "replace" => some replace
  | _ => none

def Dictionary.written {α : Type} (dictionary : Dictionary α) (write : α → Value) : Value :=
  .record (dictionary.entries.map fun (name, value) => (name, write value))

def Logging.written (logging : Logging) : Value :=
  .record
    [("level", .text logging.level), ("targets", logging.targets.written .text),
      ("include_target", .bool logging.includeTarget), ("use_ansi", .bool logging.useAnsi)]

def Config.written (config : Config) : Value :=
  .record
    [("registry", .record [("duplicate_types", .text config.duplicateTypes.word)]),
      ("logging", config.logging.written), ("rules", config.rules.written RuleSet.written)]

end ValuePipeline
