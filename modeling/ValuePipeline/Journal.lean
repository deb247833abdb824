import ValuePipeline.Run

/-!
# The journal

What is said about a pipeline while it is put together, and about each step while
it runs, is a log record: a level, a message and named values.
-/

namespace ValuePipeline

inductive Level where
  | debug
  | trace
  deriving DecidableEq, Repr

def Level.label : Level → String
  | debug => "DEBUG"
  | trace => "TRACE"

structure LogRecord where
  level : Level
  message : String
  values : List (String × String)
  deriving DecidableEq, Repr

inductive Notice where
  | fieldRegistered (type path : String) (depth : Nat)
  | planCompiled (type : String) (steps fields : Nat)
  | typeRegistered (type : String) (replaced : Bool)
  | registryBuilt (types : Nat)
  | configurationLoaded (path format : String) (ruleSets : Nat)
  deriving DecidableEq, Repr

def Notice.record : Notice → LogRecord
  | fieldRegistered type path depth =>
      ⟨.debug, "Registered field pipeline",
        [("target_type", type), ("field", path), ("depth", toString depth)]⟩
  | planCompiled type steps fields =>
      ⟨.debug, "Compiled pipeline",
        [("target_type", type), ("transforms", toString steps), ("fields", toString fields)]⟩
  | typeRegistered type replaced =>
      ⟨.debug, "Registered type pipeline",
        [("target_type", type), ("replaced", if replaced then "true" else "false")]⟩
  | registryBuilt types =>
      ⟨.debug, "Built sanitizer registry", [("types", toString types)]⟩
  | configurationLoaded path format ruleSets =>
      ⟨.debug, "Loaded hygiene configuration",
        [("path", path), ("format", format), ("rule_sets", toString ruleSets)]⟩

def Event.record? : Event → Option LogRecord
  | applying type index step =>
      some ⟨.trace, "Applying step",
        [("target_type", type), ("step", toString index), ("transform", step)]⟩
  | _ => none

end ValuePipeline
