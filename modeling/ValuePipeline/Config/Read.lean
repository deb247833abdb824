import ValuePipeline.Config.Basic
import ValuePipeline.Document.Record

/-!
# Reading configurations

Every member of a configuration may be left out and then has its default.  What a
document says beyond the members known here is passed over.
-/

namespace ValuePipeline.Reading

/-! ## Rules -/

inductive RuleMember where
  | operation (word : String)
  | setting (name value : Value)

def ruleMember (depth : Nat) (member : Node × Node) : Reading RuleMember := do
  match ← value depth member.1 with
  | .text "op" => return .operation (← text member.2)
  | name => return .setting name (← value depth member.2)

def RuleMember.operation? : RuleMember → Option String
  | operation word => some word
  | setting _ _ => none

def RuleMember.setting? : RuleMember → Option (Value × Value)
  | operation _ => none
  | setting name value => some (name, value)

/-- The rule that the members make; the operation must be named once. -/
def ruleOfMembers? (members : List RuleMember) : Option Rule :=
  match members.filterMap RuleMember.operation? with
  | [operation] => Rule.read? operation (.table (members.filterMap RuleMember.setting?))
  | _ => none

def rule (depth : Nat) (node : Node) : Reading Rule := do
  match ← follow node, depth with
  | .table members, depth + 1 => ofOption (ruleOfMembers? (← members.mapM (ruleMember depth)))
  | .list (operation :: settings), depth + 1 =>
      let operation ← text operation
      ofOption (Rule.read? operation (.list (← settings.mapM (value depth))))
  | _, _ => failure

/-! ## Sections -/

def levelsAboveRule : Nat := 4

def ruleSet (dialect : Dialect) (node : Node) : Reading RuleSet := do
  let fields ← record dialect ["steps"] node
  return ⟨← member fields "steps" [] fun steps => do
    (← items steps).mapM (rule (dialect.depth - levelsAboveRule))⟩

def dictionary {α : Type} (read : Node → Reading α) (node : Node) : Reading (Dictionary α) := do
  let entries ← (← members node).mapM fun (name, node) => do return (name, ← read node)
  return .ofList entries

def duplicatePolicy (dialect : Dialect) (node : Node) : Reading DuplicatePolicy := do
  ofOption (DuplicatePolicy.ofWord? (← word dialect node))

def registrySection (dialect : Dialect) (node : Node) : Reading DuplicatePolicy := do
  let fields ← record dialect ["duplicate_types"] node
  member fields "duplicate_types" .reject (duplicatePolicy dialect)

def loggingSection (dialect : Dialect) (node : Node) : Reading Logging := do
  let fields ← record dialect ["level", "targets", "include_target", "use_ansi"] node
  let default_ : Logging := {}
  return {
    level := ← member fields "level" default_.level text
    targets := ← member fields "targets" default_.targets (dictionary text)
    includeTarget := ← member fields "include_target" default_.includeTarget bool
    useAnsi := ← member fields "use_ansi" default_.useAnsi bool }

def config (dialect : Dialect) (node : Node) : Reading Config := do
  let fields ← record dialect ["registry", "logging", "rules"] node
  return {
    duplicateTypes := ← member fields "registry" .reject (registrySection dialect)
    logging := ← member fields "logging" {} (loggingSection dialect)
    rules := ← member fields "rules" ∅ (dictionary (ruleSet dialect)) }

end ValuePipeline.Reading
