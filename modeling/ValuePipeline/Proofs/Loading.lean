import ValuePipeline.Config.Load
import ValuePipeline.Proofs.RuleReading

/-!
# Loading gives back what was written

A configuration is told by its written form: by all of it, or without members that are as
they are by default, at any depth and in any order, with members of other names among
them.  Whichever way it is told, reading the tree gives the configuration back.
-/

namespace ValuePipeline

/-! ## How configurations are told -/

/-- The members of sections that are unknown are passed over, whatever they are. -/
def anyNode : Node → Prop := fun _ => True

def registryMembers : List Member := [.scalar ("duplicate_types", some (.text "reject"))]

def loggingMembers : List Member :=
  [.scalar ("level", some (.text "info")),
    { name := "targets", default? := some (.record []), Tells := TellsDictionary TellsScalar },
    .scalar ("include_target", some (.bool true)), .scalar ("use_ansi", some (.bool true))]

def ruleSetMembers (depth : Nat) : List Member :=
  [{ name := "steps", default? := some (.list []), Tells := TellsList (TellsRule depth) }]

def configMembers (depth : Nat) : List Member :=
  [{ name := "registry", default? := some (.record [("duplicate_types", .text "reject")]),
     Tells := TellsRecord registryMembers anyNode },
    { name := "logging", default? := some (Logging.written {}),
      Tells := TellsRecord loggingMembers anyNode },
    { name := "rules", default? := some (.record []),
      Tells := TellsDictionary (TellsRecord (ruleSetMembers depth) anyNode) }]

/-! ## Defaults -/

theorem Dictionary.eq_empty_of_written {α : Type} {entries : Dictionary α} {write : α → Value}
    (hempty : entries.written write = .record []) : entries = ∅ := by
  have hnone := Value.record_injective hempty
  exact Dictionary.ext_entries (List.map_eq_nil_iff.mp hnone)

theorem Logging.eq_default_of_written {logging : Logging}
    (hdefault : logging.written = Logging.written {}) : logging = {} := by
  obtain ⟨level, targets, includeTarget, useAnsi⟩ := logging
  have hmembers := Value.record_injective hdefault
  simp only [List.cons.injEq, Prod.mk.injEq, Value.text.injEq, Value.bool.injEq, true_and,
    and_true] at hmembers
  obtain ⟨rfl, htargets, rfl, rfl⟩ := hmembers
  obtain rfl := Dictionary.eq_empty_of_written htargets
  rfl

theorem DuplicatePolicy.ofWord?_word (policy : DuplicatePolicy) :
    ofWord? policy.word = some policy := by
  cases policy <;> rfl

theorem DuplicatePolicy.word_injective : Function.Injective word := by
  intro policy other hsame
  have hread := congrArg ofWord? hsame
  simpa [ofWord?_word] using hread

/-! ## Reading sections -/

namespace Reading

variable (dialect : Dialect)

theorem recovers_duplicatePolicy :
    Recovers TellsScalar (fun policy => .text policy.word) (duplicatePolicy dialect) := by
  rintro policy node ⟨⟩
  have hword : word dialect (.text policy.word) = pure policy.word := rfl
  rw [duplicatePolicy, hword, pure_bind, DuplicatePolicy.ofWord?_word]
  rfl

theorem recovers_registrySection :
    Recovers (TellsRecord registryMembers anyNode)
      (fun policy => .record [("duplicate_types", .text policy.word)])
      (registrySection dialect) := by
  intro policy node htells
  obtain ⟨fields, hrecord, hfound⟩ := exists_record_eq htells (by decide) dialect
  obtain _ | ⟨hpolicy, -⟩ := hfound
  have hrecord : record dialect ["duplicate_types"] node = pure fields := hrecord
  have hread : member fields "duplicate_types" .reject (duplicatePolicy dialect) = pure policy :=
    member_eq (recovers_duplicatePolicy dialect) hpolicy fun hdefault =>
      DuplicatePolicy.word_injective (Value.text.inj (Option.some.inj hdefault))
  simp only [registrySection, hrecord, hread, pure_bind]

theorem recovers_loggingSection :
    Recovers (TellsRecord loggingMembers anyNode) Logging.written (loggingSection dialect) := by
  intro logging node htells
  obtain ⟨fields, hrecord, hfound⟩ := exists_record_eq htells (by decide) dialect
  obtain _ | ⟨hlevel, _ | ⟨htargets, _ | ⟨hincludeTarget, _ | ⟨huseAnsi, -⟩⟩⟩⟩ := hfound
  have hrecord : record dialect ["level", "targets", "include_target", "use_ansi"] node =
      pure fields := hrecord
  have hlevel : member fields "level" "info" text = pure logging.level :=
    member_eq recovers_text hlevel fun hdefault => by simpa using hdefault
  have htargets : member fields "targets" ∅ (dictionary text) = pure logging.targets :=
    member_eq (recovers_dictionary recovers_text) htargets fun hdefault =>
      (Dictionary.eq_empty_of_written (Option.some.inj hdefault).symm).symm
  have hincludeTarget :
      member fields "include_target" true bool = pure logging.includeTarget :=
    member_eq recovers_bool hincludeTarget fun hdefault => by simpa using hdefault
  have huseAnsi : member fields "use_ansi" true bool = pure logging.useAnsi :=
    member_eq recovers_bool huseAnsi fun hdefault => by simpa using hdefault
  simp only [loggingSection, hrecord, pure_bind, hlevel, htargets, hincludeTarget, huseAnsi]

variable {dialect} {depth : Nat}

theorem recovers_ruleSet (hdepth : dialect.depth - levelsAboveRule = depth + 1) :
    Recovers (TellsRecord (ruleSetMembers depth) anyNode) RuleSet.written (ruleSet dialect) := by
  intro rules node htells
  obtain ⟨fields, hrecord, hfound⟩ := exists_record_eq htells (by simp [ruleSetMembers]) dialect
  obtain _ | ⟨hsteps, -⟩ := hfound
  have hrecord : record dialect ["steps"] node = pure fields := hrecord
  have hrule : Recovers (TellsRule depth) Rule.written (rule (depth + 1)) := fun _ _ => rule_eq
  have hsteps : member fields "steps" [] (fun steps => do
      (← items steps).mapM (rule (depth + 1))) = pure rules.rules :=
    member_eq (recovers_list hrule) hsteps fun hdefault => by simpa using hdefault
  simp only [ruleSet, hrecord, pure_bind, hdepth, hsteps]

theorem recovers_config (hdepth : dialect.depth - levelsAboveRule = depth + 1) :
    Recovers (TellsRecord (configMembers depth) anyNode) Config.written (config dialect) := by
  intro config node htells
  obtain ⟨fields, hrecord, hfound⟩ := exists_record_eq htells (by simp [configMembers]) dialect
  obtain _ | ⟨hregistry, _ | ⟨hlogging, _ | ⟨hrules, -⟩⟩⟩ := hfound
  have hrecord : record dialect ["registry", "logging", "rules"] node = pure fields := hrecord
  have hregistry : member fields "registry" .reject (registrySection dialect) =
      pure config.duplicateTypes :=
    member_eq (recovers_registrySection dialect) hregistry fun hdefault => by
      have hword := Value.record_injective (Option.some.inj hdefault)
      exact DuplicatePolicy.word_injective (by simpa [DuplicatePolicy.word] using hword)
  have hlogging : member fields "logging" {} (loggingSection dialect) = pure config.logging :=
    member_eq (recovers_loggingSection dialect) hlogging fun hdefault =>
      (Logging.eq_default_of_written (Option.some.inj hdefault).symm).symm
  have hrules : member fields "rules" ∅ (dictionary (ruleSet dialect)) = pure config.rules :=
    member_eq (recovers_dictionary (recovers_ruleSet hdepth)) hrules fun hdefault =>
      (Dictionary.eq_empty_of_written (Option.some.inj hdefault).symm).symm
  simp only [Reading.config, hrecord, pure_bind, hregistry, hlogging, hrules]

end Reading

/-! ## Loading -/

def Json.depthInRule : Nat := Json.dialect.depth - Reading.levelsAboveRule - 1

def Config.Told (config : Config) (node : Node) : Prop :=
  TellsRecord (configMembers Json.depthInRule) anyNode config.written node

theorem Config.told_toNode (config : Config) : config.Told config.written.toNode := by
  refine tellsRecord_toNode (.cons ⟨rfl, ?_⟩ (.cons ⟨rfl, ?_⟩ (.cons ⟨rfl, ?_⟩ .nil)))
  · exact tellsRecord_toNode (by simp [registryMembers, Member.scalar])
  · refine tellsRecord_toNode (.cons ⟨rfl, tellsScalar_text _⟩ (.cons ⟨rfl, ?_⟩
      (by simp [Member.scalar])))
    refine tellsDictionary_toNode (List.forall_mem_map.mpr fun target _ => tellsScalar_text _)
  · refine tellsDictionary_toNode (List.forall_mem_map.mpr fun rules _ => ?_)
    refine tellsRecord_toNode (.cons ⟨rfl, ?_⟩ .nil)
    exact tellsList_toNode (List.forall_mem_map.mpr fun rule _ => tellsRule_toNode _ rule)

/-- Whatever tells of a configuration is loaded as that configuration. -/
theorem Config.load_of_told {config : Config} {text : String} {node : Node}
    (htext : Json.parse? text = some { root := node }) (htold : config.Told node) :
    load .json text = .ok config := by
  have hread : Reading.config Json.dialect node = pure config :=
    Reading.recovers_config rfl htold
  have hdocument : Document.read { root := node } (Reading.config Json.dialect) = some config := by
    rw [Document.read, hread]
    rfl
  simp only [load, Format.parse?, htext, Format.dialect, Option.bind_eq_bind, Option.bind_some,
    hdocument]

def tidyText : String :=
  "\x7b\"rules\":\x7b\"tidy\":\x7b\"a\":\"\\ud800\",\"steps\":[\x7b\"width\":3,\"x\":null," ++
    "\"op\":\"pad_left\"\x7d]\x7d\x7d\x7d"

def tidyRule : Node :=
  .object [("width", .integer 3), ("x", .null), ("op", .text "pad_left")]

def tidyNode : Node :=
  .object [("rules", .object [("tidy", .object [("a", .unreadable), ("steps", .list [tidyRule])])])]

def tidyConfig : Config where
  rules := ⟨[("tidy", ⟨[.padLeft 3 ' ']⟩)], .cons (by simp) .nil⟩

set_option maxRecDepth 20000 in
theorem parse?_tidyText : Json.parse? tidyText = some { root := tidyNode } := rfl

theorem tidyRule_tells (depth : Nat) : TellsRule depth (Rule.padLeft 3 ' ').written tidyRule := by
  have hchosen : Chosen ((("op", none) :: settingDefaults "pad_left").map Member.scalar)
      (("op", .text "pad_left") :: (Rule.padLeft 3 ' ').settings)
      [("op", .text "pad_left"), ("width", .integer 3)] :=
    .told (.text _) (.told (.integer 3) (.omitted rfl .finish))
  have horder := List.perm_append_singleton ("op", Node.text "pad_left")
    [("width", .integer 3), ("x", .null)]
  refine .intro (@TellsRecord.intro _ _ _ _ [("x", .null)] _ hchosen ?_ horder.symm)
  simpa [settingDefaults, Rule.operation, Member.scalar] using Node.Readable.null

theorem tidyNode_tells : tidyConfig.Told tidyNode := by
  have hrules : TellsRecord (ruleSetMembers Json.depthInRule) anyNode
      (RuleSet.written ⟨[.padLeft 3 ' ']⟩)
      (.object [("a", .unreadable), ("steps", .list [tidyRule])]) := by
    have hchosen : Chosen (ruleSetMembers Json.depthInRule)
        [("steps", .list [(Rule.padLeft 3 ' ').written])] [("steps", .list [tidyRule])] :=
      .told (.intro (.cons (tidyRule_tells _) .nil)) .finish
    refine @TellsRecord.intro _ _ _ _ [("a", .unreadable)] _ hchosen ?_ (.swap _ _ _)
    simp [ruleSetMembers, anyNode]
  have hchosen : Chosen (configMembers Json.depthInRule)
      [("registry", .record [("duplicate_types", .text "reject")]),
        ("logging", Logging.written {}),
        ("rules", tidyConfig.rules.written RuleSet.written)]
      [("rules", .object [("tidy",
        .object [("a", .unreadable), ("steps", .list [tidyRule])])])] :=
    .omitted rfl (.omitted rfl (.told (.intro (.cons ⟨rfl, hrules⟩ .nil) (.refl _)) .finish))
  exact @TellsRecord.intro _ _ _ _ [] _ hchosen (by simp) (.refl _)

theorem Config.load_of_told_tidy :
    Json.parse? tidyText = some { root := tidyNode } ∧ tidyConfig.Told tidyNode ∧
      load .json tidyText = .ok tidyConfig :=
  ⟨parse?_tidyText, tidyNode_tells, load_of_told parse?_tidyText tidyNode_tells⟩

end ValuePipeline
