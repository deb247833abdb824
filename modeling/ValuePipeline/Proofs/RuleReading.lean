import ValuePipeline.Proofs.Telling

/-!
# Reading rules back

A rule is told as a record.  One of its members names the operation; which others there
are, and which of them may be left out, depends on that.  Since the operation may stand
anywhere, all members are read as values before any is looked at, so that what has been
added to a rule has to be readable too.
-/

namespace ValuePipeline

/-! ## Nodes that can be read as values -/

/-- Lists and tables stand one inside the other at most this deep, down to scalars. -/
inductive Node.Readable : Nat → Node → Prop where
  | null {depth : Nat} : Readable depth .null
  | bool {depth : Nat} (b : Bool) : Readable depth (.bool b)
  | integer {depth : Nat} (n : Int) : Readable depth (.integer n)
  | decimal {depth : Nat} : Readable depth .decimal
  | text {depth : Nat} (s : String) : Readable depth (.text s)
  | list {depth : Nat} {items : List Node} (hitems : ∀ item ∈ items, Readable depth item) :
      Readable (depth + 1) (.list items)
  | object {depth : Nat} {members : List (String × Node)}
      (hmembers : ∀ member ∈ members, Readable depth member.2) :
      Readable (depth + 1) (.object members)

namespace Reading

variable {depth : Nat} {node : Node}

theorem pure_injective {α : Type} : Function.Injective (pure : α → Reading α) := by
  intro a b hsame
  have hrun := congrFun (congrFun hsame []) 0
  exact congrArg Prod.fst (Option.some.inj hrun)

theorem value_text (depth : Nat) (s : String) : value depth (.text s) = pure (.text s) := by
  rw [value]
  rfl

theorem value_eq_of_tellsScalar {written : Value} (htells : TellsScalar written node) :
    value depth node = pure written := by
  cases htells <;> (rw [value]; rfl)

theorem readable_of_tellsScalar {written : Value} (htells : TellsScalar written node) :
    node.Readable depth := by
  cases htells <;> constructor

theorem exists_value_eq (hreadable : node.Readable depth) :
    ∃ read, value depth node = pure read := by
  induction hreadable with
  | null => exact ⟨_, value_eq_of_tellsScalar .null⟩
  | bool b => exact ⟨_, value_eq_of_tellsScalar (.bool b)⟩
  | integer n => exact ⟨_, value_eq_of_tellsScalar (.integer n)⟩
  | decimal => exact ⟨.decimal, by rw [value]; rfl⟩
  | text s => exact ⟨_, value_eq_of_tellsScalar (.text s)⟩
  | @list depth items hitems ih =>
      choose! read hread using ih
      have hall : items.mapM (value depth) = pure (items.map read) := by
        refine mapM_eq_pure ?_
        rw [List.forall₂_map_right_iff, List.forall₂_same]
        exact hread
      refine ⟨.list (items.map read), ?_⟩
      rw [value]
      change Value.list <$> items.mapM (value depth) = _
      rw [hall, map_pure]
  | @object depth members hmembers ih =>
      choose! read hread using ih
      let pairs := members.map fun member => (Value.text member.1, read member)
      have hall : (members.map fun member => (Node.text member.1, member.2)).mapM
          (fun member => do return (← value depth member.1, ← value depth member.2)) =
            (pure pairs : Reading _) := by
        refine mapM_eq_pure ?_
        rw [List.forall₂_map_left_iff, List.forall₂_map_right_iff, List.forall₂_same]
        intro member hmember
        simp [value_text, hread member hmember]
      refine ⟨.table pairs, ?_⟩
      rw [value]
      exact (congrArg (Value.table <$> ·) hall).trans (map_pure _ _)

end Reading

/-! ## How rules are told -/

def Member.scalar (setting : String × Option Value) : Member where
  name := setting.1
  default? := setting.2
  Tells := TellsScalar

/-- What a rule can be set to, with the defaults of what may be left out. -/
def settingDefaults (operation : String) : List (String × Option Value) :=
  match operation with
  | "trim" | "trim_start" | "trim_end" => [("chars", some (.text ""))]
  | "replace" => [("pattern", none), ("replacement", some (.text ""))]
  | "append" | "prepend" => [("value", none)]
  | "pad_left" | "pad_right" => [("width", none), ("fill", some (.text " "))]
  | "substring" => [("start", none), ("len", some .null)]
  | "remove" => [("start", none), ("count", some .null)]
  | _ => []

/-- The depth is that of the values which may be added. -/
inductive TellsRule (depth : Nat) : Value → Node → Prop where
  | intro {operation : String} {settings : List (String × Value)} {node : Node}
      (hmembers : TellsRecord ((("op", none) :: settingDefaults operation).map Member.scalar)
        (Node.Readable depth) (.record (("op", .text operation) :: settings)) node) :
      TellsRule depth (.record (("op", .text operation) :: settings)) node

theorem Rule.nodup_settings (rule : Rule) :
    ("op" :: (settingDefaults rule.operation).map Prod.fst).Nodup := by
  cases rule <;> simp [settingDefaults, operation]

theorem tellsRule_toNode (depth : Nat) (rule : Rule) :
    TellsRule depth rule.written rule.written.toNode := by
  refine .intro (tellsRecord_toNode ?_)
  cases rule with
  | substring start size | remove start size =>
      cases size <;> simp [Rule.settings, settingDefaults, Rule.operation, Member.scalar,
        Rule.optionalSizeValue, Rule.sizeValue, Value.ofNat]
  | _ => simp [Rule.settings, settingDefaults, Rule.operation, Member.scalar, Rule.sizeValue,
    Value.ofNat]

/-! ## What is found of a setting -/

/-- The setting has been given, or it has been left out and has its value by default. -/
def Given (setting : String × Option Value) (value : Value) (fields : List (String × Value)) :
    Prop :=
  fields.lookup setting.1 = some value ∨
    fields.lookup setting.1 = none ∧ setting.2 = some value

namespace Rule

variable {α : Type} {name : String} {value default_ : Value} {fields : List (String × Value)}
  {read : Value → Option α} {a b : α}

theorem required_eq (hgiven : Given (name, none) value fields) (hread : read value = some a) :
    required fields name read = some a := by
  obtain hthere | ⟨-, hnone⟩ := hgiven
  · simp [required, hthere, hread]
  · cases hnone

theorem optional_eq (hgiven : Given (name, some default_) value fields)
    (hdefault : read default_ = some b) (hread : read value = some a) :
    optional fields name b read = some a := by
  obtain hthere | ⟨habsent, hsame⟩ := hgiven
  · simp [optional, hthere, hread]
  · have hboth : some b = some a := by rw [← hdefault, Option.some.inj hsame, hread]
    simp [optional, habsent, hboth]

theorem char?_text (c : Char) : (Value.text c.toString).char? = some c := by
  simp [Value.char?]

theorem size?_sizeValue (size : UInt64) : (sizeValue size).size? = some size := by
  have hsize : (size.toNat : Int) < 2 ^ 64 := by exact_mod_cast size.toNat_lt
  simp only [sizeValue, Value.ofNat, Value.size?]
  rw [if_pos ⟨Int.natCast_nonneg _, hsize⟩, Int.toNat_natCast, UInt64.ofNat_toNat]

theorem optionalSize?_optionalSizeValue (size : Option UInt64) :
    (optionalSizeValue size).optionalSize? = some size := by
  cases size with
  | none => rfl
  | some size =>
      have hread := size?_sizeValue size
      simp only [sizeValue, Value.ofNat] at hread
      simp [optionalSizeValue, sizeValue, Value.ofNat, Value.optionalSize?, hread]

variable {settings : Value}

theorem readChars_eq (make : String → Rule) {chars : String}
    (hfields : settings.fields? ["chars"] = some fields)
    (hchars : Given ("chars", some (.text "")) (.text chars) fields) :
    readChars make settings = some (make chars) := by
  have hread : optional fields "chars" "" Value.text? = some chars := optional_eq hchars rfl rfl
  simp [readChars, hfields, hread]

theorem readReplace_eq {pattern replacement : String}
    (hfields : settings.fields? ["pattern", "replacement"] = some fields)
    (hpattern : Given ("pattern", none) (.text pattern) fields)
    (hreplacement : Given ("replacement", some (.text "")) (.text replacement) fields) :
    readReplace settings = some (replace pattern replacement) := by
  have hfirst : required fields "pattern" Value.text? = some pattern := required_eq hpattern rfl
  have hsecond : optional fields "replacement" "" Value.text? = some replacement :=
    optional_eq hreplacement rfl rfl
  simp [readReplace, hfields, hfirst, hsecond]

theorem readValue_eq (make : String → Rule) {text : String}
    (hfields : settings.fields? ["value"] = some fields)
    (hvalue : Given ("value", none) (.text text) fields) :
    readValue make settings = some (make text) := by
  have hread : required fields "value" Value.text? = some text := required_eq hvalue rfl
  simp [readValue, hfields, hread]

theorem readPad_eq (make : UInt64 → Char → Rule) {width : UInt64} {fill : Char}
    (hfields : settings.fields? ["width", "fill"] = some fields)
    (hwidth : Given ("width", none) (sizeValue width) fields)
    (hfill : Given ("fill", some (.text " ")) (.text fill.toString) fields) :
    readPad make settings = some (make width fill) := by
  have hfirst : required fields "width" Value.size? = some width :=
    required_eq hwidth (size?_sizeValue width)
  have hsecond : optional fields "fill" defaultFill Value.char? = some fill :=
    optional_eq hfill (char?_text defaultFill) (char?_text fill)
  simp [readPad, hfields, hfirst, hsecond]

theorem readRange_eq (make : UInt64 → Option UInt64 → Rule) (count : String) {start : UInt64}
    {size : Option UInt64} (hfields : settings.fields? ["start", count] = some fields)
    (hstart : Given ("start", none) (sizeValue start) fields)
    (hsize : Given (count, some .null) (optionalSizeValue size) fields) :
    readRange make count settings = some (make start size) := by
  have hfirst : required fields "start" Value.size? = some start :=
    required_eq hstart (size?_sizeValue start)
  have hsecond : optional fields count none Value.optionalSize? = some size :=
    optional_eq hsize rfl (optionalSize?_optionalSizeValue size)
  simp [readRange, hfields, hfirst, hsecond]

theorem read?_eq (rule : Rule) {members : List (Value × Value)}
    (hfields : (Value.table members).fields? ((settingDefaults rule.operation).map Prod.fst) =
      some fields)
    (hgiven : List.Forall₂ (fun setting entry => Given setting entry.2 fields)
      (settingDefaults rule.operation) rule.settings) :
    read? rule.operation (.table members) = some rule := by
  cases rule with
  | trim chars | trimStart chars | trimEnd chars =>
      obtain _ | ⟨hchars, -⟩ := hgiven
      exact readChars_eq _ hfields hchars
  | upper | lower => rfl
  | replace pattern replacement =>
      obtain _ | ⟨hpattern, _ | ⟨hreplacement, -⟩⟩ := hgiven
      exact readReplace_eq hfields hpattern hreplacement
  | append text | prepend text =>
      obtain _ | ⟨hvalue, -⟩ := hgiven
      exact readValue_eq _ hfields hvalue
  | padLeft width fill | padRight width fill =>
      obtain _ | ⟨hwidth, _ | ⟨hfill, -⟩⟩ := hgiven
      exact readPad_eq _ hfields hwidth hfill
  | substring start size | remove start size =>
      obtain _ | ⟨hstart, _ | ⟨hsize, -⟩⟩ := hgiven
      exact readRange_eq _ _ hfields hstart hsize

end Rule

/-! ## Reading a rule -/

namespace Reading

variable {depth : Nat} {operation : String}

def asRuleMember (operation : String) (read : Node → Value) (member : String × Node) :
    RuleMember :=
  if member.1 = "op" then .operation operation else .setting (.text member.1) (read member.2)

theorem ruleMember_eq {read : Node → Value} {member : String × Node}
    (hop : member.1 = "op" → member.2 = .text operation)
    (hread : value depth member.2 = pure (read member.2)) :
    ruleMember depth (.text member.1, member.2) = pure (asRuleMember operation read member) := by
  obtain ⟨name, node⟩ := member
  by_cases hname : name = "op"
  · obtain rfl := hname
    obtain rfl : node = .text operation := hop rfl
    simp only [ruleMember, value_text, pure_bind]
    rfl
  · simp only [ruleMember, value_text, pure_bind]
    split
    next hsame => exact absurd (Value.text.inj hsame) hname
    next => simp [hread, asRuleMember, hname]

theorem filterMap_asRuleMember (read : Node → Value) (members : List (String × Node)) :
    (members.map (asRuleMember operation read)).filterMap RuleMember.operation? =
        (restrict ["op"] members).map (fun _ => operation) ∧
      (members.map (asRuleMember operation read)).filterMap RuleMember.setting? =
        (members.filter (·.1 ≠ "op")).map fun member => (.text member.1, read member.2) := by
  induction members with
  | nil => exact ⟨rfl, rfl⟩
  | cons member members ih =>
      obtain ⟨hoperations, hsettings⟩ := ih
      by_cases hname : member.1 = "op"
      · have hfirst : asRuleMember operation read member = .operation operation := if_pos hname
        simp only [List.map_cons, List.filterMap_cons, hfirst, RuleMember.operation?,
          RuleMember.setting?, hoperations, hsettings]
        simp [restrict, hname]
      · have hfirst : asRuleMember operation read member =
            .setting (.text member.1) (read member.2) := if_neg hname
        simp only [List.map_cons, List.filterMap_cons, hfirst, RuleMember.operation?,
          RuleMember.setting?, hoperations, hsettings]
        simp [restrict, hname]

variable {read : Node → Value} {shown : List (String × Node)}

theorem rule_object (hop : restrict ["op"] shown = [("op", .text operation)])
    (hread : ∀ member ∈ shown, value depth member.2 = pure (read member.2)) :
    rule (depth + 1) (.object shown) =
      ofOption (Rule.read? operation (.table
        ((shown.filter (·.1 ≠ "op")).map fun member => (.text member.1, read member.2)))) := by
  have hmembers : (shown.map fun member => (Node.text member.1, member.2)).mapM
      (ruleMember depth) = (pure (shown.map (asRuleMember operation read)) : Reading _) := by
    refine mapM_eq_pure ?_
    rw [List.forall₂_map_left_iff, List.forall₂_map_right_iff, List.forall₂_same]
    intro member hmember
    refine ruleMember_eq (fun hname => ?_) (hread member hmember)
    have hmem : member ∈ restrict ["op"] shown := by simp [restrict, hmember, hname]
    rw [hop] at hmem
    exact congrArg Prod.snd (List.mem_singleton.mp hmem)
  obtain ⟨hoperations, hsettings⟩ := @filterMap_asRuleMember operation read shown
  have hrule : rule (depth + 1) (.object shown) =
      (do ofOption (ruleOfMembers? (← (shown.map fun member => (Node.text member.1, member.2)).mapM
        (ruleMember depth)))) := rfl
  rw [hrule, hmembers, pure_bind, ruleOfMembers?, hoperations, hsettings, hop]
  rfl

theorem fields?_settings {names : List String} (hop : "op" ∉ names)
    (hnames : ((restrict names shown).map Prod.fst).Nodup) :
    (Value.table ((shown.filter (·.1 ≠ "op")).map fun member =>
        (.text member.1, read member.2))).fields? names =
      some ((restrict names shown).map fun member => (member.1, read member.2)) := by
  let entries := (shown.filter (·.1 ≠ "op")).map fun member => (member.1, read member.2)
  have hentries : restrict names entries =
      (restrict names shown).map fun member => (member.1, read member.2) := by
    simp only [entries, restrict, List.filter_map, List.filter_filter]
    congr 1
    refine List.filter_congr fun member _ => ?_
    by_cases hname : member.1 = "op"
    · simp [hname, hop]
    · simp [hname]
  have hknown : ((restrict names entries).map Prod.fst).Nodup := by
    rw [hentries, List.map_map]
    exact hnames
  have hfields := members?_eq hknown
  rw [hentries] at hfields
  simpa [entries, Value.fields?, List.map_map, Function.comp_def] using hfields

theorem given_of_found {setting : String × Option Value} {written : Value}
    {fields : List (String × Node)}
    (hread : ∀ node : Node, node.Readable depth → value depth node = pure (read node))
    (hfound : (Member.scalar setting).Found written fields) :
    Given setting written (fields.map fun member => (member.1, read member.2)) := by
  rw [Given, lookup_map]
  obtain ⟨node, hnode, htells⟩ | ⟨habsent, hdefault⟩ := hfound
  · have hsame := (hread node (readable_of_tellsScalar htells)).symm.trans
      (value_eq_of_tellsScalar htells)
    obtain rfl := pure_injective hsame
    exact .inl (congrArg (Option.map read) hnode)
  · exact .inr ⟨congrArg (Option.map read) habsent, hdefault⟩

theorem exists_rule_eq {settings : List (String × Option Value)} {node : Node}
    {written : List (String × Value)}
    (htells : TellsRecord ((("op", none) :: settings).map Member.scalar) (Node.Readable depth)
      (.record (("op", .text operation) :: written)) node)
    (hnames : ("op" :: settings.map Prod.fst).Nodup) :
    ∃ members fields,
      rule (depth + 1) node = ofOption (Rule.read? operation (.table members)) ∧
      (Value.table members).fields? (settings.map Prod.fst) = some fields ∧
      List.Forall₂ (fun setting entry => Given setting entry.2 fields) settings written := by
  obtain ⟨told, added, shown, rfl, hchosen, hadded, horder⟩ := htells.exists_chosen
  have hreadable : ∀ entry ∈ told ++ added, entry.2.Readable depth := by
    refine List.forall_mem_append.mpr ⟨hchosen.forall_told ?_, fun entry h => (hadded entry h).2⟩
    intro member hmember value node htells
    obtain ⟨setting, -, rfl⟩ := List.mem_map.mp hmember
    exact readable_of_tellsScalar htells
  choose! read hread using fun (node : Node) (hnode : node.Readable depth) =>
    exists_value_eq hnode
  have hshown : ∀ entry ∈ shown, value depth entry.2 = pure (read entry.2) := fun entry hentry =>
    hread _ (hreadable entry (horder.mem_iff.mpr hentry))
  have hscalar : (settings.map Member.scalar).map Member.name = settings.map Prod.fst :=
    List.map_map
  obtain ⟨hop, hnames⟩ := List.nodup_cons.mp hnames
  cases hchosen with
  | omitted hdefault => cases hdefault
  | @told _ _ _ _ _ rest htold hrest =>
      obtain ⟨⟩ := htold
      have hknown : ∀ entry ∈ rest, entry.1 ∈ settings.map Prod.fst := fun entry hentry =>
        hscalar ▸ hrest.names_sublist.subset (List.mem_map_of_mem hentry)
      have hadded : ∀ entry ∈ added, entry.1 ≠ "op" ∧ entry.1 ∉ settings.map Prod.fst :=
        fun entry hentry => by simpa [Member.scalar] using (hadded entry hentry).1
      have hothers : ∀ entry ∈ rest ++ added, entry.1 ≠ "op" := by
        refine List.forall_mem_append.mpr ⟨fun entry hentry hname => ?_, fun entry hentry => ?_⟩
        · exact hop (hname ▸ hknown entry hentry)
        · exact (hadded entry hentry).1
      have hone := restrict_singleton horder hothers
      have hunknown : ∀ entry ∈ ("op", Node.text operation) :: added,
          entry.1 ∉ (settings.map Member.scalar).map Member.name := by
        rw [hscalar]
        exact List.forall_mem_cons.mpr ⟨hop, fun entry hentry => (hadded entry hentry).2⟩
      have hsettings := List.perm_middle.trans horder
      have hnodup := hrest.nodup_restrict (hscalar ▸ hnames) hunknown hsettings
      have hfound := hrest.found_restrict (hscalar ▸ hnames) hunknown hsettings
      rw [hscalar] at hnodup hfound
      rw [List.forall₂_map_left_iff] at hfound
      exact ⟨_, _, rule_object hone hshown, fields?_settings hop hnodup,
        hfound.imp fun _ _ => given_of_found hread⟩

theorem rule_eq {rule : Rule} {node : Node} (htells : TellsRule depth rule.written node) :
    Reading.rule (depth + 1) node = pure rule := by
  generalize hwritten : rule.written = written at htells
  obtain @⟨operation, settings, _, hmembers⟩ := htells
  obtain ⟨hop, hsettings⟩ := List.cons.inj (Value.record_injective hwritten)
  obtain rfl : rule.operation = operation := by simpa using hop
  obtain rfl := hsettings
  obtain ⟨members, fields, hrule, hfields, hgiven⟩ := exists_rule_eq hmembers rule.nodup_settings
  rw [hrule, rule.read?_eq hfields hgiven]
  rfl

end Reading

end ValuePipeline
