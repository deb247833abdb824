import ValuePipeline.Proofs.Forest
import ValuePipeline.Proofs.Registration
import ValuePipeline.Proofs.Rejection

/-!
# Paths and keys

A path is looked for by the keys of its chain and shown as the names of its fields with
dots between them.  Both tell the same chains apart if no name has a dot in it and a name
on a type always stands for a value of one type: the text gives the names back, the first
name belongs to the type of the root, and each field says to which type the next name
belongs.  Then the paths of a builder are all different, and a path is refused as a
duplicate if and only if its text is among them.
-/

namespace ValuePipeline

variable {Ty : Type} [TypeCode Ty] {type root leaf other : Ty}

/-- No name has a dot in it, and fields of one type with one name have values of one type. -/
structure PlainNames (fields : List (Descriptor Ty)) : Prop where
  undotted : ∀ field ∈ fields, '.' ∉ field.name.toList
  value_eq : ∀ field ∈ fields, ∀ twin ∈ fields, field.key = twin.key → field.value = twin.value

theorem PlainNames.mono {fields more : List (Descriptor Ty)} (hplain : PlainNames more)
    (hsubset : fields ⊆ more) : PlainNames fields where
  undotted field hfield := hplain.undotted field (hsubset hfield)
  value_eq field hfield twin htwin := hplain.value_eq field (hsubset hfield) twin (hsubset htwin)

/-! ## Chains from one type -/

theorem names_eq_of_intercalate_eq {names others : List String} (hnames : names ≠ [])
    (hothers : others ≠ []) (hundotted : ∀ name ∈ names ++ others, '.' ∉ name.toList)
    (hsame : String.intercalate "." names = String.intercalate "." others) : names = others := by
  have hdot : "." = String.singleton '.' := rfl
  have hfirst := String.toList_split_intercalate (c := '.') (l := names) fun name hname =>
    hundotted name (List.mem_append_left _ hname)
  have hsecond := String.toList_split_intercalate (c := '.') (l := others) fun name hname =>
    hundotted name (List.mem_append_right _ hname)
  rw [if_neg hnames, ← hdot, hsame] at hfirst
  rw [if_neg hothers, ← hdot] at hsecond
  exact hfirst.symm.trans hsecond

namespace Route

theorem fields_ne_nil {route : Route root leaf} (hlength : 0 < route.length) :
    route.fields ≠ [] := by
  rw [← length_fields] at hlength
  exact List.length_pos_iff.mp hlength

theorem keys_eq_of_names_eq {first : Route root leaf} {second : Route root other}
    (hvalue : ∀ field ∈ first.fields, ∀ twin ∈ second.fields,
      field.key = twin.key → field.value = twin.value)
    (hnames : first.fields.map Descriptor.name = second.fields.map Descriptor.name) :
    first.fields.map Descriptor.key = second.fields.map Descriptor.key := by
  induction first with
  | stay =>
      cases second with
      | stay => rfl
      | through twin others => cases hnames
  | @through owner middle _ field rest ih =>
      cases second with
      | stay => cases hnames
      | @through _ otherMiddle _ twin others =>
          obtain ⟨hname, hrest⟩ := List.cons.inj hnames
          have hkey : field.descriptor.key = twin.descriptor.key :=
            congrArg (FieldKey.mk owner) hname
          obtain rfl : middle = otherMiddle :=
            hvalue _ List.mem_cons_self _ List.mem_cons_self hkey
          have hkeys : rest.fields.map Descriptor.key = others.fields.map Descriptor.key :=
            ih (fun field hfield later hlater => hvalue field (List.mem_cons_of_mem _ hfield)
              later (List.mem_cons_of_mem _ hlater)) hrest
          rw [fields, fields, List.map_cons, List.map_cons, hkey, hkeys]

theorem keys_eq_iff_path_eq {first : Route root leaf} {second : Route root other}
    (hfirst : 0 < first.length) (hsecond : 0 < second.length)
    (hplain : PlainNames (first.fields ++ second.fields)) :
    first.chain.keys = second.chain.keys ↔ first.chain.path = second.chain.path := by
  constructor
  · intro hkeys
    have hnames := congrArg (List.map FieldKey.name) hkeys
    simp only [Chain.keys, List.map_map] at hnames
    exact congrArg (String.intercalate ".") hnames
  · intro hpath
    refine keys_eq_of_names_eq (fun field hfield twin htwin =>
      hplain.value_eq field (List.mem_append_left _ hfield) twin (List.mem_append_right _ htwin)) ?_
    refine names_eq_of_intercalate_eq ?_ ?_ ?_ hpath
    · simpa using fields_ne_nil hfirst
    · simpa using fields_ne_nil hsecond
    · intro name hname
      rw [← List.map_append] at hname
      obtain ⟨field, hfield, rfl⟩ := List.mem_map.mp hname
      exact hplain.undotted field hfield

end Route

namespace Goods

/-- A dot in a name makes one name read as two. -/
example :
    let dotted : OpenField order count := { numberField with name := "item.count" }
    (Route.through dotted .stay).chain.path = countRoute.chain.path ∧
      (Route.through dotted .stay).chain.keys ≠ countRoute.chain.keys := by
  decide

/-- A name that stands for values of two types hides which type declares the next name. -/
example :
    let self : OpenField order order := ⟨"item", id, fun _ part => part, false⟩
    let count : OpenField order count := { numberField with name := "count" }
    (Route.through self (.through count .stay)).chain.path = countRoute.chain.path ∧
      (Route.through self (.through count .stay)).chain.keys ≠ countRoute.chain.keys := by
  decide

end Goods

/-! ## The paths of a draft -/

def Draft.used (draft : Draft type) : List (Descriptor Ty) :=
  draft.fields.flatMap fun entry => entry.chain.fields

theorem Draft.fields_subset_used {draft : Draft type} {entry : Entry type}
    (hentry : entry ∈ draft.fields) : entry.chain.fields ⊆ draft.used :=
  fun _ hfield => List.mem_flatMap.mpr ⟨entry, hentry, hfield⟩

namespace Draft.Regular

variable {bench : Workbench Ty} {builder : Builder type} {draft : Draft type}

theorem nodup_fieldPaths (hregular : draft.Regular bench builder)
    (hplain : PlainNames draft.used) : draft.fieldPaths.Nodup := by
  have hkeys := hregular.keys
  rw [fieldPaths, List.Nodup, List.pairwise_map] at *
  refine hkeys.imp_of_mem fun {entry next} hentry hnext hne hpath => hne ?_
  obtain ⟨first, hfirst, hchain⟩ := hregular.chains entry hentry
  obtain ⟨second, hsecond, hnextChain⟩ := hregular.chains next hnext
  have hused : first.fields ++ second.fields ⊆ draft.used := by
    have hentryUsed := fields_subset_used hentry
    have hnextUsed := fields_subset_used hnext
    rw [hchain] at hentryUsed
    rw [hnextChain] at hnextUsed
    exact List.append_subset.mpr ⟨hentryUsed, hnextUsed⟩
  rw [hchain, hnextChain] at hpath ⊢
  exact (Route.keys_eq_iff_path_eq hfirst hsecond (hplain.mono hused)).mpr hpath

theorem has_iff_mem_fieldPaths (hregular : draft.Regular bench builder) {route : Route type leaf}
    (hlength : 0 < route.length) (hplain : PlainNames (draft.used ++ route.fields)) :
    draft.Has route.chain.keys ↔ route.chain.path ∈ draft.fieldPaths := by
  rw [fieldPaths, List.mem_map, Has]
  refine exists_congr fun entry => and_congr_right fun hentry => ?_
  obtain ⟨first, hfirst, hchain⟩ := hregular.chains entry hentry
  have hused := fields_subset_used hentry
  rw [hchain] at hused ⊢
  exact Route.keys_eq_iff_path_eq hfirst hlength
    (hplain.mono (List.append_subset.mpr
      ⟨List.subset_append_of_subset_left _ hused, List.subset_append_right _ _⟩))

end Draft.Regular

/-! ## Sessions -/

variable [DecidableEq Ty]

namespace Session

variable {calls : List (Call Ty)} {builder : Builder type}

theorem resolve_ne_duplicateField {path : PathExpression root leaf} {text : String} :
    resolve path ≠ .error (.duplicateField text) := by
  intro hresolve
  cases rejected_of_resolve_eq_error hresolve

theorem ask_eq_duplicateField_iff {bench : Workbench Ty} {path : PathExpression type leaf}
    {text : String} :
    (builder.ask path bench).1 = .error (.duplicateField text) ↔
      ∃ chain, resolve path = .ok chain ∧ (bench.draft builder).Has chain.keys ∧
        chain.path = text := by
  cases hresolve : resolve path with
  | error error =>
      have hne : error ≠ .duplicateField text := by
        rintro rfl
        exact resolve_ne_duplicateField hresolve
      simp [Workbench.ask_of_error hresolve, hne]
  | ok chain =>
      by_cases hhas : (bench.draft builder).Has chain.keys
      · simp [Workbench.ask_of_has hresolve hhas, hhas]
      · simp [Workbench.ask_of_new hresolve hhas, hhas]

/--
Where names are plain, resolved chains from one type have the same keys if and only if
they have the same path.  So the paths of a builder are all different, and a path is
refused as a duplicate if and only if it resolves and its text is one of them.
-/
theorem paths_tell_apart_as_keys :
    (∀ {root leaf other : Ty} {path : PathExpression root leaf} {next : PathExpression root other}
      {chain : Chain root leaf} {following : Chain root other}, resolve path = .ok chain →
      resolve next = .ok following → PlainNames (chain.fields ++ following.fields) →
      (chain.keys = following.keys ↔ chain.path = following.path)) ∧
    ∀ (calls : List (Call Ty)) {type : Ty} {builder : Builder type},
      ⟨type, builder⟩ ∈ (after calls).handles →
      let draft := (after calls).bench.draft builder
      (PlainNames draft.used → draft.fieldPaths.Nodup) ∧
      ∀ {leaf : Ty} (path : PathExpression type leaf),
        (∀ chain, resolve path = .ok chain → PlainNames (draft.used ++ chain.fields)) →
        ∀ text, (builder.ask path (after calls).bench).1 = .error (.duplicateField text) ↔
          ∃ chain, resolve path = .ok chain ∧ chain.path = text ∧ text ∈ draft.fieldPaths := by
  constructor
  · intro root leaf other path next chain following hresolve hnext hplain
    obtain ⟨first, hfirst, rfl⟩ := resolve_eq_ok_iff.mp hresolve
    obtain ⟨second, hsecond, rfl⟩ := resolve_eq_ok_iff.mp hnext
    exact Route.keys_eq_iff_path_eq hfirst.1 hsecond.1 hplain
  · intro calls type builder hknown draft
    have hholds := (sound_after calls).holds _ hknown
    have hregular := (isForest_after calls).regular hholds
    refine ⟨hregular.nodup_fieldPaths, fun path hplain text => ?_⟩
    rw [ask_eq_duplicateField_iff]
    refine exists_congr fun chain => and_congr_right fun hresolve => ?_
    obtain ⟨route, hdenotes, rfl⟩ := resolve_eq_ok_iff.mp hresolve
    rw [hregular.has_iff_mem_fieldPaths hdenotes.1 (hplain _ hresolve), and_comm]
    refine and_congr_right ?_
    rintro rfl
    rfl

end Session

/-! ## Orders with two paths -/

namespace Goods

theorem plainNames_order :
    PlainNames [numberField.descriptor, itemField.descriptor, countField.descriptor,
      .ofField { countField.toField with watched := true }] where
  undotted := by decide
  value_eq := by decide

theorem used_numberFirst :
    ((Session.after numberFirst).bench.draft (⟨0⟩ : Builder order)).used =
      [numberField.descriptor, itemField.descriptor, countField.descriptor] := rfl

end Goods

namespace Session

theorem paths_tell_apart_as_keys_numberFirst :
    ⟨.order, ⟨0⟩⟩ ∈ (after Goods.numberFirst).handles ∧
      ((after Goods.numberFirst).bench.draft (⟨0⟩ : Builder Goods.order)).fieldPaths.Nodup ∧
      Goods.countRoute.chain.keys ≠ Goods.numberRoute.chain.keys ∧
      ((⟨0⟩ : Builder Goods.order).ask Goods.watchedCountPath
        (after Goods.numberFirst).bench).1 = .error (.duplicateField "item.count") := by
  obtain ⟨hchains, hbuilders⟩ := @paths_tell_apart_as_keys Goods _ _
  have hknown : ⟨.order, ⟨0⟩⟩ ∈ (after Goods.numberFirst).handles := List.mem_cons_self
  obtain ⟨hnodup, hask⟩ := hbuilders Goods.numberFirst hknown
  have hwatched : resolve Goods.watchedCountPath =
      .ok ⟨[Goods.itemField.descriptor,
        .ofField { Goods.countField.toField with watched := true }]⟩ := rfl
  refine ⟨hknown, hnodup ?_, ?_, ?_⟩
  · rw [Goods.used_numberFirst]
    exact Goods.plainNames_order.mono (by simp)
  · rw [ne_eq, hchains Goods.countPath_denotes.resolve_eq Goods.numberPath_denotes.resolve_eq
      (Goods.plainNames_order.mono
        (by simp [Route.chain, Route.fields, Goods.countRoute, Goods.numberRoute]))]
    decide
  · refine (hask Goods.watchedCountPath ?_ "item.count").mpr ⟨_, hwatched, rfl, ?_⟩
    · intro chain hresolve
      obtain rfl := Except.ok.inj (hwatched.symm.trans hresolve)
      rw [Goods.used_numberFirst]
      exact Goods.plainNames_order.mono (by simp)
    · exact List.mem_cons_of_mem _ List.mem_cons_self

end Session

end ValuePipeline
