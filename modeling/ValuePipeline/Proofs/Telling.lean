import Mathlib.Data.List.Forall2
import Mathlib.Data.List.Nodup
import Mathlib.Data.List.Perm.Basic
import ValuePipeline.Config.Read

/-!
# What a document tells of a value

A document need not say all of a value.  A record may be told without the members that
are as they are by default, its members may stand in any order, and members under other
names may stand among them; the entries of a dictionary may stand in any order too.
Reading finds of each member what is told of it, or nothing where it was left out.
-/

namespace ValuePipeline

/-! ## Lists of named things -/

section Lookup

variable {α β : Type} {entries others : List (String × α)} {name : String} {a : α}

theorem lookup_eq_some_iff_mem (hnames : (entries.map Prod.fst).Nodup) :
    entries.lookup name = some a ↔ (name, a) ∈ entries := by
  induction entries with
  | nil => simp
  | cons entry entries ih =>
      obtain ⟨first, b⟩ := entry
      obtain ⟨hnew, hnames⟩ := List.nodup_cons.mp hnames
      by_cases hsame : name = first
      · subst hsame
        have hoff : (name, a) ∉ entries := fun hmem =>
          hnew (List.mem_map.mpr ⟨_, hmem, rfl⟩)
        simp [hoff, eq_comm]
      · have hne : (name == first) = false := by simpa using hsame
        rw [List.lookup_cons, hne]
        simp [hsame, ih hnames]

theorem lookup_perm (hnames : (entries.map Prod.fst).Nodup) (hperm : entries.Perm others) :
    others.lookup name = entries.lookup name := by
  have hothers : (others.map Prod.fst).Nodup := (hperm.map Prod.fst).nodup_iff.mp hnames
  ext a
  rw [lookup_eq_some_iff_mem hothers, lookup_eq_some_iff_mem hnames, hperm.mem_iff]

theorem lookup_eq_none_of_not_mem (hname : name ∉ entries.map Prod.fst) :
    entries.lookup name = none := by
  rw [List.lookup_eq_none_iff]
  intro entry hentry
  rw [bne_iff_ne]
  rintro rfl
  exact hname (List.mem_map_of_mem hentry)

theorem lookup_map (f : α → β) :
    (entries.map fun entry => (entry.1, f entry.2)).lookup name =
      (entries.lookup name).map f := by
  induction entries with
  | nil => rfl
  | cons entry entries ih =>
      rw [List.map_cons, List.lookup_cons, List.lookup_cons, ih]
      cases name == entry.1 <;> rfl

def restrict (names : List String) (entries : List (String × α)) : List (String × α) :=
  entries.filter fun entry => names.contains entry.1

variable {names : List String} {entry : String × α}

theorem restrict_cons_of_mem (hknown : entry.1 ∈ names) :
    restrict names (entry :: entries) = entry :: restrict names entries :=
  List.filter_cons_of_pos (by simpa using hknown)

theorem restrict_cons_of_not_mem (hunknown : entry.1 ∉ names) :
    restrict names (entry :: entries) = restrict names entries :=
  List.filter_cons_of_neg (by simpa using hunknown)

theorem perm_restrict {told added : List (String × α)} (hperm : (told ++ added).Perm entries)
    (htold : ∀ entry ∈ told, entry.1 ∈ names) (hadded : ∀ entry ∈ added, entry.1 ∉ names) :
    told.Perm (restrict names entries) := by
  have hall : restrict names told = told := by simpa [restrict] using htold
  have hnone : restrict names added = [] := by simpa [restrict] using hadded
  have hrestrict : (restrict names (told ++ added)).Perm (restrict names entries) :=
    hperm.filter _
  rwa [restrict, List.filter_append, ← restrict, ← restrict, hall, hnone, List.append_nil]
    at hrestrict

theorem restrict_singleton (hperm : ((name, a) :: others).Perm entries)
    (hothers : ∀ entry ∈ others, entry.1 ≠ name) : restrict [name] entries = [(name, a)] := by
  have hunknown : ∀ entry ∈ others, entry.1 ∉ [name] := by simpa using hothers
  have honly : [(name, a)].Perm (restrict [name] entries) :=
    perm_restrict hperm (by simp) hunknown
  exact (List.singleton_perm.mp honly).symm

end Lookup

/-! ## Telling -/

def Node.object (members : List (String × Node)) : Node :=
  .table (members.map fun member => (.text member.1, member.2))

/--
A member of a record: its name, its value where it is left out, unless it may not be, and
how its value may be told.
-/
structure Member where
  name : String
  default? : Option Value
  Tells : Value → Node → Prop

/-- Members may be left out if they are as they are by default. -/
inductive Chosen : List Member → List (String × Value) → List (String × Node) → Prop where
  | finish : Chosen [] [] []
  | told {member : Member} {members : List Member} {value : Value} {node : Node}
      {written : List (String × Value)} {told : List (String × Node)}
      (htells : member.Tells value node) (hrest : Chosen members written told) :
      Chosen (member :: members) ((member.name, value) :: written) ((member.name, node) :: told)
  | omitted {member : Member} {members : List Member} {value : Value}
      {written : List (String × Value)} {told : List (String × Node)}
      (hdefault : member.default? = some value) (hrest : Chosen members written told) :
      Chosen (member :: members) ((member.name, value) :: written) told

inductive TellsScalar : Value → Node → Prop where
  | null : TellsScalar .null .null
  | bool (b : Bool) : TellsScalar (.bool b) (.bool b)
  | integer (n : Int) : TellsScalar (.integer n) (.integer n)
  | text (s : String) : TellsScalar (.text s) (.text s)

inductive TellsList (Tells : Value → Node → Prop) : Value → Node → Prop where
  | intro {items : List Value} {nodes : List Node} (hitems : List.Forall₂ Tells items nodes) :
      TellsList Tells (.list items) (.list nodes)

inductive TellsDictionary (Tells : Value → Node → Prop) : Value → Node → Prop where
  | intro {entries : List (String × Value)} {told shown : List (String × Node)}
      (hentries : List.Forall₂ (fun entry told => told.1 = entry.1 ∧ Tells entry.2 told.2)
        entries told)
      (horder : told.Perm shown) : TellsDictionary Tells (.record entries) (.object shown)

/-- Other members may be added, with any values that are allowed there. -/
inductive TellsRecord (members : List Member) (Allowed : Node → Prop) : Value → Node → Prop where
  | intro {written : List (String × Value)} {told added shown : List (String × Node)}
      (hchosen : Chosen members written told)
      (hadded : ∀ member ∈ added, member.1 ∉ members.map Member.name ∧ Allowed member.2)
      (horder : (told ++ added).Perm shown) :
      TellsRecord members Allowed (.record written) (.object shown)

theorem Value.record_injective : Function.Injective Value.record := by
  intro members others hsame
  have hinjective : Function.Injective
      fun member : String × Value => (Value.text member.1, member.2) := by
    rintro ⟨name, value⟩ ⟨other, value'⟩ h
    simpa using h
  exact List.map_injective_iff.mpr hinjective (Value.table.inj hsame)

theorem TellsRecord.exists_chosen {members : List Member} {Allowed : Node → Prop}
    {written : List (String × Value)} {node : Node}
    (htells : TellsRecord members Allowed (.record written) node) :
    ∃ told added shown, node = .object shown ∧ Chosen members written told ∧
      (∀ member ∈ added, member.1 ∉ members.map Member.name ∧ Allowed member.2) ∧
      (told ++ added).Perm shown := by
  generalize hvalue : Value.record written = value at htells
  obtain ⟨hchosen, hadded, horder⟩ := htells
  obtain rfl := Value.record_injective hvalue
  exact ⟨_, _, _, rfl, hchosen, hadded, horder⟩

/-! ## Telling all of a value -/

def Value.toNode : Value → Node
  | null => .null
  | bool b => .bool b
  | integer n => .integer n
  | decimal => .decimal
  | text s => .text s
  | list items => .list (items.map toNode)
  | table members => .table (members.map fun member => (member.1.toNode, member.2.toNode))
decreasing_by
  · have hitem := List.sizeOf_lt_of_mem ‹_›
    simp only [list.sizeOf_spec]
    omega
  all_goals
    have hsize := List.sizeOf_lt_of_mem ‹member ∈ members›
    obtain ⟨key, value⟩ := member
    simp only [Prod.mk.sizeOf_spec, table.sizeOf_spec] at hsize ⊢
    omega

theorem toNode_record (members : List (String × Value)) :
    (Value.record members).toNode =
      .object (members.map fun member => (member.1, member.2.toNode)) := by
  simp [Value.record, Value.toNode, Node.object]

@[simp]
theorem tellsScalar_null : TellsScalar .null Value.null.toNode := by
  rw [Value.toNode]
  exact .null

@[simp]
theorem tellsScalar_bool (b : Bool) : TellsScalar (.bool b) (Value.bool b).toNode := by
  rw [Value.toNode]
  exact .bool b

@[simp]
theorem tellsScalar_integer (n : Int) : TellsScalar (.integer n) (Value.integer n).toNode := by
  rw [Value.toNode]
  exact .integer n

@[simp]
theorem tellsScalar_text (s : String) : TellsScalar (.text s) (Value.text s).toNode := by
  rw [Value.toNode]
  exact .text s

theorem tellsRecord_toNode {members : List Member} {Allowed : Node → Prop}
    {written : List (String × Value)}
    (hwhole : List.Forall₂ (fun member entry =>
      entry.1 = member.name ∧ member.Tells entry.2 entry.2.toNode) members written) :
    TellsRecord members Allowed (.record written) (Value.record written).toNode := by
  have hchosen : Chosen members written
      (written.map fun member => (member.1, member.2.toNode)) := by
    induction hwhole with
    | nil => exact .finish
    | @cons member entry members written hfirst hrest ih =>
        obtain ⟨name, value⟩ := entry
        obtain ⟨rfl, htells⟩ := hfirst
        exact .told htells ih
  rw [toNode_record]
  exact @TellsRecord.intro _ _ _ _ [] _ hchosen (by simp) (by simp)

theorem tellsDictionary_toNode {Tells : Value → Node → Prop} {entries : List (String × Value)}
    (hwhole : ∀ entry ∈ entries, Tells entry.2 entry.2.toNode) :
    TellsDictionary Tells (.record entries) (Value.record entries).toNode := by
  rw [toNode_record]
  refine .intro ?_ (.refl _)
  rw [List.forall₂_map_right_iff, List.forall₂_same]
  exact fun entry hentry => ⟨rfl, hwhole entry hentry⟩

theorem tellsList_toNode {Tells : Value → Node → Prop} {items : List Value}
    (hwhole : ∀ item ∈ items, Tells item item.toNode) :
    TellsList Tells (.list items) (Value.list items).toNode := by
  rw [Value.toNode]
  refine .intro ?_
  rw [List.forall₂_map_right_iff, List.forall₂_same]
  exact hwhole

/-! ## What is found of a member -/

/-- The member is there and tells of the value, or it is not there and has it by default. -/
def Member.Found (member : Member) (value : Value) (fields : List (String × Node)) : Prop :=
  (∃ node, fields.lookup member.name = some node ∧ member.Tells value node) ∨
    fields.lookup member.name = none ∧ member.default? = some value

namespace Chosen

variable {members : List Member} {written : List (String × Value)} {told : List (String × Node)}

theorem names_sublist (hchosen : Chosen members written told) :
    (told.map Prod.fst).Sublist (members.map Member.name) := by
  induction hchosen with
  | finish => exact .slnil
  | told htells hrest ih => exact ih.cons_cons _
  | omitted hdefault hrest ih => exact ih.cons _

theorem forall_told {P : Node → Prop} (hchosen : Chosen members written told)
    (htells : ∀ member ∈ members, ∀ value node, member.Tells value node → P node) :
    ∀ entry ∈ told, P entry.2 := by
  induction hchosen with
  | finish => simp
  | told hfirst hrest ih =>
      obtain ⟨hhead, htail⟩ := List.forall_mem_cons.mp htells
      exact List.forall_mem_cons.mpr ⟨hhead _ _ hfirst, ih htail⟩
  | omitted hdefault hrest ih => exact ih (List.forall_mem_cons.mp htells).2

theorem found (hchosen : Chosen members written told)
    (hnames : (members.map Member.name).Nodup) {fields : List (String × Node)}
    (hfields : ∀ member ∈ members, fields.lookup member.name = told.lookup member.name) :
    List.Forall₂ (fun member entry => member.Found entry.2 fields) members written := by
  induction hchosen with
  | finish => exact .nil
  | @told member members value node written told htells hrest ih =>
      obtain ⟨hnew, hnames⟩ := List.nodup_cons.mp hnames
      have hfirst := hfields member List.mem_cons_self
      rw [List.lookup_cons_self] at hfirst
      refine .cons (.inl ⟨node, hfirst, htells⟩) (ih hnames fun other hother => ?_)
      have hne : (other.name == member.name) = false := by
        rw [beq_eq_false_iff_ne]
        exact fun hsame => hnew (List.mem_map.mpr ⟨other, hother, hsame⟩)
      rw [hfields other (List.mem_cons_of_mem _ hother), List.lookup_cons, hne]
  | @omitted member members value written told hdefault hrest ih =>
      obtain ⟨hnew, hnames⟩ := List.nodup_cons.mp hnames
      have hfirst := hfields member List.mem_cons_self
      rw [lookup_eq_none_of_not_mem fun hmem => hnew (hrest.names_sublist.subset hmem)] at hfirst
      refine .cons (.inr ⟨hfirst, hdefault⟩) (ih hnames fun other hother => ?_)
      exact hfields other (List.mem_cons_of_mem _ hother)

variable {added shown : List (String × Node)}

theorem perm_restrict (hchosen : Chosen members written told)
    (hadded : ∀ entry ∈ added, entry.1 ∉ members.map Member.name)
    (horder : (told ++ added).Perm shown) :
    told.Perm (restrict (members.map Member.name) shown) :=
  ValuePipeline.perm_restrict horder
    (fun _ hentry => hchosen.names_sublist.subset (List.mem_map_of_mem hentry)) hadded

theorem nodup_restrict (hchosen : Chosen members written told)
    (hnames : (members.map Member.name).Nodup)
    (hadded : ∀ entry ∈ added, entry.1 ∉ members.map Member.name)
    (horder : (told ++ added).Perm shown) :
    ((restrict (members.map Member.name) shown).map Prod.fst).Nodup := by
  have hperm := hchosen.perm_restrict hadded horder
  exact (hperm.map Prod.fst).nodup_iff.mp (hchosen.names_sublist.nodup hnames)

theorem found_restrict (hchosen : Chosen members written told)
    (hnames : (members.map Member.name).Nodup)
    (hadded : ∀ entry ∈ added, entry.1 ∉ members.map Member.name)
    (horder : (told ++ added).Perm shown) :
    List.Forall₂
      (fun member entry => member.Found entry.2 (restrict (members.map Member.name) shown))
      members written :=
  hchosen.found hnames fun _ _ =>
    lookup_perm (hchosen.names_sublist.nodup hnames) (hchosen.perm_restrict hadded horder)

end Chosen

/-! ## Dictionaries -/

namespace Dictionary

variable {α : Type} {entries : List (String × α)}

theorem perm_insertEntry {name : String} (a : α) (hnew : name ∉ entries.map Prod.fst) :
    (insertEntry name a entries).Perm ((name, a) :: entries) := by
  induction entries with
  | nil => exact .refl _
  | cons entry entries ih =>
      obtain ⟨first, b⟩ := entry
      obtain ⟨hne, hnew⟩ := not_or.mp (mt List.mem_cons.mpr hnew)
      simp only [insertEntry, if_neg hne]
      split
      · exact .refl _
      · exact ((ih hnew).cons _).trans (.swap _ _ _)

theorem perm_foldl_insert (dictionary : Dictionary α)
    (hnames : ((dictionary.entries ++ entries).map Prod.fst).Nodup) :
    (entries.foldl (fun dictionary (name, a) => dictionary.insert name a)
      dictionary).entries.Perm (dictionary.entries ++ entries) := by
  induction entries generalizing dictionary with
  | nil => simp
  | cons entry entries ih =>
      obtain ⟨name, a⟩ := entry
      have hmiddle : (dictionary.entries ++ (name, a) :: entries).Perm
          ((name, a) :: dictionary.entries ++ entries) := List.perm_middle
      have hall := (hmiddle.map Prod.fst).nodup_iff.mp hnames
      have hnew : name ∉ dictionary.entries.map Prod.fst := fun hmem =>
        (List.nodup_cons.mp hall).1 ((List.sublist_append_left _ _).map Prod.fst |>.subset hmem)
      have hinsert : ((dictionary.insert name a).entries ++ entries).Perm
          ((name, a) :: dictionary.entries ++ entries) :=
        (perm_insertEntry a hnew).append_right _
      have hrest := ih (dictionary.insert name a) ((hinsert.map Prod.fst).nodup_iff.mpr hall)
      exact hrest.trans (hinsert.trans hmiddle.symm)

theorem nodup_names (dictionary : Dictionary α) :
    (dictionary.entries.map Prod.fst).Nodup := by
  rw [List.Nodup, List.pairwise_map]
  refine dictionary.ascending.imp fun {entry other} hless hsame => ?_
  rw [hsame] at hless
  exact String.lt_irrefl _ hless

theorem ofList_eq_of_perm {dictionary : Dictionary α}
    (hperm : entries.Perm dictionary.entries) : ofList entries = dictionary := by
  have hnames : (entries.map Prod.fst).Nodup :=
    (hperm.map Prod.fst).nodup_iff.mpr dictionary.nodup_names
  have hall : (ofList entries).entries.Perm dictionary.entries :=
    (perm_foldl_insert ∅ hnames).trans hperm
  refine ext_entries (hall.eq_of_pairwise ?_ (ofList entries).ascending dictionary.ascending)
  intro entry other _ _ hless hmore
  exact absurd (String.lt_trans hless hmore) (String.lt_irrefl _)

end Dictionary

/-! ## Reading -/

namespace Reading

variable {α β : Type}

theorem mapM_eq_pure {read : α → Reading β} {items : List α} {results : List β}
    (hitems : List.Forall₂ (fun item result => read item = pure result) items results) :
    items.mapM read = pure results := by
  induction hitems with
  | nil => rfl
  | cons hfirst hrest ih => simp [List.mapM_cons, hfirst, ih]

theorem members_object (entries : List (String × Node)) :
    members (.object entries) = pure entries := by
  have hentries : (entries.map fun entry => (Node.text entry.1, entry.2)).mapM
      (fun entry => do return (← text entry.1, entry.2)) = (pure entries : Reading _) := by
    refine mapM_eq_pure ?_
    rw [List.forall₂_map_left_iff]
    exact List.forall₂_same.mpr fun entry _ => rfl
  exact hentries

theorem pick_eq {names : List String}
    (pick : List (String × β) → Option (List (String × β))) (hnil : pick [] = some [])
    (hcons : ∀ entry rest, pick (entry :: rest) = do
      let known ← pick rest
      if !names.contains entry.1 then return known
      else if (known.lookup entry.1).isSome then failure
      else return entry :: known)
    {entries : List (String × β)} (hnames : ((restrict names entries).map Prod.fst).Nodup) :
    pick entries = some (restrict names entries) := by
  induction entries with
  | nil => exact hnil
  | cons entry entries ih =>
      by_cases hknown : entry.1 ∈ names
      · rw [restrict_cons_of_mem hknown] at hnames ⊢
        obtain ⟨hnew, hnames⟩ := List.nodup_cons.mp hnames
        simp [hcons, ih hnames, hknown, lookup_eq_none_of_not_mem hnew]
      · rw [restrict_cons_of_not_mem hknown] at hnames ⊢
        simp [hcons, ih hnames, hknown]

theorem known?_eq {names : List String} {entries : List (String × Node)}
    (hnames : ((restrict names entries).map Prod.fst).Nodup) :
    known? names entries = some (restrict names entries) :=
  pick_eq (known? names) rfl (fun _ _ => rfl) hnames

theorem members?_eq {names : List String} {entries : List (String × Value)}
    (hnames : ((restrict names entries).map Prod.fst).Nodup) :
    Value.members? names (entries.map fun entry => (.text entry.1, entry.2)) =
      some (restrict names entries) := by
  refine pick_eq (fun entries =>
    Value.members? names (entries.map fun entry => (.text entry.1, entry.2)))
    rfl (fun entry rest => ?_) hnames
  by_cases hknown : entry.1 ∈ names
  · simp [Value.members?, Value.memberName?, hknown]
  · simp [Value.members?, Value.memberName?, hknown]

/-! ### Parts -/

/-- Reading gives back what was written, in whichever way it is told. -/
def Recovers (Tells : Value → Node → Prop) (write : α → Value) (read : Node → Reading α) : Prop :=
  ∀ ⦃a : α⦄ ⦃node : Node⦄, Tells (write a) node → read node = pure a

theorem recovers_text : Recovers TellsScalar .text text := by
  rintro s node ⟨⟩
  rfl

theorem recovers_bool : Recovers TellsScalar .bool bool := by
  rintro b node ⟨⟩
  rfl

variable {Tells : Value → Node → Prop} {write : α → Value} {read : Node → Reading α}

theorem recovers_list (hread : Recovers Tells write read) :
    Recovers (TellsList Tells) (fun as => .list (as.map write))
      (fun node => do (← items node).mapM read) := by
  rintro as node ⟨hitems⟩
  rw [List.forall₂_map_left_iff] at hitems
  exact mapM_eq_pure (hitems.flip.imp fun _ _ htells => hread htells)

theorem recovers_dictionary (hread : Recovers Tells write read) :
    Recovers (TellsDictionary Tells) (fun entries => entries.written write)
      (dictionary read) := by
  intro entries node (htells : TellsDictionary Tells (entries.written write) node)
  generalize hwritten : entries.written write = written at htells
  obtain @⟨written, told, shown, hentries, horder⟩ := htells
  obtain rfl := Value.record_injective hwritten
  rw [List.forall₂_map_left_iff] at hentries
  obtain ⟨found, hfound, hperm⟩ := List.perm_comp_forall₂ horder.symm hentries.flip
  have hmembers : shown.mapM (fun entry => do return (entry.1, ← read entry.2)) =
      (pure found : Reading _) := by
    refine mapM_eq_pure (hfound.imp ?_)
    rintro ⟨name, node⟩ ⟨_, a⟩ ⟨rfl, htells⟩
    simp [hread htells]
  rw [dictionary, members_object, pure_bind, hmembers, pure_bind,
    Dictionary.ofList_eq_of_perm hperm]

/-! ### Records -/

theorem member_eq {name : String} {given? : Option Value} {a default_ : α}
    {fields : List (String × Node)} (hread : Recovers Tells write read)
    (hfound : Member.Found ⟨name, given?, Tells⟩ (write a) fields)
    (hdefault : given? = some (write a) → default_ = a) :
    Reading.member fields name default_ read = pure a := by
  obtain ⟨node, hnode, htells⟩ | ⟨habsent, hsame⟩ := hfound
  · simp only [Reading.member, hnode]
    exact hread htells
  · simp only [Reading.member, habsent]
    rw [hdefault hsame]

theorem record_object {names : List String} {entries : List (String × Node)} (dialect : Dialect)
    (hnames : ((restrict names entries).map Prod.fst).Nodup) :
    record dialect names (.object entries) = pure (restrict names entries) := by
  have hentries : record dialect names (.object entries) =
      (do ofOption (known? names (← members (.object entries)))) := rfl
  rw [hentries, members_object, pure_bind, known?_eq hnames]
  rfl

theorem exists_record_eq {known : List Member} {Allowed : Node → Prop}
    {written : List (String × Value)} {node : Node}
    (htells : TellsRecord known Allowed (.record written) node)
    (hnames : (known.map Member.name).Nodup) (dialect : Dialect) :
    ∃ fields, record dialect (known.map Member.name) node = pure fields ∧
      List.Forall₂ (fun member entry => member.Found entry.2 fields) known written := by
  obtain ⟨told, added, shown, rfl, hchosen, hadded, horder⟩ := htells.exists_chosen
  have hunknown := fun entry hentry => (hadded entry hentry).1
  have hnodup := hchosen.nodup_restrict hnames hunknown horder
  exact ⟨_, record_object dialect hnodup, hchosen.found_restrict hnames hunknown horder⟩

end Reading

end ValuePipeline
