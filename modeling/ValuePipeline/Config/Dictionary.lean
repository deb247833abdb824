/-!
# Dictionaries

A dictionary gives names their values.  Its entries stand in the order of their
names and no name comes twice, so two dictionaries with the same entries are
equal.
-/

namespace ValuePipeline

def Ascending {α : Type} (entries : List (String × α)) : Prop :=
  entries.Pairwise fun a b => a.1 < b.1

structure Dictionary (α : Type) where
  entries : List (String × α)
  ascending : Ascending entries

namespace Dictionary

variable {α β : Type}

instance [DecidableEq α] : DecidableEq (Dictionary α) := fun a b =>
  if same : a.entries = b.entries then
    isTrue (by cases a; cases b; cases same; rfl)
  else isFalse (fun equal => same (congrArg entries equal))

@[ext]
theorem ext_entries {a b : Dictionary α} (same : a.entries = b.entries) : a = b := by
  cases a; cases b; cases same; rfl

def empty : Dictionary α := ⟨[], List.Pairwise.nil⟩

instance : EmptyCollection (Dictionary α) := ⟨empty⟩
instance : Inhabited (Dictionary α) := ⟨empty⟩

/-! ## Putting entries in -/

def insertEntry (name : String) (value : α) : List (String × α) → List (String × α)
  | [] => [(name, value)]
  | (other, known) :: rest =>
      if name < other then (name, value) :: (other, known) :: rest
      else if name = other then (name, value) :: rest
      else (other, known) :: insertEntry name value rest

theorem mem_insertEntry {name : String} {value : α} {entries : List (String × α)}
    {entry : String × α} (found : entry ∈ insertEntry name value entries) :
    entry = (name, value) ∨ entry ∈ entries := by
  induction entries with
  | nil => simpa [insertEntry] using found
  | cons head rest ih =>
      obtain ⟨other, known⟩ := head
      simp only [insertEntry] at found
      split at found
      · simpa using found
      · split at found
        · rcases List.mem_cons.1 found with rfl | found
          · exact .inl rfl
          · exact .inr (List.mem_cons_of_mem _ found)
        · rcases List.mem_cons.1 found with rfl | found
          · exact .inr List.mem_cons_self
          · exact (ih found).imp_right (List.mem_cons_of_mem _)

theorem ascending_insertEntry (name : String) (value : α) {entries : List (String × α)}
    (sorted : Ascending entries) : Ascending (insertEntry name value entries) := by
  induction entries with
  | nil => simp [insertEntry, Ascending]
  | cons head rest ih =>
      obtain ⟨other, known⟩ := head
      obtain ⟨first, later⟩ := List.pairwise_cons.1 sorted
      simp only [insertEntry]
      split
      · rename_i before
        refine List.pairwise_cons.2 ⟨fun entry found => ?_, sorted⟩
        rcases List.mem_cons.1 found with rfl | found
        · exact before
        · exact String.lt_trans before (first entry found)
      · rename_i notBefore
        split
        · rename_i same
          exact List.pairwise_cons.2 ⟨by simpa [same] using first, later⟩
        · rename_i differ
          refine List.pairwise_cons.2 ⟨fun entry found => ?_, ih later⟩
          rcases mem_insertEntry found with rfl | found
          · exact Decidable.byContradiction fun notAfter =>
              differ (String.le_antisymm (String.not_lt.1 notAfter) (String.not_lt.1 notBefore))
          · exact first entry found

def insert (dictionary : Dictionary α) (name : String) (value : α) : Dictionary α :=
  ⟨insertEntry name value dictionary.entries,
    ascending_insertEntry name value dictionary.ascending⟩

/-- The entries of a list; of two with one name the later one counts. -/
def ofList (entries : List (String × α)) : Dictionary α :=
  entries.foldl (fun dictionary (name, value) => dictionary.insert name value) ∅

/-! ## Looking up -/

def get? (dictionary : Dictionary α) (name : String) : Option α :=
  dictionary.entries.lookup name

def size (dictionary : Dictionary α) : Nat := dictionary.entries.length

end Dictionary

end ValuePipeline
