import Mathlib.Data.List.Induction
import Mathlib.Data.List.Nodup
import Mathlib.Data.String.Basic
import ValuePipeline.Proofs.Compile
import ValuePipeline.Proofs.Setup

/-!
# What a registry holds

The calls that a registry builder accepted, in order, say all there is to know of it.
A type is pending if one of them was for it, and the registry that is built has, for
each of these types, the builder of the last call for it, compiled as its draft is by
then.
-/

namespace ValuePipeline

variable {Ty : Type} [TypeCode Ty] {type : Ty}

/-! ## The last call for a type -/

def Accepted (accepted : List (Pending Ty)) (type : Ty) : Prop :=
  ∃ entry ∈ accepted, entry.type = type

def LastAccepted (accepted : List (Pending Ty)) (entry : Pending Ty) : Prop :=
  ∃ earlier later, accepted = earlier ++ entry :: later ∧
    ∀ other ∈ later, other.type ≠ entry.type

section LastAccepted

omit [TypeCode Ty]

variable {accepted : List (Pending Ty)} {entry new : Pending Ty}

theorem LastAccepted.mem (hlast : LastAccepted accepted entry) : entry ∈ accepted := by
  obtain ⟨earlier, later, rfl, -⟩ := hlast
  simp

theorem lastAccepted_concat_iff :
    LastAccepted (accepted ++ [new]) entry ↔
      entry = new ∨ entry.type ≠ new.type ∧ LastAccepted accepted entry := by
  constructor
  · rintro ⟨earlier, later, haccepted, hlater⟩
    rcases List.eq_nil_or_concat later with rfl | ⟨before, last, rfl⟩
    · obtain ⟨-, hentry⟩ := List.append_inj' haccepted rfl
      exact .inl (List.singleton_inj.mp hentry).symm
    · have hsplit : accepted ++ [new] = (earlier ++ entry :: before) ++ [last] := by
        rw [haccepted, List.concat_eq_append, List.append_assoc, List.cons_append]
      obtain ⟨hbefore, hnew⟩ := List.append_inj' hsplit rfl
      obtain rfl := List.singleton_inj.mp hnew
      refine .inr ⟨(hlater new (by simp)).symm, earlier, before, hbefore, ?_⟩
      exact fun other hother => hlater other (by simp [hother])
  · rintro (rfl | ⟨hne, earlier, later, rfl, hlater⟩)
    · exact ⟨accepted, [], rfl, by simp⟩
    · refine ⟨earlier, later ++ [new], by simp, ?_⟩
      intro other hother
      rcases List.mem_append.mp hother with hbefore | hnew
      · exact hlater other hbefore
      · rw [List.mem_singleton.mp hnew]
        exact hne.symm

variable [DecidableEq Ty]

theorem exists_lastAccepted_iff :
    (∃ builder, LastAccepted accepted ⟨type, builder⟩) ↔ Accepted accepted type := by
  constructor
  · rintro ⟨builder, hlast⟩
    exact ⟨_, hlast.mem, rfl⟩
  · rintro ⟨entry, hmem, rfl⟩
    induction accepted using List.reverseRecOn with
    | nil => cases hmem
    | append_singleton accepted new ih =>
        by_cases hnew : new.type = entry.type
        · rw [← hnew]
          exact ⟨new.builder, lastAccepted_concat_iff.mpr (.inl rfl)⟩
        · have hbefore : entry ∈ accepted := by
            rcases List.mem_append.mp hmem with hbefore | hlast
            · exact hbefore
            · exact absurd (by rw [List.mem_singleton.mp hlast]) hnew
          obtain ⟨builder, hlast⟩ := ih hbefore
          exact ⟨builder, lastAccepted_concat_iff.mpr (.inr ⟨Ne.symm hnew, hlast⟩)⟩

end LastAccepted

/-! ## What a registry builder keeps -/

variable [DecidableEq Ty]

namespace RegistryBuilder

variable {registry : RegistryBuilder Ty} {entry new : Pending Ty}

omit [TypeCode Ty] in
theorem contains_iff : registry.contains type ↔ ∃ entry ∈ registry.pending, entry.type = type := by
  simp [contains]

omit [TypeCode Ty] in
theorem mem_insert_iff :
    entry ∈ (registry.insert new).pending ↔
      entry = new ∨ entry.type ≠ new.type ∧ entry ∈ registry.pending := by
  by_cases hnew : registry.contains new.type
  · obtain ⟨old, hold, htype⟩ := contains_iff.mp hnew
    simp only [insert, if_pos hnew, List.mem_map]
    constructor
    · rintro ⟨other, hother, rfl⟩
      by_cases hsame : other.type = new.type
      · exact .inl (if_pos hsame)
      · rw [if_neg hsame]
        exact .inr ⟨hsame, hother⟩
    · rintro (rfl | ⟨hne, hentry⟩)
      · exact ⟨old, hold, if_pos htype⟩
      · exact ⟨entry, hentry, if_neg hne⟩
  · simp only [insert, if_neg hnew, List.mem_append, List.mem_singleton]
    constructor
    · rintro (hentry | rfl)
      · exact .inr ⟨fun h => hnew (contains_iff.mpr ⟨entry, hentry, h⟩), hentry⟩
      · exact .inl rfl
    · rintro (rfl | ⟨-, hentry⟩)
      · exact .inr rfl
      · exact .inl hentry

omit [TypeCode Ty] in
theorem nodup_types_insert (htypes : (registry.pending.map Pending.type).Nodup) :
    ((registry.insert new).pending.map Pending.type).Nodup := by
  by_cases hnew : registry.contains new.type
  · have hsame : (registry.insert new).pending.map Pending.type =
        registry.pending.map Pending.type := by
      simp only [insert, if_pos hnew, List.map_map]
      refine List.map_congr_left fun other _ => ?_
      simp only [Function.comp_apply]
      split
      case isTrue h => exact h.symm
      case isFalse => rfl
    rw [hsame]
    exact htypes
  · simp only [insert, if_neg hnew, List.map_append, List.map_singleton]
    refine List.nodup_append.mpr ⟨htypes, by simp, ?_⟩
    intro type hmem other hother hsame
    obtain ⟨entry, hentry, rfl⟩ := List.mem_map.mp hmem
    exact hnew (contains_iff.mpr ⟨entry, hentry, hsame.trans (List.mem_singleton.mp hother)⟩)

/-- There is one entry for each type that was accepted, that of the last call for it. -/
structure Keeps (registry : RegistryBuilder Ty) (accepted : List (Pending Ty)) : Prop where
  types : (registry.pending.map Pending.type).Nodup
  pending : ∀ entry, entry ∈ registry.pending ↔ LastAccepted accepted entry

namespace Keeps

variable {accepted : List (Pending Ty)}

omit [TypeCode Ty] [DecidableEq Ty] in
theorem empty (policy : DuplicatePolicy) : Keeps ({ policy } : RegistryBuilder Ty) [] where
  types := List.nodup_nil
  pending entry := by simp [LastAccepted]

omit [TypeCode Ty] [DecidableEq Ty] in
theorem withPolicy (hkeeps : registry.Keeps accepted) (policy : DuplicatePolicy) :
    Keeps { registry with policy } accepted :=
  ⟨hkeeps.types, hkeeps.pending⟩

omit [TypeCode Ty] in
theorem insert (hkeeps : registry.Keeps accepted) (new : Pending Ty) :
    (registry.insert new).Keeps (accepted ++ [new]) where
  types := nodup_types_insert hkeeps.types
  pending entry := by
    rw [mem_insert_iff, lastAccepted_concat_iff, hkeeps.pending]

omit [TypeCode Ty] in
theorem contains_iff (hkeeps : registry.Keeps accepted) :
    registry.contains type ↔ Accepted accepted type := by
  rw [RegistryBuilder.contains_iff, ← exists_lastAccepted_iff]
  constructor
  · rintro ⟨entry, hentry, rfl⟩
    exact ⟨entry.builder, (hkeeps.pending entry).mp hentry⟩
  · rintro ⟨builder, hlast⟩
    exact ⟨_, (hkeeps.pending _).mpr hlast, rfl⟩

end Keeps

/-! ## What the calls do -/

variable {bench : Workbench Ty}

theorem on_configure (registry : RegistryBuilder Ty) (body : Builder type → Setup Ty Unit) :
    Setup.on (registry.configure type body) bench =
      if registry.policy = .reject ∧ registry.contains type then
        (.error (.duplicateType (TypeCode.name type)), bench)
      else
        match Setup.on (body (bench.place type).1) (bench.place type).2 with
        | (.error error, after) => (.error error, after)
        | (.ok _, after) =>
            (.ok (registry.insert ⟨type, (bench.place type).1⟩),
              after.note [.typeRegistered (TypeCode.name type) (registry.contains type)]) := by
  by_cases hrefused : registry.policy = .reject ∧ registry.contains type
  · simp only [configure, if_pos hrefused, Setup.on_bind, Setup.on_throw]
  · simp only [configure, if_neg hrefused, Setup.on_bind, Setup.on_new, Setup.on_note,
      Setup.on_pure]
    rcases Setup.on (body _) _ with ⟨_ | _, after⟩ <;> rfl

def compiled (registry : RegistryBuilder Ty) (bench : Workbench Ty) : Registry Ty :=
  ⟨registry.pending.map fun entry => ⟨entry.type, ⟨bench.compile entry.builder⟩⟩⟩

theorem on_mapM_build (pending : List (Pending Ty)) (bench : Workbench Ty) :
    ∃ notices,
      Setup.on (pending.mapM fun entry => do
        return (⟨entry.type, ⟨← entry.builder.build⟩⟩ : Registered Ty)) bench =
      (.ok (pending.map fun entry => ⟨entry.type, ⟨bench.compile entry.builder⟩⟩),
        bench.note notices) := by
  induction pending generalizing bench with
  | nil => exact ⟨[], by simp [Workbench.note]⟩
  | cons entry pending ih =>
      obtain ⟨notices, hpending⟩ := ih (bench.note (bench.compile entry.builder).notices)
      refine ⟨(bench.compile entry.builder).notices ++ notices, ?_⟩
      simp only [List.mapM_cons, Setup.on_bind, Setup.on_build, Setup.on_pure, hpending,
        Workbench.compile_note, List.map_cons, Workbench.note_note]

theorem on_build (registry : RegistryBuilder Ty) (bench : Workbench Ty) :
    ∃ notices,
      Setup.on registry.build bench = (.ok (registry.compiled bench), bench.note notices) := by
  obtain ⟨notices, hentries⟩ := on_mapM_build registry.pending bench
  refine ⟨notices ++ [.registryBuilt registry.pending.length], ?_⟩
  simp only [build, Setup.on_bind, hentries, Setup.on_note, Setup.on_pure, compiled,
    Workbench.note_note, List.length_map]

end RegistryBuilder

/-! ## What is read from a registry -/

/-- The registry has the types that were accepted, each as the last call for it left it. -/
structure Registry.Reflects (registry : Registry Ty) (accepted : List (Pending Ty))
    (bench : Workbench Ty) : Prop where
  contains : ∀ type, registry.contains type ↔ Accepted accepted type
  registered : ∀ type,
    (∃ sanitizer, registry.sanitizer type = .ok sanitizer) ↔ Accepted accepted type
  missing : ∀ type, ¬ Accepted accepted type →
    registry.sanitizer type = .error (.typeNotRegistered (TypeCode.name type))
  sanitizer : ∀ type (builder : Builder type), LastAccepted accepted ⟨type, builder⟩ →
    registry.sanitizer type = .ok ⟨bench.compile builder⟩
  types : ∃ types : List Ty, types.Nodup ∧ (∀ type, type ∈ types ↔ Accepted accepted type) ∧
    registry.size = types.length ∧ registry.typeNames.Perm (types.map TypeCode.name)
  sorted : registry.typeNames.Pairwise (· ≤ ·)
  distinct : (Function.Injective fun type : Ty => TypeCode.name type) →
    registry.typeNames.Pairwise (· < ·)

namespace RegistryBuilder

variable {registry : RegistryBuilder Ty} {accepted : List (Pending Ty)} {bench : Workbench Ty}

theorem sanitizer?_compiled (htypes : (registry.pending.map Pending.type).Nodup)
    {builder : Builder type} (hpending : ⟨type, builder⟩ ∈ registry.pending) :
    (registry.compiled bench).sanitizer? type = some ⟨bench.compile builder⟩ := by
  obtain ⟨policy, pending⟩ := registry
  simp only [compiled, Registry.sanitizer?, List.findSome?_map] at *
  induction pending with
  | nil => cases hpending
  | cons entry pending ih =>
      obtain ⟨hnew, htypes⟩ := List.nodup_cons.mp htypes
      rcases List.mem_cons.mp hpending with rfl | hpending
      · simp
      · have hother : entry.type ≠ type := by
          intro hsame
          exact hnew (List.mem_map.mpr ⟨_, hpending, hsame.symm⟩)
        rw [List.findSome?_cons_of_isNone]
        · exact ih htypes hpending
        · simp [hother]

theorem sanitizer?_compiled_eq_none
    (hmissing : ∀ entry ∈ registry.pending, entry.type ≠ type) :
    (registry.compiled bench).sanitizer? type = none := by
  simpa [compiled, Registry.sanitizer?] using hmissing

theorem size_compiled : (registry.compiled bench).size = registry.pending.length := by
  simp [compiled, Registry.size]

theorem perm_typeNames_compiled :
    (registry.compiled bench).typeNames.Perm
      ((registry.pending.map Pending.type).map TypeCode.name) := by
  refine (List.mergeSort_perm _ _).trans ?_
  simp [compiled, Function.comp_def]

end RegistryBuilder

omit [DecidableEq Ty] in
theorem Registry.sorted_typeNames (registry : Registry Ty) :
    registry.typeNames.Pairwise (· ≤ ·) := by
  have htrans (a b c : String) : decide (a ≤ b) → decide (b ≤ c) → decide (a ≤ c) := by
    simpa using String.le_trans
  have htotal (a b : String) : decide (a ≤ b) || decide (b ≤ a) := by
    simpa using String.le_total a b
  have hsorted := List.pairwise_mergeSort htrans htotal
    (registry.entries.map fun entry => TypeCode.name entry.type)
  simpa [typeNames] using hsorted

namespace RegistryBuilder.Keeps

variable {registry : RegistryBuilder Ty} {accepted : List (Pending Ty)}

omit [TypeCode Ty] in
theorem mem_types_iff (hkeeps : registry.Keeps accepted) :
    type ∈ registry.pending.map Pending.type ↔ Accepted accepted type := by
  rw [← hkeeps.contains_iff, RegistryBuilder.contains_iff, List.mem_map]

theorem sanitizer_of_last (hkeeps : registry.Keeps accepted) (bench : Workbench Ty)
    {builder : Builder type} (hlast : LastAccepted accepted ⟨type, builder⟩) :
    (registry.compiled bench).sanitizer type = .ok ⟨bench.compile builder⟩ := by
  rw [Registry.sanitizer, sanitizer?_compiled hkeeps.types ((hkeeps.pending _).mpr hlast)]

theorem sanitizer_of_missing (hkeeps : registry.Keeps accepted) (bench : Workbench Ty)
    (hmissing : ¬ Accepted accepted type) :
    (registry.compiled bench).sanitizer type =
      .error (.typeNotRegistered (TypeCode.name type)) := by
  rw [Registry.sanitizer, sanitizer?_compiled_eq_none]
  intro entry hentry htype
  exact hmissing (hkeeps.mem_types_iff.mp (List.mem_map.mpr ⟨entry, hentry, htype⟩))

theorem sanitizer_isOk_iff (hkeeps : registry.Keeps accepted) (bench : Workbench Ty) :
    (∃ sanitizer, (registry.compiled bench).sanitizer type = .ok sanitizer) ↔
      Accepted accepted type := by
  constructor
  · rintro ⟨sanitizer, hsanitizer⟩
    by_contra hmissing
    rw [hkeeps.sanitizer_of_missing bench hmissing] at hsanitizer
    cases hsanitizer
  · intro haccepted
    obtain ⟨builder, hlast⟩ := exists_lastAccepted_iff.mpr haccepted
    exact ⟨_, hkeeps.sanitizer_of_last bench hlast⟩

theorem contains_compiled_iff (hkeeps : registry.Keeps accepted) (bench : Workbench Ty) :
    (registry.compiled bench).contains type ↔ Accepted accepted type := by
  rw [← hkeeps.contains_iff]
  simp [RegistryBuilder.contains, Registry.contains, RegistryBuilder.compiled]

theorem typeNames_ascending (hkeeps : registry.Keeps accepted) (bench : Workbench Ty)
    (hnames : Function.Injective fun type : Ty => TypeCode.name type) :
    (registry.compiled bench).typeNames.Pairwise (· < ·) := by
  have hnodup : (registry.compiled bench).typeNames.Nodup :=
    perm_typeNames_compiled.nodup_iff.mpr (hkeeps.types.map hnames)
  refine ((Registry.sorted_typeNames _).and hnodup).imp ?_
  rintro a b ⟨hle, hne⟩
  exact lt_of_le_of_ne hle hne

theorem reflects_compiled (hkeeps : registry.Keeps accepted) (bench : Workbench Ty) :
    (registry.compiled bench).Reflects accepted bench where
  contains _ := hkeeps.contains_compiled_iff bench
  registered _ := hkeeps.sanitizer_isOk_iff bench
  missing _ := hkeeps.sanitizer_of_missing bench
  sanitizer _ _ := hkeeps.sanitizer_of_last bench
  types := ⟨registry.pending.map Pending.type, hkeeps.types, fun _ => hkeeps.mem_types_iff,
    by rw [size_compiled, List.length_map], perm_typeNames_compiled⟩
  sorted := Registry.sorted_typeNames _
  distinct := hkeeps.typeNames_ascending bench

end RegistryBuilder.Keeps

end ValuePipeline
