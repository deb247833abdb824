import ValuePipeline.Proofs.Accesses

/-!
# What is refused

The error of an expression that does not resolve, told by the first fault it has.  The
number of parameters comes before the shape of the body, the shape before what the
innermost access is made on, and this before the types; the types are followed from the
root inwards, then the last one is compared with the leaf, and only then is it asked
which fields can be written.  Each rule below says that none before it applies, so an
expression with several faults has one error only.
-/

namespace ValuePipeline

variable {Ty : Type} [TypeCode Ty] {root leaf type middle : Ty}

/-! ## Fields that continue one another -/

/-- Each field is declared on the type that is there before it; whether it can be written is
left open. -/
inductive Continues : Ty → List (Descriptor Ty) → Ty → Prop where
  | stay {type : Ty} : Continues type [] type
  | through {type last : Ty} {field : Descriptor Ty} {fields : List (Descriptor Ty)}
      (howner : field.owner = type) (hrest : Continues field.value fields last) :
      Continues type (field :: fields) last

section Continues

variable [DecidableEq Ty] {fields : List (Descriptor Ty)}

theorem yieldedType_eq_ok_iff : yieldedType root fields = .ok type ↔ Continues root fields type := by
  induction fields generalizing root with
  | nil =>
      constructor
      · intro hyield
        cases hyield
        exact .stay
      · rintro ⟨⟩
        rfl
  | cons field fields ih =>
      rw [yieldedType_cons]
      constructor
      · intro hyield
        split at hyield
        case isTrue howner => exact .through howner (ih.mp hyield)
        case isFalse => cases hyield
      · rintro (_ | ⟨howner, hrest⟩)
        rw [if_pos howner]
        exact ih.mpr hrest

theorem yieldedType_eq_error_iff {reason : PathError} :
    yieldedType root fields = .error reason ↔
      ∃ before field after type, fields = before ++ field :: after ∧
        Continues root before type ∧ field.owner ≠ type ∧
        reason = .discontinuousChain field.name field.ownerName (TypeCode.name type) := by
  induction fields generalizing root with
  | nil =>
      have hnone : yieldedType root ([] : List (Descriptor Ty)) ≠ .error reason := nofun
      simp [hnone]
  | cons field fields ih =>
      rw [yieldedType_cons]
      by_cases howner : field.owner = root
      · rw [if_pos howner, ih]
        constructor
        · rintro ⟨before, offender, after, type, rfl, hbefore, hoffender, hreason⟩
          exact ⟨field :: before, offender, after, type, rfl, .through howner hbefore, hoffender,
            hreason⟩
        · rintro ⟨before, offender, after, type, hfields, hbefore, hoffender, hreason⟩
          cases hbefore with
          | stay =>
              obtain ⟨rfl, -⟩ := List.cons.inj hfields
              exact absurd howner hoffender
          | through _ hbefore =>
              obtain ⟨rfl, rfl⟩ := List.cons.inj hfields
              exact ⟨_, offender, after, type, rfl, hbefore, hoffender, hreason⟩
      · rw [if_neg howner]
        constructor
        · intro hreason
          cases hreason
          exact ⟨[], field, fields, root, rfl, .stay, howner, rfl⟩
        · rintro ⟨before, offender, after, type, hfields, hbefore, hoffender, rfl⟩
          cases hbefore with
          | stay =>
              obtain ⟨rfl, -⟩ := List.cons.inj hfields
              rfl
          | through hfirst _ =>
              obtain ⟨rfl, -⟩ := List.cons.inj hfields
              exact absurd hfirst howner

end Continues

/-! ## What the innermost access is made on -/

/-- No chain starts here.  What is below a call plays no part. -/
inductive PathNode.Groundless (p : Parameter) : PathNode Ty → PathError → Prop where
  | call (base : PathNode Ty) (method : String) :
      Groundless p (.call base method) (.unsupportedBase "method call")
  | constant (text : String) : Groundless p (.constant text) (.unsupportedBase "constant")
  | foreign {q : Parameter} (hforeign : q ≠ p) : Groundless p (.parameter q) .foreignParameter

namespace PathNode

variable {p : Parameter} {node : PathNode Ty} {reason : PathError}

theorem Groundless.not_member {base : PathNode Ty} {field : Descriptor Ty} :
    ¬ (member base field).Groundless p reason :=
  nofun

theorem spine_eq_error_iff :
    node.spine p = .error reason ↔
      ∃ base fields, node = members base fields ∧ base.Groundless p reason := by
  constructor
  · intro hspine
    induction node with
    | parameter q =>
        rw [spine_parameter] at hspine
        split at hspine
        case isTrue => cases hspine
        case isFalse hforeign =>
            cases hspine
            exact ⟨_, [], rfl, .foreign hforeign⟩
    | member base field ih =>
        rw [spine_member] at hspine
        cases hbase : base.spine p with
        | ok fields =>
            rw [hbase] at hspine
            cases hspine
        | error other =>
            rw [hbase] at hspine
            cases hspine
            obtain ⟨ground, fields, rfl, hground⟩ := ih hbase
            exact ⟨ground, fields ++ [field], (members_concat ground fields field).symm, hground⟩
    | call base method =>
        cases hspine
        exact ⟨_, [], rfl, .call base method⟩
    | constant text =>
        cases hspine
        exact ⟨_, [], rfl, .constant text⟩
  · rintro ⟨base, fields, rfl, hground⟩
    induction fields using List.reverseRecOn with
    | nil =>
        cases hground with
        | call base method => rfl
        | constant text => rfl
        | foreign hforeign => exact if_neg hforeign
    | append_singleton fields field ih =>
        rw [members_concat, spine_member, ih]
        rfl

end PathNode

/-! ## The first fault -/

/-- The error of an expression, by the first of its faults. -/
inductive PathExpression.Rejected (path : PathExpression root leaf) : SetupError → Prop where
  | parameterCount (hcount : path.parameters.length ≠ 1) :
      Rejected path (.invalidPath (.parameterCount path.parameters.length))
  | notMemberAccess {p : Parameter} (hparameters : path.parameters = [p])
      (hbody : ∀ base field, path.body ≠ .member base field) :
      Rejected path (.invalidPath (.notMemberAccess path.body.kind))
  | groundless {p : Parameter} {base : PathNode Ty} {fields : List (Descriptor Ty)}
      {reason : PathError} (hparameters : path.parameters = [p]) (hfields : fields ≠ [])
      (hbody : path.body = base.members fields) (hbase : base.Groundless p reason) :
      Rejected path (.invalidPath reason)
  | discontinuous {p : Parameter} {before after : List (Descriptor Ty)} {field : Descriptor Ty}
      {yielded : Ty} (hparameters : path.parameters = [p])
      (hbody : path.body = (PathNode.parameter p).members (before ++ field :: after))
      (hbefore : Continues root before yielded) (howner : field.owner ≠ yielded) :
      Rejected path (.invalidPath
        (.discontinuousChain field.name field.ownerName (TypeCode.name yielded)))
  | leafType {p : Parameter} {fields : List (Descriptor Ty)} {found : Ty}
      (hparameters : path.parameters = [p]) (hfields : fields ≠ [])
      (hbody : path.body = (PathNode.parameter p).members fields)
      (hcontinues : Continues root fields found) (hleaf : found ≠ leaf) :
      Rejected path (.invalidPath (.leafTypeMismatch (TypeCode.name leaf) (TypeCode.name found)))
  | notWritable {p : Parameter} {before after : List (Descriptor Ty)} {field : Descriptor Ty}
      (hparameters : path.parameters = [p])
      (hbody : path.body = (PathNode.parameter p).members (before ++ field :: after))
      (hcontinues : Continues root (before ++ field :: after) leaf)
      (hbefore : ∀ outer ∈ before, outer.access = .exposed) (hfield : field.access ≠ .exposed) :
      Rejected path (.fieldNotWritable field.ownerName field.name field.access)

theorem Access.isExposed_iff {access : Access} : access.isExposed = true ↔ access = .exposed := by
  cases access <;> simp [Access.isExposed]

theorem find?_not_exposed_iff {fields : List (Descriptor Ty)} {field : Descriptor Ty} :
    (fields.find? fun field => !field.access.isExposed) = some field ↔
      ∃ before after, fields = before ++ field :: after ∧ field.access ≠ .exposed ∧
        ∀ outer ∈ before, outer.access = .exposed := by
  rw [List.find?_eq_some_iff_append]
  simp only [Bool.not_eq_true', Bool.not_not, Access.isExposed_iff, ← Bool.not_eq_true]
  grind

theorem PathNode.exists_members_eq_member (base : PathNode Ty) {fields : List (Descriptor Ty)}
    (hfields : fields ≠ []) : ∃ outer field, base.members fields = member outer field := by
  rw [← List.dropLast_concat_getLast hfields, members_concat]
  exact ⟨_, _, rfl⟩

theorem PathNode.ne_nil_of_member_eq {p : Parameter} {outer : PathNode Ty}
    {field : Descriptor Ty} {fields : List (Descriptor Ty)}
    (hbody : member outer field = (parameter p).members fields) : fields ≠ [] := by
  rintro rfl
  cases hbody

variable [DecidableEq Ty]

theorem resolve_members {p : Parameter} {fields : List (Descriptor Ty)} (hfields : fields ≠ []) :
    resolve (⟨[p], (PathNode.parameter p).members fields⟩ : PathExpression root leaf) =
      match yieldedType root fields with
      | .error reason => .error (.invalidPath reason)
      | .ok yielded =>
          if yielded = leaf then
            match fields.find? fun field => !field.access.isExposed with
            | some field => .error (.fieldNotWritable field.ownerName field.name field.access)
            | none => .ok ⟨fields⟩
          else
            .error (.invalidPath (.leafTypeMismatch (TypeCode.name leaf)
              (TypeCode.name yielded))) := by
  have hspine := PathNode.spine_members p fields
  obtain ⟨outer, field, hbody⟩ := (PathNode.parameter p).exists_members_eq_member hfields
  rw [hbody] at hspine ⊢
  have hresolve : resolve (⟨[p], .member outer field⟩ : PathExpression root leaf) = _ :=
    resolve_member p outer field
  rw [hspine] at hresolve
  simp only [List.reverse_reverse] at hresolve
  exact hresolve

theorem rejected_of_resolve_members {p : Parameter} {fields : List (Descriptor Ty)}
    (hfields : fields ≠ []) {error : SetupError}
    (hresolve : resolve (⟨[p], (PathNode.parameter p).members fields⟩ :
      PathExpression root leaf) = .error error) :
    PathExpression.Rejected (⟨[p], (PathNode.parameter p).members fields⟩ :
      PathExpression root leaf) error := by
  rw [resolve_members hfields] at hresolve
  cases hyield : yieldedType root fields with
  | error reason =>
      rw [hyield] at hresolve
      cases hresolve
      obtain ⟨before, field, after, yielded, rfl, hbefore, howner, rfl⟩ :=
        yieldedType_eq_error_iff.mp hyield
      exact .discontinuous rfl rfl hbefore howner
  | ok yielded =>
      have hcontinues := yieldedType_eq_ok_iff.mp hyield
      simp only [hyield] at hresolve
      by_cases hleaf : yielded = leaf
      · subst hleaf
        rw [if_pos rfl] at hresolve
        cases hfind : fields.find? fun field => !field.access.isExposed with
        | none =>
            rw [hfind] at hresolve
            cases hresolve
        | some field =>
            rw [hfind] at hresolve
            cases hresolve
            obtain ⟨before, after, rfl, hfield, hbefore⟩ := find?_not_exposed_iff.mp hfind
            exact .notWritable rfl rfl hcontinues hbefore hfield
      · rw [if_neg hleaf] at hresolve
        cases hresolve
        exact .leafType rfl hfields rfl hcontinues hleaf

theorem rejected_of_resolve_eq_error {path : PathExpression root leaf} {error : SetupError}
    (hresolve : resolve path = .error error) : path.Rejected error := by
  obtain ⟨parameters, body⟩ := path
  match parameters, body with
  | [], _ =>
      cases hresolve
      exact .parameterCount nofun
  | _ :: _ :: _, _ =>
      cases hresolve
      exact .parameterCount nofun
  | [p], .parameter _ =>
      cases hresolve
      exact .notMemberAccess rfl nofun
  | [p], .call _ _ =>
      cases hresolve
      exact .notMemberAccess rfl nofun
  | [p], .constant _ =>
      cases hresolve
      exact .notMemberAccess rfl nofun
  | [p], .member base field =>
      cases hspine : (PathNode.member base field).spine p with
      | error reason =>
          rw [resolve_member, hspine] at hresolve
          cases hresolve
          obtain ⟨ground, fields, hbody, hground⟩ := PathNode.spine_eq_error_iff.mp hspine
          refine .groundless rfl ?_ hbody hground
          rintro rfl
          rw [PathNode.members_nil] at hbody
          subst hbody
          exact hground.not_member
      | ok spine =>
          have hbody := (PathNode.spine_eq_ok_iff p).mp hspine
          have hfields := PathNode.ne_nil_of_member_eq hbody
          rw [hbody] at hresolve ⊢
          exact rejected_of_resolve_members hfields hresolve

theorem PathExpression.Rejected.resolve_eq {path : PathExpression root leaf} {error : SetupError}
    (hrejected : path.Rejected error) : resolve path = .error error := by
  obtain ⟨parameters, body⟩ := path
  cases hrejected with
  | parameterCount hcount =>
      match parameters with
      | [] => rfl
      | [_] => exact absurd rfl hcount
      | _ :: _ :: _ => rfl
  | notMemberAccess hparameters hbody =>
      cases hparameters
      cases body with
      | parameter q => rfl
      | member base field => exact absurd rfl (hbody base field)
      | call base method => rfl
      | constant text => rfl
  | @groundless p base fields reason hparameters hfields hbody hbase =>
      have hspine : body.spine p = .error reason :=
        PathNode.spine_eq_error_iff.mpr ⟨base, fields, hbody, hbase⟩
      obtain ⟨outer, field, houter⟩ := base.exists_members_eq_member hfields
      cases hparameters
      cases hbody.trans houter
      rw [resolve_member, hspine]
  | @discontinuous p before after field yielded hparameters hbody hbefore howner =>
      cases hparameters
      obtain rfl : body = _ := hbody
      have hfields : before ++ field :: after ≠ [] := by simp
      have hyield := yieldedType_eq_error_iff.mpr
        ⟨before, field, after, yielded, rfl, hbefore, howner, rfl⟩
      rw [resolve_members hfields, hyield]
  | leafType hparameters hfields hbody hcontinues hleaf =>
      cases hparameters
      obtain rfl : body = _ := hbody
      rw [resolve_members hfields, yieldedType_eq_ok_iff.mpr hcontinues]
      exact if_neg hleaf
  | @notWritable p before after field hparameters hbody hcontinues hbefore hfield =>
      cases hparameters
      obtain rfl : body = _ := hbody
      have hfields : before ++ field :: after ≠ [] := by simp
      have hfind := find?_not_exposed_iff.mpr ⟨before, after, rfl, hfield, hbefore⟩
      rw [resolve_members hfields, yieldedType_eq_ok_iff.mpr hcontinues]
      simp only [hfind, if_true]

/--
An expression is refused with the error of its first fault, and with no other.  Each one
either resolves or has just one such error.
-/
theorem resolve_error_iff_first_fault (path : PathExpression root leaf) :
    (∀ error, resolve path = .error error ↔ path.Rejected error) ∧
      ((∃ chain, resolve path = .ok chain) ∨ ∃! error, path.Rejected error) := by
  have hiff : ∀ error, resolve path = .error error ↔ path.Rejected error := fun error =>
    ⟨rejected_of_resolve_eq_error, fun hrejected => hrejected.resolve_eq⟩
  refine ⟨hiff, ?_⟩
  cases hresolve : resolve path with
  | ok chain => exact .inl ⟨chain, rfl⟩
  | error error =>
      refine .inr ⟨error, (hiff error).mp hresolve, fun other hother => ?_⟩
      rw [(hiff other).mpr hother] at hresolve
      exact Except.error.inj hresolve

namespace Goods

def sealedField : Field order count where
  name := "sealed"
  get (whole : Order) := whole.number
  setter := .hidden

def faultyPath : PathExpression order order :=
  let x : Parameter := ⟨0, "x"⟩
  ⟨[x], .member (.member (.parameter x) (.ofField sealedField)) countField.descriptor⟩

end Goods

theorem resolve_error_iff_first_fault_faulty :
    resolve Goods.faultyPath =
        .error (.invalidPath (.discontinuousChain "count" "Item" "usize")) ∧
      ∃! error, Goods.faultyPath.Rejected error := by
  have hresolve : resolve Goods.faultyPath =
      .error (.invalidPath (.discontinuousChain "count" "Item" "usize")) := rfl
  obtain ⟨-, ⟨chain, hchain⟩ | hunique⟩ := resolve_error_iff_first_fault Goods.faultyPath
  · rw [hresolve] at hchain
    cases hchain
  · exact ⟨hresolve, hunique⟩

end ValuePipeline
