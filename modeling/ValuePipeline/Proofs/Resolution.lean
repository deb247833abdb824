import Mathlib.Data.List.Nodup
import ValuePipeline.Proofs.Route

/-!
# What resolves

A path expression denotes a route if its body is the fields of the route accessed
one after another from its only parameter.  The expressions that resolve are those
that denote a route of one field or more, and they resolve to the chain of that
route.
-/

namespace ValuePipeline

variable {Ty : Type} [TypeCode Ty]

/-! ## The spine of a body -/

namespace PathNode

def members (base : PathNode Ty) (fields : List (Descriptor Ty)) : PathNode Ty :=
  fields.foldl member base

@[simp] theorem members_nil (base : PathNode Ty) : base.members [] = base := rfl

@[simp] theorem members_concat (base : PathNode Ty) (fields : List (Descriptor Ty))
    (field : Descriptor Ty) :
    base.members (fields ++ [field]) = member (base.members fields) field := by
  simp [members]

variable (root : Parameter)

@[simp] theorem spine_parameter (p : Parameter) :
    (parameter p : PathNode Ty).spine root =
      if p = root then .ok [] else .error .foreignParameter := rfl

@[simp] theorem spine_member (base : PathNode Ty) (field : Descriptor Ty) :
    (member base field).spine root = (base.spine root).map (field :: ·) := by
  simp only [spine]
  cases base.spine root <;> rfl

@[simp] theorem spine_call (base : PathNode Ty) (method : String) :
    (call base method).spine root = .error (.unsupportedBase "method call") := rfl

@[simp] theorem spine_constant (text : String) :
    (constant text : PathNode Ty).spine root = .error (.unsupportedBase "constant") := rfl

theorem spine_eq_ok_iff {node : PathNode Ty} {fields : List (Descriptor Ty)} :
    node.spine root = .ok fields ↔ node = (parameter root).members fields.reverse := by
  induction node generalizing fields with
  | parameter p => by_cases hp : p = root <;> cases fields <;> simp [hp]
  | member base field ih =>
      cases fields with
      | nil => cases hbase : base.spine root <;> simp [hbase, Except.map]
      | cons first fields =>
          rw [List.reverse_cons, members_concat, PathNode.member.injEq, ← ih, spine_member]
          cases base.spine root <;> simp [Except.map, and_comm]
  | call base method ih => cases fields <;> simp
  | constant text => cases fields <;> simp

theorem spine_members (fields : List (Descriptor Ty)) :
    ((parameter root).members fields).spine root = .ok fields.reverse := by
  rw [spine_eq_ok_iff, List.reverse_reverse]

end PathNode

/-! ## The numbers of the parameters -/

namespace Parameter

theorem run_mapM_new (names : List String) (made : Nat) :
    (names.mapM new).run made =
      ((names.zipIdx made).map fun entry => ⟨entry.2, entry.1⟩, made + names.length) := by
  induction names generalizing made with
  | nil => rfl
  | cons name names ih =>
      have hfirst : ((name :: names).mapM new).run made =
          (⟨made, name⟩ :: ((names.mapM new).run (made + 1)).1,
            ((names.mapM new).run (made + 1)).2) := by
        rw [List.mapM_cons]
        rfl
      rw [hfirst, ih, List.zipIdx_cons, List.map_cons, List.length_cons, Nat.add_assoc,
        Nat.add_comm 1]

theorem nodup_mapM_new (names : List String) (made : Nat) :
    ((names.mapM new).run made).1.Nodup := by
  have hids : (((names.mapM new).run made).1.map id) = List.range' made names.length := by
    rw [run_mapM_new, List.map_map]
    exact List.zipIdx_map_snd made names
  refine List.Nodup.of_map id ?_
  rw [hids]
  exact List.nodup_range'

def renumber (f : Nat → Nat) (p : Parameter) : Parameter := ⟨f p.id, p.name⟩

theorem renumber_inj {f : Nat → Nat} (hinjective : Function.Injective f) {p q : Parameter} :
    p.renumber f = q.renumber f ↔ p = q := by
  cases p
  cases q
  simp [renumber, hinjective.eq_iff]

end Parameter

namespace PathNode

def renumber (f : Nat → Nat) : PathNode Ty → PathNode Ty
  | parameter p => parameter (p.renumber f)
  | member base field => member (base.renumber f) field
  | call base method => call (base.renumber f) method
  | constant text => constant text

theorem display_renumber (f : Nat → Nat) (node : PathNode Ty) :
    (node.renumber f).display = node.display := by
  induction node with
  | parameter p => rfl
  | member base field ih => simp only [renumber, display, ih]
  | call base method ih => simp only [renumber, display, ih]
  | constant text => rfl

theorem spine_renumber {f : Nat → Nat} (hinjective : Function.Injective f) (root : Parameter)
    (node : PathNode Ty) : (node.renumber f).spine (root.renumber f) = node.spine root := by
  induction node with
  | parameter p => simp only [renumber, spine_parameter, Parameter.renumber_inj hinjective]
  | member base field ih => simp only [renumber, spine_member, ih]
  | call base method ih => rfl
  | constant text => rfl

end PathNode

namespace PathExpression

variable {root leaf : Ty}

def renumber (f : Nat → Nat) (path : PathExpression root leaf) : PathExpression root leaf :=
  ⟨path.parameters.map (Parameter.renumber f), path.body.renumber f⟩

theorem display_renumber (f : Nat → Nat) (path : PathExpression root leaf) :
    (path.renumber f).display = path.display := by
  have hnames : Parameter.name ∘ Parameter.renumber f = Parameter.name := rfl
  simp only [display, renumber, List.map_map, hnames, PathNode.display_renumber]

end PathExpression

/-! ## The fields of a route -/

variable {root leaf : Ty}

theorem Route.isExposed_of_mem (route : Route root leaf) {field : Descriptor Ty}
    (hfield : field ∈ route.fields) : field.access.isExposed = true := by
  induction route with
  | stay => simp [Route.fields] at hfield
  | through first rest ih =>
      rw [Route.fields, List.mem_cons] at hfield
      rcases hfield with rfl | hrest
      · rfl
      · exact ih hrest

variable [DecidableEq Ty]

theorem yieldedType_cons (type : Ty) (field : Descriptor Ty) (fields : List (Descriptor Ty)) :
    yieldedType type (field :: fields) =
      if field.owner = type then yieldedType field.value fields
      else .error (.discontinuousChain field.name field.ownerName (TypeCode.name type)) := rfl

theorem Route.yieldedType_fields (route : Route root leaf) :
    yieldedType root route.fields = .ok leaf := by
  induction route with
  | stay => rfl
  | through field rest ih =>
      rw [Route.fields, yieldedType_cons, if_pos (by rfl)]
      exact ih

theorem exists_route_of_yieldedType {fields : List (Descriptor Ty)}
    (hyield : yieldedType root fields = .ok leaf)
    (hopen : ∀ field ∈ fields, field.access.isExposed = true) :
    ∃ route : Route root leaf, route.fields = fields := by
  induction fields generalizing root with
  | nil =>
      cases hyield
      exact ⟨.stay, rfl⟩
  | cons field fields ih =>
      rw [yieldedType_cons] at hyield
      split at hyield
      case isFalse => cases hyield
      case isTrue howner =>
          subst howner
          obtain ⟨rest, hrest⟩ := ih hyield fun other hother =>
            hopen other (List.mem_cons_of_mem _ hother)
          obtain ⟨first, hfirst⟩ :=
            OpenField.exists_toField_eq field.field (hopen field List.mem_cons_self)
          refine ⟨.through first rest, ?_⟩
          rw [Route.fields, hrest, OpenField.descriptor, hfirst]
          rfl

/-! ## Resolution -/

theorem resolve_member (p : Parameter) (base : PathNode Ty) (field : Descriptor Ty) :
    resolve (⟨[p], .member base field⟩ : PathExpression root leaf) =
      match (PathNode.member base field).spine p with
      | .error reason => .error (.invalidPath reason)
      | .ok spine =>
          match yieldedType root spine.reverse with
          | .error reason => .error (.invalidPath reason)
          | .ok yielded =>
              if yielded = leaf then
                match spine.reverse.find? fun field => !field.access.isExposed with
                | some field =>
                    .error (.fieldNotWritable field.ownerName field.name field.access)
                | none => .ok ⟨spine.reverse⟩
              else
                .error (.invalidPath (.leafTypeMismatch (TypeCode.name leaf)
                  (TypeCode.name yielded))) := by
  simp only [resolve, pure_bind]
  generalize (PathNode.member base field).spine p = result
  cases result with
  | error reason => rfl
  | ok spine =>
      have hspine : (Except.ok spine).mapError SetupError.invalidPath = .ok spine := rfl
      simp only [hspine, bind, Except.bind]
      cases yieldedType root spine.reverse with
      | error reason => rfl
      | ok yielded =>
          have hyielded : (Except.ok yielded).mapError SetupError.invalidPath = .ok yielded := rfl
          simp only [hyielded]
          by_cases hleaf : yielded = leaf
          · subst hleaf
            cases spine.reverse.find? fun field => !field.access.isExposed with
            | none => simp; rfl
            | some field => simp; rfl
          · simp only [ne_eq, hleaf, not_false_eq_true, if_true, if_false]
            rfl

/-- Which numbers the parameters have does not matter, if different ones stay different. -/
theorem resolve_renumber {f : Nat → Nat} (hinjective : Function.Injective f)
    (path : PathExpression root leaf) : resolve (path.renumber f) = resolve path := by
  obtain ⟨parameters, body⟩ := path
  match parameters, body with
  | [], _ => rfl
  | first :: second :: rest, body =>
      calc resolve (PathExpression.renumber f ⟨first :: second :: rest, body⟩)
          = .error (.invalidPath (.parameterCount
              ((first :: second :: rest).map (Parameter.renumber f)).length)) := rfl
        _ = resolve ⟨first :: second :: rest, body⟩ := by
          rw [List.length_map]
          rfl
  | [p], .parameter _ => rfl
  | [p], .call _ _ => rfl
  | [p], .constant _ => rfl
  | [p], .member base field =>
      have hspine := PathNode.spine_renumber hinjective p (.member base field)
      rw [PathNode.renumber] at hspine
      rw [resolve_member, ← hspine]
      exact resolve_member _ _ _

/-- The body accesses the fields of the route, at least one, from the only parameter. -/
def PathExpression.Denotes (path : PathExpression root leaf) (route : Route root leaf) : Prop :=
  0 < route.length ∧ ∃ p, path.parameters = [p] ∧
    path.body = (PathNode.parameter p).members route.fields

omit [DecidableEq Ty] in
theorem PathExpression.Denotes.unique {path : PathExpression root leaf}
    {one other : Route root leaf} (hone : path.Denotes one) (hother : path.Denotes other) :
    one = other := by
  obtain ⟨-, p, hparameters, hbody⟩ := hone
  obtain ⟨-, q, hparameters', hbody'⟩ := hother
  obtain rfl : p = q := by simpa [hparameters] using hparameters'
  have hspine := congrArg (PathNode.spine p) (hbody.symm.trans hbody')
  rw [PathNode.spine_members, PathNode.spine_members] at hspine
  exact Route.fields_injective (List.reverse_inj.mp (Except.ok.inj hspine))

theorem PathExpression.Denotes.resolve_eq {path : PathExpression root leaf}
    {route : Route root leaf} (hdenotes : path.Denotes route) : resolve path = .ok route.chain := by
  obtain ⟨parameters, body⟩ := path
  obtain ⟨hlength, p, hparameters, hbody⟩ := hdenotes
  simp only at hparameters hbody
  subst hparameters
  have hspine : body.spine p = .ok route.fields.reverse := by
    rw [hbody, PathNode.spine_members]
  have hopen : (route.fields.find? fun field => !field.access.isExposed) = none := by
    rw [List.find?_eq_none]
    intro field hfield
    simp [route.isExposed_of_mem hfield]
  have hfields : route.fields ≠ [] := by
    intro hnil
    simp [← Route.length_fields, hnil] at hlength
  rw [← List.dropLast_concat_getLast hfields, PathNode.members_concat] at hbody
  subst hbody
  rw [resolve_member, hspine]
  simp only [List.reverse_reverse, route.yieldedType_fields, if_true, hopen]
  rfl

theorem fields_of_resolve_member {p : Parameter} {base : PathNode Ty} {field : Descriptor Ty}
    {chain : Chain root leaf}
    (hresolve : resolve (⟨[p], .member base field⟩ : PathExpression root leaf) = .ok chain) :
    (PathNode.member base field).spine p = .ok chain.fields.reverse ∧
      yieldedType root chain.fields = .ok leaf ∧
      ∀ field ∈ chain.fields, field.access.isExposed = true := by
  rw [resolve_member] at hresolve
  split at hresolve
  · cases hresolve
  · rename_i spine hspine
    split at hresolve
    · cases hresolve
    · rename_i yielded hyield
      split at hresolve
      case isFalse => cases hresolve
      case isTrue hleaf =>
          split at hresolve
          · cases hresolve
          · rename_i hopen
            cases hresolve
            subst hleaf
            refine ⟨by rw [List.reverse_reverse]; exact hspine, hyield, ?_⟩
            intro field hfield
            simpa using List.find?_eq_none.mp hopen field hfield

theorem resolve_eq_ok_iff {path : PathExpression root leaf} {chain : Chain root leaf} :
    resolve path = .ok chain ↔ ∃ route, path.Denotes route ∧ chain = route.chain := by
  constructor
  · intro hresolve
    obtain ⟨parameters, body⟩ := path
    match parameters, body with
    | [], _ => cases hresolve
    | _ :: _ :: _, _ => cases hresolve
    | [p], .parameter _ => cases hresolve
    | [p], .call _ _ => cases hresolve
    | [p], .constant _ => cases hresolve
    | [p], .member base field =>
        obtain ⟨hspine, hyield, hopen⟩ := fields_of_resolve_member hresolve
        obtain ⟨route, hroute⟩ := exists_route_of_yieldedType hyield hopen
        have hbody : PathNode.member base field = (PathNode.parameter p).members route.fields := by
          rw [PathNode.spine_eq_ok_iff, List.reverse_reverse] at hspine
          rw [hroute]
          exact hspine
        have hlength : 0 < route.length := by
          cases route with
          | stay => cases hbody
          | through first rest => exact Nat.succ_pos _
        exact ⟨route, ⟨hlength, p, rfl, hbody⟩, by rw [Route.chain, hroute]⟩
  · rintro ⟨route, hdenotes, rfl⟩
    exact hdenotes.resolve_eq

/-! ## The paths of orders -/

namespace Goods

def itemPath : PathExpression order item := .field (.identity order) itemField.toField

def countPath : PathExpression order count := .field itemPath countField.toField

def itemCountPath : PathExpression item count := .field (.identity item) countField.toField

def numberPath : PathExpression order count := .field (.identity order) numberField.toField

theorem itemPath_denotes : itemPath.Denotes itemRoute := ⟨by decide, _, rfl, rfl⟩

theorem countPath_denotes : countPath.Denotes countRoute := ⟨by decide, _, rfl, rfl⟩

theorem itemCountPath_denotes : itemCountPath.Denotes itemCountRoute := ⟨by decide, _, rfl, rfl⟩

theorem numberPath_denotes : numberPath.Denotes numberRoute := ⟨by decide, _, rfl, rfl⟩

example : resolve countPath = .ok countRoute.chain := rfl

example :
    resolve (.identity order) = .error (.invalidPath (.notMemberAccess "parameter reference")) :=
  rfl

end Goods

end ValuePipeline
