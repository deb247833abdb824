import Mathlib.Data.List.Chain
import ValuePipeline.Proofs.Resolution

/-!
# Nested accesses

The expressions that resolve, told by their form alone.  The body accesses fields one
inside another, down to the only parameter; the fields lead from the type of the root
to that of the leaf, and each of them can be written.  Resolution lists these fields
from the outside in, and the expression reads as its parameter and the path of the
chain.
-/

namespace ValuePipeline

variable {Ty : Type} [TypeCode Ty] {root leaf : Ty}

/-! ## Fields in a row -/

/--
The first field is declared on `root`, each other one on the type that the one before
yields, and the last one yields `leaf`.  All of them can be written.
-/
structure Leads (root leaf : Ty) (fields : List (Descriptor Ty)) : Prop where
  first : fields.head?.map Descriptor.owner = some root
  next : fields.IsChain fun field following => following.owner = field.value
  last : fields.getLast?.map Descriptor.value = some leaf
  exposed : ∀ field ∈ fields, field.access.isExposed = true

namespace Leads

theorem ne_nil {fields : List (Descriptor Ty)} (hleads : Leads root leaf fields) :
    fields ≠ [] := by
  rintro rfl
  cases hleads.first

theorem singleton_iff {field : Descriptor Ty} :
    Leads root leaf [field] ↔
      field.owner = root ∧ field.access.isExposed = true ∧ field.value = leaf := by
  constructor
  · rintro ⟨hfirst, -, hlast, hexposed⟩
    exact ⟨by simpa using hfirst, hexposed field List.mem_cons_self, by simpa using hlast⟩
  · rintro ⟨hfirst, hexposed, hlast⟩
    exact ⟨by simpa using hfirst, .singleton field, by simpa using hlast, by simpa using hexposed⟩

theorem cons_iff {field following : Descriptor Ty} {fields : List (Descriptor Ty)} :
    Leads root leaf (field :: following :: fields) ↔
      field.owner = root ∧ field.access.isExposed = true ∧
        Leads field.value leaf (following :: fields) := by
  constructor
  · rintro ⟨hfirst, hnext, hlast, hexposed⟩
    obtain ⟨hfollows, hnext⟩ := List.isChain_cons_cons.mp hnext
    refine ⟨by simpa using hfirst, hexposed field List.mem_cons_self, ?_, hnext, ?_, ?_⟩
    · simpa using hfollows
    · simpa using hlast
    · exact fun other hother => hexposed other (List.mem_cons_of_mem _ hother)
  · rintro ⟨hfirst, hexposed, hrest⟩
    have hfollows : following.owner = field.value := by simpa using hrest.first
    refine ⟨by simpa using hfirst, .cons_cons hfollows hrest.next, ?_, ?_⟩
    · simpa using hrest.last
    · exact List.forall_mem_cons.mpr ⟨hexposed, hrest.exposed⟩

theorem yieldedType_eq [DecidableEq Ty] {fields : List (Descriptor Ty)}
    (hleads : Leads root leaf fields) : yieldedType root fields = .ok leaf := by
  induction fields generalizing root with
  | nil => exact absurd rfl hleads.ne_nil
  | cons field fields ih =>
      cases fields with
      | nil =>
          obtain ⟨howner, -, hvalue⟩ := singleton_iff.mp hleads
          rw [yieldedType_cons, if_pos howner, hvalue]
          rfl
      | cons following fields =>
          obtain ⟨howner, -, hrest⟩ := cons_iff.mp hleads
          rw [yieldedType_cons, if_pos howner]
          exact ih hrest

end Leads

theorem Route.leads (route : Route root leaf) (hlength : 0 < route.length) :
    Leads root leaf route.fields := by
  induction route with
  | stay => cases hlength
  | through field rest ih =>
      cases rest with
      | stay => exact Leads.singleton_iff.mpr ⟨rfl, rfl, rfl⟩
      | through following rest =>
          exact Leads.cons_iff.mpr ⟨rfl, rfl, ih (Nat.succ_pos _)⟩

/-! ## What an expression shows -/

namespace PathNode

theorem display_members (base : PathNode Ty) {fields : List (Descriptor Ty)}
    (hfields : fields ≠ []) :
    (base.members fields).display =
      base.display ++ "." ++ String.intercalate "." (fields.map Descriptor.name) := by
  induction fields using List.reverseRecOn with
  | nil => exact absurd rfl hfields
  | append_singleton fields field ih =>
      rw [members_concat, display]
      by_cases hbefore : fields = []
      · subst hbefore
        simp [Descriptor.name]
      · have hnames : fields.map Descriptor.name ≠ [] := by simpa using hbefore
        rw [ih hbefore, List.map_append, String.intercalate_append_of_ne_nil hnames (by simp)]
        simp [Descriptor.name, String.append_assoc]

end PathNode

/-! ## Resolution by form -/

variable [DecidableEq Ty]

theorem resolve_eq_ok_iff_leads {path : PathExpression root leaf} {chain : Chain root leaf} :
    resolve path = .ok chain ↔
      (∃ p, path.parameters = [p] ∧ path.body = (PathNode.parameter p).members chain.fields) ∧
        Leads root leaf chain.fields := by
  rw [resolve_eq_ok_iff]
  constructor
  · rintro ⟨route, ⟨hlength, hbody⟩, rfl⟩
    exact ⟨hbody, route.leads hlength⟩
  · rintro ⟨hbody, hleads⟩
    obtain ⟨route, hroute⟩ := exists_route_of_yieldedType hleads.yieldedType_eq hleads.exposed
    refine ⟨route, ⟨?_, ?_⟩, ?_⟩
    · rw [← route.length_fields, hroute]
      exact List.length_pos_iff.mpr hleads.ne_nil
    · rw [hroute]
      exact hbody
    · rw [Route.chain, hroute]

/--
An expression resolves if and only if its body accesses one field or more, one inside
another, of its only parameter, and these fields lead from the root to the leaf.  The
chain has just these fields, the outermost first, and its path is what the expression
shows of them.
-/
theorem resolve_iff_nested_accesses (path : PathExpression root leaf) :
    ((∃ chain, resolve path = .ok chain) ↔
      ∃ p fields, path.parameters = [p] ∧ fields ≠ [] ∧
        path.body = (PathNode.parameter p).members fields ∧ Leads root leaf fields) ∧
    ∀ chain, resolve path = .ok chain → ∃ p, path.parameters = [p] ∧
      (PathNode.parameter p).members chain.fields = path.body ∧
      Leads root leaf chain.fields ∧
      path.display = "|" ++ p.name ++ "| " ++ p.name ++ "." ++ chain.path := by
  constructor
  · constructor
    · rintro ⟨chain, hresolve⟩
      obtain ⟨⟨p, hparameters, hbody⟩, hleads⟩ := resolve_eq_ok_iff_leads.mp hresolve
      exact ⟨p, chain.fields, hparameters, hleads.ne_nil, hbody, hleads⟩
    · rintro ⟨p, fields, hparameters, -, hbody, hleads⟩
      exact ⟨⟨fields⟩, resolve_eq_ok_iff_leads.mpr ⟨⟨p, hparameters, hbody⟩, hleads⟩⟩
  · intro chain hresolve
    obtain ⟨⟨p, hparameters, hbody⟩, hleads⟩ := resolve_eq_ok_iff_leads.mp hresolve
    refine ⟨p, hparameters, hbody.symm, hleads, ?_⟩
    rw [PathExpression.display, hparameters, hbody, PathNode.display_members _ hleads.ne_nil]
    simp [PathNode.display, Chain.path, String.append_assoc]

theorem resolve_iff_nested_accesses_count :
    resolve Goods.countPath = .ok Goods.countRoute.chain ∧
      Goods.countPath.display = "|x| x.item.count" := by
  have hresolve : resolve Goods.countPath = .ok Goods.countRoute.chain := rfl
  obtain ⟨-, hresolved⟩ := resolve_iff_nested_accesses Goods.countPath
  obtain ⟨p, hparameters, -, -, hdisplay⟩ := hresolved _ hresolve
  obtain rfl : (⟨0, "x"⟩ : Parameter) = p := List.singleton_inj.mp hparameters
  exact ⟨hresolve, hdisplay⟩

example :
    resolve (⟨[⟨0, "x"⟩], .member (.parameter ⟨1, "x"⟩) Goods.itemField.descriptor⟩ :
      PathExpression Goods.order Goods.item) = .error (.invalidPath .foreignParameter) := rfl

end ValuePipeline
