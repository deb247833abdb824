import ValuePipeline.Proofs.Route

/-!
# Places apart

Two routes from one root lead to places apart if neither begins with the other: they
part ways at two different fields of one owner.  If the setters of different fields
leave each other's values alone, then whatever is set at one place, the other place
keeps what it holds.

The order of two setters is another matter: a setter may leave something in the owner
that no getter shows, and what it leaves may depend on what was set before.  If the
setters of different fields can change places, so can those of routes that lead to
places apart, however many owners both pass before they part.
-/

namespace ValuePipeline

variable {Ty : Type} [TypeCode Ty] {root leaf owner value other : Ty}

/-! ## Different fields of one owner -/

namespace OpenField

def Spares (first : OpenField owner value) (second : OpenField owner other) : Prop :=
  ∀ whole part, second.get (first.set whole part) = second.get whole

def Commutes (first : OpenField owner value) (second : OpenField owner other) : Prop :=
  ∀ whole part otherPart, second.set (first.set whole part) otherPart =
    first.set (second.set whole otherPart) part

theorem Commutes.spares {first : OpenField owner value} {second : OpenField owner other}
    (hcommutes : first.Commutes second) (hlawful : second.Lawful) : first.Spares second := by
  intro whole part
  calc second.get (first.set whole part)
      = second.get (first.set (second.set whole (second.get whole)) part) := by
        rw [hlawful.set_get]
    _ = second.get (second.set (first.set whole part) (second.get whole)) := by
        rw [hcommutes]
    _ = second.get whole := hlawful.get_set _ _

end OpenField

/-- Lawful fields of which each keeps its value when another one of its owner is set. -/
structure SeparateFields (fields : ∀ {owner value : Ty}, OpenField owner value → Prop) : Prop where
  lawful : ∀ {owner value : Ty} {field : OpenField owner value}, fields field → field.Lawful
  spares : ∀ {owner first second : Ty} {one : OpenField owner first}
    {other : OpenField owner second}, fields one → fields other →
    one.descriptor ≠ other.descriptor → one.Spares other

/-- Lawful fields that can be set in any order, if they are different fields of one owner. -/
structure IndependentFields (fields : ∀ {owner value : Ty}, OpenField owner value → Prop) :
    Prop where
  lawful : ∀ {owner value : Ty} {field : OpenField owner value}, fields field → field.Lawful
  commutes : ∀ {owner first second : Ty} {one : OpenField owner first}
    {other : OpenField owner second}, fields one → fields other →
    one.descriptor ≠ other.descriptor → one.Commutes other

variable {fields : ∀ {owner value : Ty}, OpenField owner value → Prop}

theorem IndependentFields.separate (hindependent : IndependentFields fields) :
    SeparateFields fields where
  lawful := hindependent.lawful
  spares hone hother hne :=
    (hindependent.commutes hone hother hne).spares (hindependent.lawful hother)

/-! ## Routes over a choice of fields -/

namespace Route

variable {middle first second : Ty}

def Over (fields : ∀ {owner value : Ty}, OpenField owner value → Prop) {root leaf : Ty} :
    Route root leaf → Prop
  | stay => True
  | through field rest => fields field ∧ rest.Over fields

theorem Over.trans {before : Route root middle} {after : Route middle leaf}
    (hbefore : before.Over fields) (hafter : after.Over fields) :
    (before.trans after).Over fields := by
  induction before with
  | stay => exact hafter
  | through field rest ih => exact ⟨hbefore.1, ih hbefore.2 hafter⟩

theorem Over.lawful (hseparate : SeparateFields fields) {route : Route root leaf}
    (hover : route.Over fields) : route.Lawful := by
  induction route with
  | stay => trivial
  | through field rest ih => exact ⟨hseparate.lawful hover.1, ih hover.2⟩

/-! ## Places apart -/

def Apart (one : Route root first) (other : Route root second) : Prop :=
  ¬ one.fields <+: other.fields ∧ ¬ other.fields <+: one.fields

theorem Apart.symm {one : Route root first} {other : Route root second}
    (hapart : one.Apart other) : other.Apart one :=
  ⟨hapart.2, hapart.1⟩

theorem not_apart_stay (other : Route root leaf) : ¬ (stay : Route root root).Apart other :=
  fun hapart => hapart.1 List.nil_prefix

theorem apart_through_iff {field : OpenField root middle} {one : Route middle first}
    {other : Route middle second} :
    (through field one).Apart (through field other) ↔ one.Apart other := by
  simp [Apart, Route.fields, List.cons_prefix_cons]

theorem apart_of_descriptor_ne {next otherNext : Ty} {field : OpenField root next}
    {otherField : OpenField root otherNext} (hne : field.descriptor ≠ otherField.descriptor)
    (one : Route next first) (other : Route otherNext second) :
    (through field one).Apart (through otherField other) := by
  constructor
  · exact fun hprefix => hne (List.cons_prefix_cons.mp hprefix).1
  · exact fun hprefix => hne (List.cons_prefix_cons.mp hprefix).1.symm

theorem get_set_apart (hseparate : SeparateFields fields) {one : Route root first}
    {other : Route root second} (hone : one.Over fields) (hother : other.Over fields)
    (hapart : one.Apart other) (whole : Carrier root) (part : Carrier first) :
    other.get (one.set whole part) = other.get whole := by
  induction one generalizing second with
  | stay => exact absurd hapart (not_apart_stay other)
  | @through owner next _ field rest ih =>
      obtain ⟨hfield, hrest⟩ := hone
      cases other with
      | stay => exact absurd hapart.symm (not_apart_stay _)
      | @through _ otherNext _ otherField otherRest =>
          obtain ⟨hotherField, hotherRest⟩ := hother
          by_cases hsame : field.descriptor = otherField.descriptor
          case pos =>
              obtain rfl : next = otherNext := congrArg Descriptor.value hsame
              obtain rfl := OpenField.descriptor_injective hsame
              simp only [get, set, (hseparate.lawful hfield).get_set]
              exact ih hrest hotherRest (apart_through_iff.mp hapart) _ _
          case neg =>
              have hspares := hseparate.spares hfield hotherField hsame
              simp only [get, set, hspares whole]

theorem set_comm_apart (hindependent : IndependentFields fields) {one : Route root first}
    {other : Route root second} (hone : one.Over fields) (hother : other.Over fields)
    (hapart : one.Apart other) (whole : Carrier root) (part : Carrier first)
    (otherPart : Carrier second) :
    other.set (one.set whole part) otherPart = one.set (other.set whole otherPart) part := by
  induction one generalizing second with
  | stay => exact absurd hapart (not_apart_stay other)
  | @through owner next _ field rest ih =>
      obtain ⟨hfield, hrest⟩ := hone
      cases other with
      | stay => exact absurd hapart.symm (not_apart_stay _)
      | @through _ otherNext _ otherField otherRest =>
          obtain ⟨hotherField, hotherRest⟩ := hother
          by_cases hsame : field.descriptor = otherField.descriptor
          case pos =>
              obtain rfl : next = otherNext := congrArg Descriptor.value hsame
              obtain rfl := OpenField.descriptor_injective hsame
              have hlawful := hindependent.lawful hfield
              simp only [set, hlawful.get_set, hlawful.set_set]
              rw [ih hrest hotherRest (apart_through_iff.mp hapart)]
          case neg =>
              have hspares := hindependent.separate.spares hfield hotherField hsame
              have hsparesBack := hindependent.separate.spares hotherField hfield (Ne.symm hsame)
              simp only [set, hspares whole, hsparesBack whole]
              exact hindependent.commutes hfield hotherField hsame _ _ _

end Route

/-! ## The fields of orders, which are independent -/

namespace Goods

inductive OwnField : ∀ {owner value : Goods}, OpenField owner value → Prop where
  | number : OwnField numberField
  | item : OwnField itemField
  | count : OwnField countField

theorem ownField_independent : IndependentFields OwnField where
  lawful hfield := by
    cases hfield with
    | number => exact numberField_lawful
    | item => exact itemField_lawful
    | count => exact countField_lawful
  commutes hone hother hne := by
    cases hone <;> cases hother
    all_goals first
      | exact absurd rfl hne
      | exact fun _ _ _ => rfl

theorem item_ne_number : itemField.descriptor ≠ numberField.descriptor :=
  fun hsame => nomatch congrArg Descriptor.value hsame

theorem numberRoute_over : numberRoute.Over OwnField := ⟨.number, trivial⟩

theorem itemRoute_over : itemRoute.Over OwnField := ⟨.item, trivial⟩

theorem countRoute_over : countRoute.Over OwnField := ⟨.item, .count, trivial⟩

theorem itemCountRoute_over : itemCountRoute.Over OwnField := ⟨.count, trivial⟩

end Goods

/-! ## The fields of a holding, which are no more than separate -/

structure Holding where
  price : Int
  shares : Int
  paid : Int

namespace Holding

/-- Buys or sells up to this number of shares, at the price of the day. -/
def trade (holding : Holding) (shares : Int) : Holding :=
  { holding with shares, paid := holding.paid + holding.price * (shares - holding.shares) }

theorem trade_shares (holding : Holding) : holding.trade holding.shares = holding := by
  simp [trade]

theorem trade_trade (holding : Holding) (first second : Int) :
    (holding.trade first).trade second = holding.trade second := by
  have hbought : first - holding.shares + (second - first) = second - holding.shares := by omega
  simp only [trade, Int.add_assoc, ← Int.mul_add, hbought]

end Holding

inductive Savings where
  | holding
  | amount
  deriving DecidableEq

namespace Savings

@[reducible]
def Carrier : Savings → Type
  | holding => Holding
  | amount => Int

def name : Savings → String
  | holding => "Holding"
  | amount => "i64"

instance : TypeCode Savings where
  Carrier := Carrier
  name := name

def priceField : OpenField holding amount where
  name := "price"
  get (whole : Holding) := whole.price
  set (whole : Holding) part := { whole with price := part }

/-- What has been paid for the shares, no field shows. -/
def sharesField : OpenField holding amount where
  name := "shares"
  get (whole : Holding) := whole.shares
  set (whole : Holding) part := whole.trade part

theorem priceField_lawful : priceField.Lawful := ⟨fun _ _ => rfl, fun _ => rfl, fun _ _ _ => rfl⟩

theorem sharesField_lawful : sharesField.Lawful :=
  ⟨fun _ _ => rfl, Holding.trade_shares, Holding.trade_trade⟩

inductive HeldField : ∀ {owner value : Savings}, OpenField owner value → Prop where
  | price : HeldField priceField
  | shares : HeldField sharesField

theorem heldField_separate : SeparateFields HeldField where
  lawful hfield := by
    cases hfield with
    | price => exact priceField_lawful
    | shares => exact sharesField_lawful
  spares hone hother hne := by
    cases hone <;> cases hother
    all_goals first
      | exact absurd rfl hne
      | exact fun _ _ => rfl

theorem price_ne_shares : priceField.descriptor ≠ sharesField.descriptor :=
  fun hsame => absurd (congrArg Descriptor.name hsame) (by decide)

theorem heldField_not_independent : ¬ IndependentFields HeldField := by
  intro hindependent
  have hcommutes := hindependent.commutes .price .shares price_ne_shares ⟨2, 3, 6⟩ (4 : Int) (6 : Int)
  exact absurd (congrArg Holding.paid hcommutes) (by decide)

def priceRoute : Route holding amount := .through priceField .stay

def sharesRoute : Route holding amount := .through sharesField .stay

theorem priceRoute_over : priceRoute.Over HeldField := ⟨.price, trivial⟩

theorem sharesRoute_over : sharesRoute.Over HeldField := ⟨.shares, trivial⟩

end Savings

end ValuePipeline
