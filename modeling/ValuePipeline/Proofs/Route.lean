import ValuePipeline.Path.Chain
import ValuePipeline.Proofs.Run

/-!
# Routes

A route is a chain of fields whose types are known to fit: each field is declared
on the type the one before yields, and each has an open setter.  So a route has a
getter and a setter of its own, and nothing can go wrong on it.  A chain of
descriptors checks all this while it runs; on the descriptors of a route every
check passes, and the chain does what the route does.
-/

namespace ValuePipeline

variable {Ty : Type} [TypeCode Ty]

namespace Descriptor

def readEvent (descriptor : Descriptor Ty) : Event :=
  .read descriptor.ownerName descriptor.name descriptor.field.watched

def writeEvent (descriptor : Descriptor Ty) : Event :=
  .write descriptor.ownerName descriptor.name descriptor.field.watched

end Descriptor

/-! ## Fields with an open setter -/

structure OpenField (owner value : Ty) where
  name : String
  get : Carrier owner → Carrier value
  set : Carrier owner → Carrier value → Carrier owner
  watched : Bool := false

namespace OpenField

variable {owner value : Ty}

def toField (field : OpenField owner value) : Field owner value :=
  { name := field.name, get := field.get, setter := .exposed field.set, watched := field.watched }

def descriptor (field : OpenField owner value) : Descriptor Ty := .ofField field.toField

theorem exists_toField_eq (field : Field owner value) (hexposed : field.access.isExposed) :
    ∃ openField : OpenField owner value, openField.toField = field := by
  obtain ⟨name, get, setter, watched⟩ := field
  cases setter with
  | exposed set => exact ⟨⟨name, get, set, watched⟩, rfl⟩
  | hidden => simp [Field.access, Setter.access, Access.isExposed] at hexposed
  | absent => simp [Field.access, Setter.access, Access.isExposed] at hexposed

theorem descriptor_injective :
    Function.Injective (descriptor : OpenField owner value → Descriptor Ty) := by
  rintro ⟨name, get, set, watched⟩ ⟨otherName, otherGet, otherSet, otherWatched⟩ hsame
  cases hsame
  rfl

def read (field : OpenField owner value) (whole : Carrier owner) : Run (Carrier value) :=
  field.toField.read whole

def write (field : OpenField owner value) (whole : Carrier owner) (part : Carrier value) :
    Run (Carrier owner) := do
  Run.tell field.descriptor.writeEvent
  return field.set whole part

theorem read_eq (field : OpenField owner value) (whole : Carrier owner) :
    field.read whole =
      (do Run.tell field.descriptor.readEvent; return field.get whole) := rfl

/-- The getter sees what the setter put, and the last use of the setter is all that counts. -/
structure Lawful (field : OpenField owner value) : Prop where
  get_set : ∀ whole part, field.get (field.set whole part) = part
  set_get : ∀ whole, field.set whole (field.get whole) = whole
  set_set : ∀ whole first second, field.set (field.set whole first) second = field.set whole second

variable [DecidableEq Ty]

theorem descriptor_read (field : OpenField owner value) (whole : Carrier owner) :
    field.descriptor.read ⟨owner, whole⟩ =
      ExceptT.lift (Packed.mk value <$> field.read whole) := by
  have hfits : (Packed.mk owner whole).as? field.descriptor.owner = some whole :=
    Packed.as?_self owner whole
  simp only [Descriptor.read, hfits]
  rfl

theorem descriptor_write (field : OpenField owner value) (whole : Carrier owner)
    (part : Carrier value) :
    field.descriptor.write ⟨owner, whole⟩ ⟨value, part⟩ =
      ExceptT.lift (Packed.mk owner <$> field.write whole part) := by
  have hwhole : (Packed.mk owner whole).as? field.descriptor.owner = some whole :=
    Packed.as?_self owner whole
  have hpart : (Packed.mk value part).as? field.descriptor.value = some part :=
    Packed.as?_self value part
  have hopen : field.descriptor.access.isExposed = true := rfl
  simp only [Descriptor.write, hwhole, hpart, hopen]
  rfl

end OpenField

/-! ## Routes -/

inductive Route : Ty → Ty → Type where
  | stay {type : Ty} : Route type type
  | through {owner middle leaf : Ty} (field : OpenField owner middle)
      (rest : Route middle leaf) : Route owner leaf

namespace Route

variable {root middle leaf : Ty}

def length {root leaf : Ty} : Route root leaf → Nat
  | stay => 0
  | through _ rest => rest.length + 1

def fields {root leaf : Ty} : Route root leaf → List (Descriptor Ty)
  | stay => []
  | through field rest => field.descriptor :: rest.fields

def chain (route : Route root leaf) : Chain root leaf := ⟨route.fields⟩

theorem fields_injective {root leaf : Ty} :
    Function.Injective (fields : Route root leaf → List (Descriptor Ty)) := by
  intro one other hsame
  induction one with
  | stay =>
      cases other with
      | stay => rfl
      | through field rest => cases hsame
  | @through owner next _ field rest ih =>
      cases other with
      | stay => cases hsame
      | @through _ otherNext _ otherField otherRest =>
          obtain ⟨hfield, hrest⟩ := List.cons.inj hsame
          obtain rfl : next = otherNext := congrArg Descriptor.value hfield
          rw [OpenField.descriptor_injective hfield, ih hrest]

@[simp] theorem length_fields (route : Route root leaf) :
    route.fields.length = route.length := by
  induction route with
  | stay => rfl
  | through field rest ih => simp [fields, length, ih]

def get {root leaf : Ty} : Route root leaf → Carrier root → Carrier leaf
  | stay, whole => whole
  | through field rest, whole => rest.get (field.get whole)

def set {root leaf : Ty} : Route root leaf → Carrier root → Carrier leaf → Carrier root
  | stay, _, part => part
  | through field rest, whole, part => field.set whole (rest.set (field.get whole) part)

def trans {root middle leaf : Ty} : Route root middle → Route middle leaf → Route root leaf
  | stay, second => second
  | through field rest, second => through field (rest.trans second)

@[simp] theorem get_trans (first : Route root middle) (second : Route middle leaf)
    (whole : Carrier root) :
    (first.trans second).get whole = second.get (first.get whole) := by
  induction first with
  | stay => rfl
  | through field rest ih => exact ih second (field.get whole)

@[simp] theorem set_trans (first : Route root middle) (second : Route middle leaf)
    (whole : Carrier root) (part : Carrier leaf) :
    (first.trans second).set whole part =
      first.set whole (second.set (first.get whole) part) := by
  induction first with
  | stay => rfl
  | through field rest ih =>
      simp only [trans, set, get]
      rw [ih second (field.get whole)]

@[simp] theorem fields_trans (first : Route root middle) (second : Route middle leaf) :
    (first.trans second).fields = first.fields ++ second.fields := by
  induction first with
  | stay => rfl
  | through field rest ih => simp [trans, fields, ih second]

/-! ## Laws of the accessors -/

def Lawful {root leaf : Ty} : Route root leaf → Prop
  | stay => True
  | through field rest => field.Lawful ∧ rest.Lawful

namespace Lawful

theorem get_set {route : Route root leaf} (hlawful : route.Lawful) (whole : Carrier root)
    (part : Carrier leaf) : route.get (route.set whole part) = part := by
  induction route with
  | stay => rfl
  | through field rest ih =>
      obtain ⟨hfield, hrest⟩ := hlawful
      simp only [get, set]
      rw [hfield.get_set, ih hrest]

theorem set_get {route : Route root leaf} (hlawful : route.Lawful) (whole : Carrier root) :
    route.set whole (route.get whole) = whole := by
  induction route with
  | stay => rfl
  | through field rest ih =>
      obtain ⟨hfield, hrest⟩ := hlawful
      simp only [get, set]
      rw [ih hrest, hfield.set_get]

theorem set_set {route : Route root leaf} (hlawful : route.Lawful) (whole : Carrier root)
    (first second : Carrier leaf) :
    route.set (route.set whole first) second = route.set whole second := by
  induction route with
  | stay => rfl
  | through field rest ih =>
      obtain ⟨hfield, hrest⟩ := hlawful
      simp only [set]
      rw [hfield.get_set, ih hrest, hfield.set_set]

end Lawful

/-! ## Changing what is at the end -/

def reads (route : Route root leaf) : List Event := route.fields.map Descriptor.readEvent

def writes (route : Route root leaf) : List Event := route.fields.reverse.map Descriptor.writeEvent

theorem reads_through (field : OpenField root middle) (rest : Route middle leaf) :
    (through field rest).reads = field.descriptor.readEvent :: rest.reads := rfl

theorem writes_through (field : OpenField root middle) (rest : Route middle leaf) :
    (through field rest).writes = rest.writes ++ [field.descriptor.writeEvent] := by
  simp [writes, fields]

theorem reads_trans (first : Route root middle) (second : Route middle leaf) :
    (first.trans second).reads = first.reads ++ second.reads := by
  simp [reads]

theorem writes_trans (first : Route root middle) (second : Route middle leaf) :
    (first.trans second).writes = second.writes ++ first.writes := by
  simp [writes]

/-- Gets what is at the end, changes it, and sets it, also when the change has failed. -/
def update (route : Route root leaf) (change : Carrier leaf → Run (Outcome (Carrier leaf)))
    (whole : Carrier root) : Run (Outcome (Carrier root)) := do
  Run.tells route.reads
  let changed ← change (route.get whole)
  Run.tells route.writes
  return ⟨route.set whole changed.value, changed.failure⟩

@[simp] theorem update_stay {type : Ty} (change : Carrier type → Run (Outcome (Carrier type)))
    (whole : Carrier type) : (stay : Route type type).update change whole = change whole := by
  simp only [update, reads, writes, fields, List.map_nil, List.reverse_nil, Run.tells_nil,
    Run.done_bind, get, set]
  exact bind_pure (change whole)

theorem update_through (field : OpenField root middle) (rest : Route middle leaf)
    (change : Carrier leaf → Run (Outcome (Carrier leaf))) (whole : Carrier root) :
    (through field rest).update change whole = (do
      let part ← field.read whole
      let changed ← rest.update change part
      let whole ← field.write whole changed.value
      return ⟨whole, changed.failure⟩) := by
  simp only [update, reads_through, writes_through, Run.tells_cons, Run.tells_append,
    Run.tells_nil, OpenField.read_eq, OpenField.write, bind_assoc, pure_bind, Run.done_bind,
    get, set]

theorem update_trans (first : Route root middle) (second : Route middle leaf)
    (change : Carrier leaf → Run (Outcome (Carrier leaf))) (whole : Carrier root) :
    (first.trans second).update change whole = first.update (second.update change) whole := by
  simp only [update, reads_trans, writes_trans, Run.tells_append, get_trans, set_trans,
    bind_assoc, pure_bind]

@[simp] theorem result_update (route : Route root leaf)
    (change : Carrier leaf → Run (Outcome (Carrier leaf))) (whole : Carrier root) :
    (route.update change whole).result =
      ⟨route.set whole (change (route.get whole)).result.value,
        (change (route.get whole)).result.failure⟩ := by
  simp [update]

theorem events_update (route : Route root leaf)
    (change : Carrier leaf → Run (Outcome (Carrier leaf))) (whole : Carrier root) :
    (route.update change whole).events =
      route.reads ++ (change (route.get whole)).events ++ route.writes := by
  simp [update]

end Route

/-! ## Orders, to show the theorems at work -/

structure Item where
  count : Nat
  deriving DecidableEq

structure Order where
  number : Nat
  item : Item
  deriving DecidableEq

inductive Goods where
  | order
  | item
  | count
  deriving DecidableEq

namespace Goods

@[reducible]
def Carrier : Goods → Type
  | order => Order
  | item => Item
  | count => Nat

def name : Goods → String
  | order => "Order"
  | item => "Item"
  | count => "usize"

instance : TypeCode Goods where
  Carrier := Carrier
  name := name

def itemField : OpenField order item where
  name := "item"
  get (whole : Order) := whole.item
  set (whole : Order) part := { whole with item := part }

def countField : OpenField item count where
  name := "count"
  get (whole : Item) := whole.count
  set _ part := Item.mk part

def numberField : OpenField order count where
  name := "number"
  get (whole : Order) := whole.number
  set (whole : Order) part := { whole with number := part }

theorem itemField_lawful : itemField.Lawful := ⟨fun _ _ => rfl, fun _ => rfl, fun _ _ _ => rfl⟩

theorem countField_lawful : countField.Lawful := ⟨fun _ _ => rfl, fun _ => rfl, fun _ _ _ => rfl⟩

theorem numberField_lawful : numberField.Lawful := ⟨fun _ _ => rfl, fun _ => rfl, fun _ _ _ => rfl⟩

def itemRoute : Route order item := .through itemField .stay

def itemCountRoute : Route item count := .through countField .stay

def countRoute : Route order count := .through itemField (.through countField .stay)

def numberRoute : Route order count := .through numberField .stay

theorem itemRoute_length_pos : 0 < itemRoute.length := by decide

theorem itemCountRoute_length_pos : 0 < itemCountRoute.length := by decide

theorem countRoute_length_pos : 0 < countRoute.length := by decide

end Goods

end ValuePipeline
