import ValuePipeline.Proofs.Resolution

/-!
# Chains as bridges

A chain takes a change of the leaf to a change of the whole.  For a chain that was
resolved the checks on the way all pass: it is the update along the route that the
path denotes.  Step by step that is a way down, on which each field is read once
from the value read before, the change at the leaf, and a way up, on which each
field is written once into the value it was read from.  The same is done by two
loops over a stack of the values read.
-/

namespace ValuePipeline

variable {Ty : Type} [TypeCode Ty] {root leaf : Ty}

/-! ## The way down and the way up -/

/-- What is kept on the way down: each field with the value it was read from, and the leaf. -/
inductive Trail : Ty → Ty → Type where
  | finish {type : Ty} (part : Carrier type) : Trail type type
  | owner {root middle leaf : Ty} (field : OpenField root middle) (whole : Carrier root)
      (rest : Trail middle leaf) : Trail root leaf

namespace Trail

def leafValue {root leaf : Ty} : Trail root leaf → Carrier leaf
  | finish part => part
  | owner _ _ rest => rest.leafValue

def ascend {root leaf : Ty} : Trail root leaf → Carrier leaf → Run (Carrier root)
  | finish _, changed => return changed
  | owner field whole rest, changed => do
      let part ← rest.ascend changed
      field.write whole part

end Trail

namespace Route

def descend {root leaf : Ty} : Route root leaf → Carrier root → Run (Trail root leaf)
  | stay, whole => return .finish whole
  | through field rest, whole => do
      let part ← field.read whole
      let trail ← rest.descend part
      return .owner field whole trail

theorem update_eq_descend_ascend (route : Route root leaf)
    (change : Carrier leaf → Run (Outcome (Carrier leaf))) (whole : Carrier root) :
    route.update change whole = (do
      let trail ← route.descend whole
      let changed ← change trail.leafValue
      let whole ← trail.ascend changed.value
      return ⟨whole, changed.failure⟩) := by
  induction route with
  | stay =>
      simp only [update_stay, descend, pure_bind, Trail.leafValue, Trail.ascend]
      exact (bind_pure (change whole)).symm
  | through field rest ih =>
      rw [update_through]
      simp only [ih, descend, bind_assoc, pure_bind, Trail.leafValue, Trail.ascend]

theorem leafValue_descend (route : Route root leaf) (whole : Carrier root) :
    (route.descend whole).result.leafValue = route.get whole := by
  induction route with
  | stay => rfl
  | through field rest ih => simp [descend, Trail.leafValue, get, OpenField.read_eq, ih]

end Route

/-! ## The checks of a chain -/

theorem Route.isEmpty_chain {route : Route root leaf} (hlength : 0 < route.length) :
    route.chain.isEmpty = false := by
  cases route with
  | stay => cases hlength
  | through field rest => rfl

variable [DecidableEq Ty]

namespace Outcome

def pack (type : Ty) (outcome : Outcome (Carrier type)) : Outcome (Packed Ty) :=
  ⟨⟨type, outcome.value⟩, outcome.failure⟩

end Outcome

namespace Chain

theorem atLeaf_pack (chain : Chain root leaf)
    (change : Carrier leaf → Run (Outcome (Carrier leaf))) (part : Carrier leaf) :
    chain.atLeaf change ⟨leaf, part⟩ = ExceptT.lift (Outcome.pack leaf <$> change part) := by
  simp only [atLeaf, Packed.as?_self]
  apply ExceptT.ext
  simp [Outcome.pack, Except.map]

theorem throughFields_fields (route : Route root leaf)
    {inner : Packed Ty → ExceptT SetupError Run (Outcome (Packed Ty))}
    {change : Carrier leaf → Run (Outcome (Carrier leaf))}
    (hinner : ∀ part, inner ⟨leaf, part⟩ = ExceptT.lift (Outcome.pack leaf <$> change part))
    (whole : Carrier root) :
    throughFields inner route.fields ⟨root, whole⟩ =
      ExceptT.lift (Outcome.pack root <$> route.update change whole) := by
  induction route with
  | stay => simpa [Route.fields, throughFields] using hinner whole
  | through field rest ih =>
      rw [Route.fields, throughFields, Route.update_through, OpenField.descriptor_read]
      apply ExceptT.ext
      simp [ih hinner, OpenField.descriptor_write, Outcome.pack, Except.map,
        Run.map_eq_bind]

/-! ## The loops of a bridge -/

section Loops

variable (missing : SetupError) (change : Packed Ty → ExceptT SetupError Run (Outcome (Packed Ty)))

/-- Reads each field from the value on top of the stack, or from the root, and puts it on top. -/
def readAll (root : Packed Ty) :
    List (Descriptor Ty) → List (Packed Ty) → ExceptT SetupError Run (List (Packed Ty))
  | [], stack => return stack
  | field :: fields, stack => do
      let part ← field.read (stack.head?.getD root)
      readAll root fields (part :: stack)

def writeAll : List (Descriptor Ty × Packed Ty) → Packed Ty → ExceptT SetupError Run (Packed Ty)
  | [], value => return value
  | (field, owner) :: hops, value => do
      let whole ← field.write owner value
      writeAll hops whole

/-- Changes the leaf on top, and writes it back through these fields into what lies below it. -/
def changeTop (fields : List (Descriptor Ty)) :
    List (Packed Ty) → ExceptT SetupError Run (Outcome (Packed Ty))
  | [] => throw missing
  | leaf :: owners => do
      let changed ← change leaf
      let value ← writeAll (fields.zip owners) changed.value
      return ⟨value, changed.failure⟩

def throughLoops (outermost : Descriptor Ty) (nested : List (Descriptor Ty)) (root : Packed Ty) :
    ExceptT SetupError Run (Outcome (Packed Ty)) := do
  let stack ← readAll root (outermost :: nested) []
  let changed ← changeTop missing change nested.reverse stack
  let whole ← outermost.write root changed.value
  return ⟨whole, changed.failure⟩

theorem changeTop_readAll (root part : Packed Ty) (fields written : List (Descriptor Ty))
    (owners : List (Packed Ty)) :
    (do
      let stack ← readAll root fields (part :: owners)
      changeTop missing change (fields.reverse ++ written) stack) = (do
      let changed ← throughFields change fields part
      let value ← writeAll (written.zip owners) changed.value
      return ⟨value, changed.failure⟩) := by
  induction fields generalizing part written owners with
  | nil => simp [readAll, changeTop, throughFields]
  | cons field fields ih =>
      simp only [readAll, List.head?_cons, Option.getD_some, List.reverse_cons, List.append_assoc,
        List.singleton_append, bind_assoc, throughFields, pure_bind, ih, List.zip_cons_cons,
        writeAll]

theorem throughLoops_eq (outermost : Descriptor Ty) (nested : List (Descriptor Ty))
    (root : Packed Ty) :
    throughLoops missing change outermost nested root =
      throughFields change (outermost :: nested) root := by
  have hnested := fun part => changeTop_readAll missing change root part nested [] []
  simp only [List.append_nil, List.zip_nil_right, writeAll, pure_bind] at hnested
  simp only [throughLoops, readAll, List.head?_nil, Option.getD_none, bind_assoc, throughFields]
  congr 1
  funext part
  rw [← bind_assoc, hnested]
  simp

end Loops

theorem update_chain {route : Route root leaf} (hlength : 0 < route.length)
    (change : Carrier leaf → Run (Outcome (Carrier leaf))) (whole : Carrier root) :
    route.chain.update change whole = route.update change whole := by
  have hfilled := Route.isEmpty_chain hlength
  have hthrough := throughFields_fields route (route.chain.atLeaf_pack change) whole
  rw [update, if_neg (by simp [hfilled])]
  simp only [Route.chain] at hthrough ⊢
  rw [hthrough]
  simp only [ExceptT.run_lift, Run.map_eq_bind, bind_assoc, Run.done_bind, Outcome.pack,
    Packed.as?_self]
  exact bind_pure (route.update change whole)

end Chain

/-! ## Resolved chains -/

/--
A resolved chain reads every field once on the way down, changes the leaf, and
writes every field once on the way up, whatever comes of the change.
-/
theorem resolved_update_accesses {path : PathExpression root leaf} {chain : Chain root leaf}
    (hresolve : resolve path = .ok chain)
    (change : Carrier leaf → Run (Outcome (Carrier leaf))) (whole : Carrier root) :
    ∃ route : Route root leaf, chain.fields = route.fields ∧ 0 < chain.length ∧
      chain.update change whole = (do
        let trail ← route.descend whole
        let changed ← change trail.leafValue
        let whole ← trail.ascend changed.value
        return ⟨whole, changed.failure⟩) ∧
      (route.descend whole).result.leafValue = route.get whole ∧
      (chain.update change whole).events =
        chain.fields.map Descriptor.readEvent ++ (change (route.get whole)).events ++
          chain.fields.reverse.map Descriptor.writeEvent ∧
      (chain.update change whole).result =
        ⟨route.set whole (change (route.get whole)).result.value,
          (change (route.get whole)).result.failure⟩ := by
  obtain ⟨route, hdenotes, rfl⟩ := resolve_eq_ok_iff.mp hresolve
  have hupdate := Chain.update_chain hdenotes.1 change whole
  refine ⟨route, rfl, ?_, ?_, route.leafValue_descend whole, ?_, ?_⟩
  · simpa [Chain.length, Route.chain] using hdenotes.1
  · rw [hupdate, route.update_eq_descend_ascend]
  · rw [hupdate, route.events_update]
    rfl
  · rw [hupdate, route.result_update]

def Goods.recount (count : Nat) : Run (Outcome Nat) := do
  Run.tell (.note "recount")
  return .failed (count + 1) (.custom "too many")

theorem resolved_update_accesses_recount :
    resolve Goods.countPath = .ok Goods.countRoute.chain ∧
      (Goods.countRoute.chain.update Goods.recount ⟨7, ⟨5⟩⟩).events =
        [.read "Order" "item" false, .read "Item" "count" false, .note "recount",
          .write "Item" "count" false, .write "Order" "item" false] ∧
      (Goods.countRoute.chain.update Goods.recount ⟨7, ⟨5⟩⟩).result =
        .failed ⟨7, ⟨6⟩⟩ (.custom "too many") := by
  have hresolve : resolve Goods.countPath = .ok Goods.countRoute.chain := rfl
  obtain ⟨route, -, -, -, -, hevents, -⟩ :=
    resolved_update_accesses hresolve Goods.recount ⟨7, ⟨5⟩⟩
  exact ⟨hresolve, hevents, rfl⟩

end ValuePipeline
