import ValuePipeline.Sanitizer

/-!
# Registries

A registry holds one sanitizer for each type that was configured.  While it is
put together it holds a builder per type; the builders are compiled together at
the end, so what happens to their drafts until then counts.  A policy says
whether a type that is there already is refused or replaced.
-/

namespace ValuePipeline

variable {Ty : Type} [TypeCode Ty] [DecidableEq Ty]

inductive DuplicatePolicy where
  | reject
  | replace
  deriving DecidableEq, Repr

def DuplicatePolicy.label : DuplicatePolicy → String
  | reject => "Reject"
  | replace => "Replace"

structure Pending (Ty : Type) where
  type : Ty
  builder : Builder type

/-- Types in the order in which they were first configured. -/
structure RegistryBuilder (Ty : Type) where
  policy : DuplicatePolicy := .reject
  pending : List (Pending Ty) := []

structure Registered (Ty : Type) [TypeCode Ty] where
  type : Ty
  sanitizer : Sanitizer type

structure Registry (Ty : Type) [TypeCode Ty] where
  entries : List (Registered Ty)

namespace RegistryBuilder

variable {m : Type → Type} [Monad m]

def contains (registry : RegistryBuilder Ty) (type : Ty) : Bool :=
  registry.pending.any fun entry => entry.type = type

def insert (registry : RegistryBuilder Ty) (entry : Pending Ty) : RegistryBuilder Ty :=
  { registry with
    pending :=
      if registry.contains entry.type then
        registry.pending.map fun other => if other.type = entry.type then entry else other
      else registry.pending ++ [entry] }

/--
Configures a type.  A type that is pending already is refused under `reject`,
before the function is called; if the function fails, nothing is registered.
-/
def configure (registry : RegistryBuilder Ty) (type : Ty)
    (body : Builder type → SetupT Ty m Unit) : SetupT Ty m (RegistryBuilder Ty) := do
  let replaced := registry.contains type
  if registry.policy = .reject ∧ replaced then
    throw (.duplicateType (TypeCode.name type))
  let builder ← Builder.new type
  body builder
  SetupT.note [.typeRegistered (TypeCode.name type) replaced]
  return registry.insert ⟨type, builder⟩

def configureWith (registry : RegistryBuilder Ty) (type : Ty) (step : Step (Carrier type)) :
    SetupT Ty m (RegistryBuilder Ty) :=
  registry.configure type (·.addStep step)

def build (registry : RegistryBuilder Ty) : SetupT Ty m (Registry Ty) := do
  let entries ← registry.pending.mapM fun entry => do
    return (⟨entry.type, ⟨← entry.builder.build⟩⟩ : Registered Ty)
  SetupT.note [.registryBuilt entries.length]
  return ⟨entries⟩

def described (registry : RegistryBuilder Ty) : String :=
  Text.described "SanitizerRegistryBuilder"
    [("policy", registry.policy.label), ("types", toString registry.pending.length)]

end RegistryBuilder

namespace Registry

variable {m : Type → Type} [Monad m]

def configure (body : RegistryBuilder Ty → SetupT Ty m (RegistryBuilder Ty)) :
    SetupT Ty m (Registry Ty) := do
  (← body {}).build

def sanitizer? (registry : Registry Ty) (type : Ty) : Option (Sanitizer type) :=
  registry.entries.findSome? fun entry =>
    if same : entry.type = type then some (same ▸ entry.sanitizer) else none

def sanitizer (registry : Registry Ty) (type : Ty) : Except SetupError (Sanitizer type) :=
  match registry.sanitizer? type with
  | some found => .ok found
  | none => .error (.typeNotRegistered (TypeCode.name type))

def contains (registry : Registry Ty) (type : Ty) : Bool :=
  registry.entries.any fun entry => entry.type = type

def size (registry : Registry Ty) : Nat := registry.entries.length

def isEmpty (registry : Registry Ty) : Bool := registry.entries.isEmpty

def typeNames (registry : Registry Ty) : List String :=
  (registry.entries.map fun entry => TypeCode.name entry.type).mergeSort fun a b => a ≤ b

def described (registry : Registry Ty) : String :=
  Text.described "SanitizerRegistry"
    [("types", Text.listed (registry.typeNames.map Text.quoted))]

end Registry

def Sanitizer.create {m : Type → Type} [Monad m] (type : Ty)
    (body : Builder type → SetupT Ty m Unit) : SetupT Ty m (Sanitizer type) := do
  let registry ← Registry.configure fun registry => registry.configure type body
  SetupT.ofExcept (registry.sanitizer type)

end ValuePipeline
