import ValuePipeline.Proofs.Registry
import ValuePipeline.Proofs.Session

/-!
# Registries put together

An assembly is what a sequence of requests to a registry builder has led to.  The
policy in force is the last one that was asked for.  A call for a type that is pending
already is refused under `reject`, and its function is not called; a call whose function
fails leaves the registry as it was; any other call is accepted.  What is built tells
which calls these were, and is not touched by anything that is done later.
-/

namespace ValuePipeline

variable {Ty : Type} [TypeCode Ty] {type : Ty}

inductive Request (Ty : Type) [TypeCode Ty] where
  | policy (policy : DuplicatePolicy)
  | configure (type : Ty) (body : Builder type → Setup Ty Unit)
  | configureWith (type : Ty) (step : Step (Carrier type))
  /-- What is done between the calls, with handles that were kept or otherwise. -/
  | meanwhile (work : Setup Ty Unit)
  | build

namespace Request

/-- Building uses the registry builder up, and the next one starts with the default. -/
def policyAfter : Request Ty → DuplicatePolicy → DuplicatePolicy
  | .policy asked, _ => asked
  | .build, _ => .reject
  | _, before => before

def policyInForce (requests : List (Request Ty)) : DuplicatePolicy :=
  requests.foldl (fun before request => request.policyAfter before) .reject

end Request

structure Assembly (Ty : Type) [TypeCode Ty] where
  bench : Workbench Ty := {}
  registry : RegistryBuilder Ty := {}
  accepted : List (Pending Ty) := []
  answers : List (Except SetupError Unit) := []
  built : List (Registry Ty) := []

namespace Assembly

def answer (assembly : Assembly Ty) (bench : Workbench Ty) (answer : Except SetupError Unit) :
    Assembly Ty :=
  { assembly with bench, answers := assembly.answers ++ [answer] }

def accept (assembly : Assembly Ty) (bench : Workbench Ty) (registry : RegistryBuilder Ty)
    (type : Ty) : Assembly Ty :=
  { assembly.answer bench (.ok ()) with
    registry
    accepted := assembly.accepted ++ [⟨type, (assembly.bench.place type).1⟩] }

def carryOut (assembly : Assembly Ty) (type : Ty) (call : Setup Ty (RegistryBuilder Ty)) :
    Assembly Ty :=
  match Setup.on call assembly.bench with
  | (.ok registry, bench) => assembly.accept bench registry type
  | (.error error, bench) => assembly.answer bench (.error error)

variable [DecidableEq Ty]

def perform (assembly : Assembly Ty) : Request Ty → Assembly Ty
  | .policy policy => { assembly with registry := { assembly.registry with policy } }
  | .configure type body => assembly.carryOut type (assembly.registry.configure type body)
  | .configureWith type step => assembly.carryOut type (assembly.registry.configureWith type step)
  | .meanwhile work => { assembly with bench := (Setup.on work assembly.bench).2 }
  | .build =>
      match Setup.on assembly.registry.build assembly.bench with
      | (.ok registry, bench) =>
          { bench, answers := assembly.answers, built := assembly.built ++ [registry] }
      | (.error _, bench) => { assembly with bench }

def after (requests : List (Request Ty)) : Assembly Ty :=
  requests.foldl perform {}

theorem after_append (requests later : List (Request Ty)) :
    after (requests ++ later) = later.foldl perform (after requests) := by
  simp [after]

theorem after_concat (requests : List (Request Ty)) (request : Request Ty) :
    after (requests ++ [request]) = (after requests).perform request :=
  after_append requests [request]

/-! ## What a request does -/

variable {assembly : Assembly Ty} {policy : DuplicatePolicy}

def call (assembly : Assembly Ty) (body : Builder type → Setup Ty Unit) :
    Except SetupError Unit × Workbench Ty :=
  Setup.on (body (assembly.bench.place type).1) (assembly.bench.place type).2

def Refuses (assembly : Assembly Ty) (policy : DuplicatePolicy) (type : Ty) : Prop :=
  policy = .reject ∧ Accepted assembly.accepted type

/-- The registry builder has what was accepted, and the policy that is in force. -/
structure Sound (assembly : Assembly Ty) (policy : DuplicatePolicy) : Prop where
  policy : assembly.registry.policy = policy
  entries : assembly.registry.Keeps assembly.accepted

theorem Sound.refuses_iff (hsound : assembly.Sound policy) :
    assembly.Refuses policy type ↔
      assembly.registry.policy = .reject ∧ assembly.registry.contains type := by
  rw [Refuses, hsound.policy, hsound.entries.contains_iff]

theorem perform_configure_of_refuses (hsound : assembly.Sound policy)
    (hrefuses : assembly.Refuses policy type) (body : Builder type → Setup Ty Unit) :
    assembly.perform (.configure type body) =
      assembly.answer assembly.bench (.error (.duplicateType (TypeCode.name type))) := by
  rw [perform, carryOut, RegistryBuilder.on_configure, if_pos (hsound.refuses_iff.mp hrefuses)]

theorem perform_configure_of_error (hsound : assembly.Sound policy)
    (hrefuses : ¬ assembly.Refuses policy type) {body : Builder type → Setup Ty Unit}
    {error : SetupError} {bench : Workbench Ty}
    (hcall : assembly.call body = (.error error, bench)) :
    assembly.perform (.configure type body) = assembly.answer bench (.error error) := by
  rw [call] at hcall
  rw [perform, carryOut, RegistryBuilder.on_configure, if_neg (hsound.refuses_iff.not.mp hrefuses),
    hcall]

theorem perform_configure_of_ok (hsound : assembly.Sound policy)
    (hrefuses : ¬ assembly.Refuses policy type) {body : Builder type → Setup Ty Unit}
    {bench : Workbench Ty} (hcall : assembly.call body = (.ok (), bench)) :
    assembly.perform (.configure type body) =
      assembly.accept
        (bench.note [.typeRegistered (TypeCode.name type) (assembly.registry.contains type)])
        (assembly.registry.insert ⟨type, (assembly.bench.place type).1⟩) type := by
  rw [call] at hcall
  rw [perform, carryOut, RegistryBuilder.on_configure, if_neg (hsound.refuses_iff.not.mp hrefuses),
    hcall]

theorem perform_configureWith (assembly : Assembly Ty) (step : Step (Carrier type)) :
    assembly.perform (.configureWith type step) =
      assembly.perform (.configure type (·.addStep step)) :=
  rfl

theorem perform_build (assembly : Assembly Ty) :
    ∃ notices, assembly.perform .build =
      { bench := assembly.bench.note notices
        answers := assembly.answers
        built := assembly.built ++ [assembly.registry.compiled assembly.bench] } := by
  obtain ⟨notices, hbuild⟩ := assembly.registry.on_build assembly.bench
  exact ⟨notices, by simp only [perform, hbuild]⟩

/-! ## What any sequence of requests preserves -/

omit [DecidableEq Ty] in
theorem Sound.answer (hsound : assembly.Sound policy) (bench : Workbench Ty)
    (answer : Except SetupError Unit) : (assembly.answer bench answer).Sound policy :=
  ⟨hsound.policy, hsound.entries⟩

theorem Sound.configure (hsound : assembly.Sound policy) (type : Ty)
    (body : Builder type → Setup Ty Unit) :
    (assembly.perform (.configure type body)).Sound policy := by
  by_cases hrefuses : assembly.Refuses policy type
  · rw [perform_configure_of_refuses hsound hrefuses]
    exact hsound.answer _ _
  · rcases hcall : assembly.call body with ⟨error | _, bench⟩
    · rw [perform_configure_of_error hsound hrefuses hcall]
      exact hsound.answer _ _
    · rw [perform_configure_of_ok hsound hrefuses hcall]
      exact ⟨hsound.policy, hsound.entries.insert _⟩

theorem Sound.perform (hsound : assembly.Sound policy) (request : Request Ty) :
    (assembly.perform request).Sound (request.policyAfter policy) := by
  cases request with
  | policy policy => exact ⟨rfl, hsound.entries.withPolicy policy⟩
  | configure type body => exact hsound.configure type body
  | configureWith type step =>
      rw [perform_configureWith]
      exact hsound.configure type _
  | meanwhile work => exact ⟨hsound.policy, hsound.entries⟩
  | build =>
      obtain ⟨notices, hbuild⟩ := perform_build assembly
      rw [hbuild]
      exact ⟨rfl, .empty .reject⟩

theorem sound_after (requests : List (Request Ty)) :
    (after requests).Sound (Request.policyInForce requests) := by
  induction requests using List.reverseRecOn with
  | nil => exact ⟨rfl, .empty .reject⟩
  | append_singleton requests request ih =>
      rw [after_concat, Request.policyInForce, List.foldl_append]
      exact ih.perform request

theorem built_isPrefix_perform (assembly : Assembly Ty) (request : Request Ty) :
    assembly.built <+: (assembly.perform request).built := by
  have hcarryOut (type : Ty) (call : Setup Ty (RegistryBuilder Ty)) :
      (assembly.carryOut type call).built = assembly.built := by
    rw [carryOut]
    rcases Setup.on call assembly.bench with ⟨_ | _, bench⟩ <;> rfl
  cases request with
  | policy policy => exact List.prefix_rfl
  | configure type body => simp only [perform, hcarryOut, List.prefix_rfl]
  | configureWith type step => simp only [perform, hcarryOut, List.prefix_rfl]
  | meanwhile work => exact List.prefix_rfl
  | build =>
      obtain ⟨notices, hbuild⟩ := perform_build assembly
      rw [hbuild]
      exact List.prefix_append _ _

theorem built_isPrefix_foldl (assembly : Assembly Ty) (later : List (Request Ty)) :
    assembly.built <+: (later.foldl perform assembly).built := by
  induction later generalizing assembly with
  | nil => exact List.prefix_rfl
  | cons request later ih => exact (built_isPrefix_perform assembly request).trans (ih _)

theorem built_after_build (requests later : List (Request Ty)) :
    (after (requests ++ .build :: later)).built[(after requests).built.length]? =
      some ((after requests).registry.compiled (after requests).bench) := by
  obtain ⟨notices, hbuild⟩ := perform_build (after requests)
  rw [after_append, List.foldl_cons]
  have hprefix := built_isPrefix_foldl ((after requests).perform .build) later
  refine List.prefix_iff_getElem?.mp hprefix _ ?_ |>.trans ?_
  · simp [hbuild]
  · simp [hbuild]

/--
A call is accepted if it is not refused and its function succeeds; otherwise nothing is
registered.  A registry that is built afterwards has what was accepted until then, and
keeps it whatever is done later.
-/
theorem registry_of_accepted_calls (requests : List (Request Ty)) :
    let now := after requests
    let policy := Request.policyInForce requests
    (∀ (type : Ty) (body : Builder type → Setup Ty Unit),
      (now.Refuses policy type → now.perform (.configure type body) =
        now.answer now.bench (.error (.duplicateType (TypeCode.name type)))) ∧
      (¬ now.Refuses policy type → ∀ error bench, now.call body = (.error error, bench) →
        now.perform (.configure type body) = now.answer bench (.error error)) ∧
      (¬ now.Refuses policy type → ∀ bench, now.call body = (.ok (), bench) →
        ∃ notices registry, now.perform (.configure type body) =
          now.accept (bench.note notices) registry type)) ∧
    (∀ (type : Ty) (step : Step (Carrier type)), now.perform (.configureWith type step) =
      now.perform (.configure type (·.addStep step))) ∧
    ∀ later, ∃ registry,
      (after (requests ++ .build :: later)).built[now.built.length]? = some registry ∧
        registry.Reflects now.accepted now.bench := by
  intro now policy
  have hsound : now.Sound policy := sound_after requests
  refine ⟨fun type body => ⟨?_, ?_, ?_⟩, ?_, ?_⟩
  · intro hrefuses
    exact perform_configure_of_refuses hsound hrefuses body
  · intro hrefuses error bench hcall
    exact perform_configure_of_error hsound hrefuses hcall
  · intro hrefuses bench hcall
    exact ⟨_, _, perform_configure_of_ok hsound hrefuses hcall⟩
  · intro type step
    exact perform_configureWith now step
  · intro later
    exact ⟨_, built_after_build requests later, hsound.entries.reflects_compiled now.bench⟩

end Assembly

namespace Goods

def increaseStep : Step Nat := .total "increase" (· + 1)

def stocked : List (Request Goods) :=
  [.configure count fun builder => builder.addStep doubleStep,
    .configureWith count increaseStep,
    .policy .replace,
    .configure count fun builder => do
      builder.addStep increaseStep
      throw (.invalidSettings .invalidBounds),
    .meanwhile ((⟨0⟩ : Builder count).addStep increaseStep)]

end Goods

namespace Assembly

theorem registry_of_accepted_calls_stocked :
    (after Goods.stocked).answers =
        [.ok (), .error (.duplicateType "usize"), .error (.invalidSettings .invalidBounds)] ∧
      (after (Goods.stocked.take 1)).Refuses .reject Goods.count ∧
      (after (Goods.stocked.take 1)).perform (.configure Goods.count fun _ => pure ()) =
        (after (Goods.stocked.take 1)).answer (after (Goods.stocked.take 1)).bench
          (.error (.duplicateType "usize")) ∧
      LastAccepted (after Goods.stocked).accepted ⟨Goods.count, ⟨0⟩⟩ ∧
      ∃ registry sanitizer,
        (after (Goods.stocked ++ [.build,
          .meanwhile ((⟨0⟩ : Builder Goods.count).addStep Goods.doubleStep)])).built[0]? =
            some registry ∧
        registry.sanitizer Goods.count = .ok sanitizer ∧
        (sanitizer.sanitize (3 : Nat)).2 = .ok (7 : Nat) ∧
        registry.sanitizer Goods.item = .error (.typeNotRegistered "Item") := by
  have hpending : (after (Goods.stocked.take 1)).Refuses .reject Goods.count :=
    ⟨rfl, ⟨Goods.count, ⟨0⟩⟩, List.mem_singleton_self _, rfl⟩
  have hlast : LastAccepted (after Goods.stocked).accepted ⟨Goods.count, ⟨0⟩⟩ :=
    ⟨[], [], rfl, by simp⟩
  have hmissing : ¬ Accepted (after Goods.stocked).accepted Goods.item := by
    rintro ⟨entry, hentry, htype⟩
    obtain rfl := List.mem_singleton.mp hentry
    cases htype
  obtain ⟨hcalls, -, -⟩ := registry_of_accepted_calls (Goods.stocked.take 1)
  obtain ⟨hrefused, -, -⟩ := hcalls Goods.count fun _ => pure ()
  obtain ⟨-, -, hbuilt⟩ := registry_of_accepted_calls Goods.stocked
  obtain ⟨registry, hregistry, hreflects⟩ :=
    hbuilt [.meanwhile ((⟨0⟩ : Builder Goods.count).addStep Goods.doubleStep)]
  refine ⟨rfl, hpending, hrefused hpending, hlast, registry, _, hregistry,
    hreflects.sanitizer _ _ hlast, ?_, hreflects.missing _ hmissing⟩
  rw [Workbench.compile_eq]
  rfl

end Assembly

end ValuePipeline
