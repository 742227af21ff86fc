import HttpScenario.Proofs.Fields
import HttpScenario.Registry

/-! How registries come about: something is registered, one after the other, beside what is built in
or without it. Reporters and middleware keep the order in which they were registered. -/

namespace HttpScenario

variable {m : Type → Type}

inductive Registration (m : Type → Type)
  | validator (name : String) (spec : Validation.Spec)
  | extractor (name : String) (given : Extractor)
  | generator (name : String) (given : Generator m)
  | stepType (kind : String) (given : StepHandler m)
  | reporter (name : String) (given : Reporter m)
  | middleware (point : HookPoint) (given : Middleware m)
  | middlewareByName (name : String) (given : Middleware m)

namespace Registration

def reporter? : Registration m → Option (String × Reporter m)
  | reporter name given => some (name, given)
  | _ => none

def middleware? (point : HookPoint) : Registration m → Option (Middleware m)
  | middleware other given => if point = other then some given else none
  | middlewareByName name given => if HookPoint.ofName? name = some point then some given else none
  | _ => none

end Registration

namespace Registry

def register (registry : Registry m) : Registration m → Registry m
  | .validator name spec => registry.registerValidator name spec
  | .extractor name given => registry.registerExtractor name given
  | .generator name given => registry.registerGenerator name given
  | .stepType kind given => registry.registerStepType kind given
  | .reporter name given => registry.registerReporter name given
  | .middleware point given => registry.useMiddleware point given
  | .middlewareByName name given => (registry.registerMiddleware name given).getD registry

theorem reporters_registerMiddleware (registry : Registry m) (name : String)
    (given : Middleware m) :
    ((registry.registerMiddleware name given).getD registry).reporters = registry.reporters := by
  unfold registerMiddleware
  cases HookPoint.ofName? name <;> rfl

theorem reporters_register (registry : Registry m) (entry : Registration m) :
    (registry.register entry).reporters =
      Fields.merge registry.reporters entry.reporter?.toList := by
  cases entry with
  | middlewareByName name given => exact reporters_registerMiddleware registry name given
  | _ => rfl

theorem middleware_useMiddleware (registry : Registry m) (point other : HookPoint)
    (given : Middleware m) :
    (registry.useMiddleware other given).middleware point =
      registry.middleware point ++ (if point = other then some given else none).toList := by
  by_cases h : point = other
  · simp [useMiddleware, h]
  · simp [useMiddleware, h]

theorem middleware_register (registry : Registry m) (entry : Registration m) (point : HookPoint) :
    (registry.register entry).middleware point =
      registry.middleware point ++ (entry.middleware? point).toList := by
  cases entry with
  | middleware other given => exact middleware_useMiddleware registry point other given
  | middlewareByName name given =>
    simp only [register, registerMiddleware, Registration.middleware?]
    cases HookPoint.ofName? name with
    | none => exact (List.append_nil _).symm
    | some other =>
      have hpoint : some other = some point ↔ point = other := by
        rw [Option.some.injEq, eq_comm]
      simp only [Option.map_some, Option.getD_some, hpoint]
      exact middleware_useMiddleware registry point other given
  | _ => exact (List.append_nil _).symm

variable [Monad m]

/-- A registry in which entries were registered in order. -/
inductive Made : List (Registration m) → Registry m → Prop
  | empty : Made [] .empty
  | builtin {draw now} : Made [] (.builtin draw now)
  | register {entries registry} (entry : Registration m) (h : Made entries registry) :
      Made (entries ++ [entry]) (registry.register entry)

namespace Made

variable {entries : List (Registration m)} {registry : Registry m}

theorem reporters (h : Made entries registry) :
    registry.reporters = Fields.merge [] (entries.filterMap Registration.reporter?) := by
  induction h with
  | empty => rfl
  | builtin => rfl
  | register entry _ ih =>
    rw [reporters_register, ih, ← Fields.merge_append, List.filterMap_append]
    cases hreporter : entry.reporter? <;> simp [hreporter]

theorem names_reporters (h : Made entries registry) :
    registry.reporters.names =
      (Fields.names (entries.filterMap Registration.reporter?)).eraseDups := by
  rw [h.reporters, Fields.names_merge_nil]

theorem middleware (h : Made entries registry) (point : HookPoint) :
    registry.middleware point = entries.filterMap (Registration.middleware? point) := by
  induction h with
  | empty => rfl
  | builtin => rfl
  | register entry _ ih =>
    rw [middleware_register, ih, List.filterMap_append]
    cases hmiddleware : entry.middleware? point <;> simp [hmiddleware]

end Made

/-- Middleware and reporters stand in the order of their registration. A reporter under a name that
is taken comes in the place of the other. -/
def InOrder (registry : Registry m) : Prop :=
  ∀ entries, Made entries registry →
    registry.reporters.names =
      (Fields.names (entries.filterMap Registration.reporter?)).eraseDups ∧
    ∀ point, registry.middleware point = entries.filterMap (Registration.middleware? point)

theorem inOrder (registry : Registry m) : registry.InOrder := fun _ h =>
  ⟨h.names_reporters, h.middleware⟩

end Registry

end HttpScenario
