import HttpScenario.Registry

/-! Outlines of registries and of the events of a run: names and numbers as JSON values. -/

namespace HttpScenario

variable {m : Type → Type}

def Registry.outline (r : Registry m) : Json :=
  let listed (names : List String) : Json := .array (names.map .string)
  let sorted (names : List String) : Json := listed (names.mergeSort fun a b => a ≤ b)
  .object
    [("validators", sorted r.validators.names), ("extractors", sorted r.extractors.names),
     ("generators", sorted r.generators.names), ("reporters", listed r.reporters.names),
     ("middleware", .array (HookPoint.all.map fun point =>
       .array [.string point.name, .nat (r.middleware point).length]))]

def HookEvent.outline : HookEvent m → Fields Json
  | beforeScenario scenario => [("scenario", .string scenario.name)]
  | beforeStep step ordinal => [("step", .string step.name), ("ordinal", .nat ordinal)]
  | afterStep step ordinal result =>
    [("step", .string step.name), ("ordinal", .nat ordinal), ("success", .bool result.success),
     ("extracted", .object result.extracted)]
  | afterScenario scenario results =>
    [("scenario", .string scenario.name), ("results", .nat results.length)]

end HttpScenario
