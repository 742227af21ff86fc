import HttpScenario.Proofs.Registrations

/-! What is found in a registry after any sequence of registrations: under each name the last that
was registered there, or else what was there at the beginning, and at each point all of its
middleware. A name that no point has is refused, and the registry stays as it is. -/

namespace HttpScenario

variable {m : Type → Type} {α : Type}

theorem HookPoint.ofName?_eq_some_iff {name : String} {point : HookPoint} :
    ofName? name = some point ↔ name = point.name ∨ name = point.dividedName := by
  constructor
  · intro h
    rw [ofName?] at h
    have hspelled := List.find?_some h
    simp only [Bool.or_eq_true, beq_iff_eq] at hspelled
    exact hspelled.imp Eq.symm Eq.symm
  · rintro (rfl | rfl)
    · exact ofName?_name point
    · exact ofName?_dividedName point

theorem HookPoint.ofName?_eq_none_iff {name : String} :
    ofName? name = none ↔ ∀ point : HookPoint, name ≠ point.name ∧ name ≠ point.dividedName := by
  simp only [Option.eq_none_iff_forall_ne_some, ne_eq, ofName?_eq_some_iff, not_or]

namespace Registration

def validator? : Registration m → Option (String × Validation.Spec)
  | validator name spec => some (name, spec)
  | _ => none

def extractor? : Registration m → Option (String × Extractor)
  | extractor name given => some (name, given)
  | _ => none

def generator? : Registration m → Option (String × Generator m)
  | generator name given => some (name, given)
  | _ => none

def stepType? : Registration m → Option (String × StepHandler m)
  | stepType kind given => some (kind, given)
  | _ => none

end Registration

namespace Registry

def registerAll (registry : Registry m) (entries : List (Registration m)) : Registry m :=
  entries.foldl register registry

/-- What one registration does: it enters something in one of the tables, or adds middleware at one
point, or nothing at all. -/
theorem register_eq (registry : Registry m) (entry : Registration m) :
    registry.register entry =
      { validators := Fields.merge registry.validators entry.validator?.toList
        extractors := Fields.merge registry.extractors entry.extractor?.toList
        generators := Fields.merge registry.generators entry.generator?.toList
        stepTypes := Fields.merge registry.stepTypes entry.stepType?.toList
        middleware := fun point => registry.middleware point ++ (entry.middleware? point).toList
        reporters := Fields.merge registry.reporters entry.reporter?.toList } := by
  have hmiddleware := funext (middleware_register registry entry)
  rw [← hmiddleware]
  cases entry with
  | middlewareByName name given =>
    simp only [register, registerMiddleware]
    cases HookPoint.ofName? name <;> rfl
  | _ => rfl

/-- One of the tables of a registry, and what registrations enter in it. -/
structure Table (m : Type → Type) (α : Type) where
  fields : Registry m → Fields α
  entered? : Registration m → Option (String × α)
  fields_register : ∀ registry entry,
    fields (registry.register entry) = Fields.merge (fields registry) (entered? entry).toList

namespace Table

def validators : Table m Validation.Spec where
  fields := Registry.validators
  entered? := Registration.validator?
  fields_register registry entry := congrArg Registry.validators (register_eq registry entry)

def extractors : Table m Extractor where
  fields := Registry.extractors
  entered? := Registration.extractor?
  fields_register registry entry := congrArg Registry.extractors (register_eq registry entry)

def generators : Table m (Generator m) where
  fields := Registry.generators
  entered? := Registration.generator?
  fields_register registry entry := congrArg Registry.generators (register_eq registry entry)

def stepTypes : Table m (StepHandler m) where
  fields := Registry.stepTypes
  entered? := Registration.stepType?
  fields_register registry entry := congrArg Registry.stepTypes (register_eq registry entry)

def reporters : Table m (Reporter m) where
  fields := Registry.reporters
  entered? := Registration.reporter?
  fields_register := reporters_register

variable (table : Table m α)

def under? (name : String) (entry : Registration m) : Option α :=
  (table.entered? entry).bind fun entered => if entered.1 = name then some entered.2 else none

def latest? (entries : List (Registration m)) (name : String) : Option α :=
  (entries.filterMap (table.under? name)).getLast?

theorem latest?_cons (entry : Registration m) (rest : List (Registration m)) (name : String) :
    table.latest? (entry :: rest) name =
      (table.latest? rest name).or (table.under? name entry) := by
  unfold latest?
  cases hentry : table.under? name entry with
  | none => rw [List.filterMap_cons_none hentry, Option.or_none]
  | some given => rw [List.filterMap_cons_some hentry, List.getLast?_cons, Option.or_some]

theorem get?_register (registry : Registry m) (entry : Registration m) (name : String) :
    (table.fields (registry.register entry)).get? name =
      (table.under? name entry).or ((table.fields registry).get? name) := by
  rw [table.fields_register, under?]
  cases table.entered? entry with
  | none => rfl
  | some entered =>
    have hinsert := Fields.get?_insert (table.fields registry) entered.1 entered.2 name
    rw [Option.toList_some, Fields.merge_cons, Fields.merge_nil, hinsert, Option.bind_some]
    split <;> rfl

theorem get?_registerAll (registry : Registry m) (entries : List (Registration m)) (name : String) :
    (table.fields (registry.registerAll entries)).get? name =
      (table.latest? entries name).or ((table.fields registry).get? name) := by
  induction entries generalizing registry with
  | nil => rfl
  | cons entry rest ih =>
    have hrest := ih (registry.register entry)
    rw [get?_register, ← Option.or_assoc, ← latest?_cons] at hrest
    exact hrest

end Table

variable [Monad m]

/-- A registry in which nothing was registered yet: an empty one, or one with what is built in. -/
inductive Initial : Registry m → Prop
  | empty : Initial .empty
  | builtin {draw now} : Initial (.builtin draw now)

namespace Made

variable {before : List (Registration m)} {registry : Registry m}

theorem nodup_reporters (h : Made before registry) : registry.reporters.names.Nodup := by
  rw [h.reporters]
  exact Fields.nodup_names_ofList _

theorem registerAll (h : Made before registry) (entries : List (Registration m)) :
    Made (before ++ entries) (registry.registerAll entries) := by
  induction entries generalizing before registry with
  | nil =>
    rw [List.append_nil]
    exact h
  | cons entry rest ih =>
    have hrest := ih (h.register entry)
    rw [List.append_assoc, List.singleton_append] at hrest
    exact hrest

end Made

theorem Initial.made {start : Registry m} (h : Initial start) : Made [] start := by
  cases h with
  | empty => exact .empty
  | builtin => exact .builtin

theorem Initial.stepTypes {start : Registry m} (h : Initial start) : start.stepTypes = [] := by
  cases h <;> rfl

/-- What is found in a registry that began as `start` when `entries` were registered in order. -/
structure Holds (start : Registry m) (entries : List (Registration m)) (registry : Registry m) :
    Prop where
  validators : ∀ name, registry.validators.get? name =
    (Table.validators.latest? entries name).or (start.validators.get? name)
  extractors : ∀ name, registry.extractors.get? name =
    (Table.extractors.latest? entries name).or (start.extractors.get? name)
  generators : ∀ name, registry.generators.get? name =
    (Table.generators.latest? entries name).or (start.generators.get? name)
  stepTypes : ∀ name, registry.stepTypes.get? name = Table.stepTypes.latest? entries name
  reporters : ∀ name, registry.reporters.get? name = Table.reporters.latest? entries name
  /-- Each name of a reporter stands once, where it was registered first. -/
  reporter_names : registry.reporters.names =
    (Fields.names (entries.filterMap Registration.reporter?)).eraseDups
  nodup_reporter_names : registry.reporters.names.Nodup
  middleware : ∀ point,
    registry.middleware point = entries.filterMap (Registration.middleware? point)

theorem Initial.holds {start : Registry m} (h : Initial start) (entries : List (Registration m)) :
    Holds start entries (start.registerAll entries) := by
  have hmade : Made entries (start.registerAll entries) := h.made.registerAll entries
  refine ⟨Table.validators.get?_registerAll start entries,
    Table.extractors.get?_registerAll start entries,
    Table.generators.get?_registerAll start entries, fun name => ?_, fun name => ?_,
    hmade.names_reporters, hmade.nodup_reporters, hmade.middleware⟩
  · have hfound := Table.stepTypes.get?_registerAll start entries name
    have hnone : (Table.stepTypes.fields start).get? name = none := by
      show start.stepTypes.get? name = none
      rw [h.stepTypes, Fields.get?_nil]
    rw [hnone, Option.or_none] at hfound
    exact hfound
  · have hfound := Table.reporters.get?_registerAll start entries name
    have hnone : (Table.reporters.fields start).get? name = none := by
      show start.reporters.get? name = none
      rw [h.made.reporters]
      rfl
    rw [hnone, Option.or_none] at hfound
    exact hfound

/-- After any sequence of registrations the last one under a name is found there, or else what is
built in. Reporters stand in the order of their first registration, with no name twice, and at each
point is all of its middleware in order, whichever spelling of its name was used. Names that are no
spelling of a point are refused, and only these; then nothing changes. -/
theorem latest_of_registerAll {start : Registry m} (hstart : Initial start)
    (entries : List (Registration m)) :
    let registry := start.registerAll entries
    Holds start entries registry ∧
    (∀ point name given, name = point.name ∨ name = point.dividedName →
      registry.registerMiddleware name given = some (registry.useMiddleware point given) ∧
      registry.register (.middlewareByName name given) =
        registry.register (.middleware point given)) ∧
    ∀ name given, (∀ point : HookPoint, name ≠ point.name ∧ name ≠ point.dividedName) →
      registry.registerMiddleware name given = none ∧
      registry.register (.middlewareByName name given) = registry := by
  intro registry
  refine ⟨hstart.holds entries, fun point name given hname => ?_, fun name given hname => ?_⟩
  · have hadded : registry.registerMiddleware name given =
        some (registry.useMiddleware point given) := by
      rw [registerMiddleware, HookPoint.ofName?_eq_some_iff.2 hname, Option.map_some]
    refine ⟨hadded, ?_⟩
    simp only [register, hadded, Option.getD_some]
  · have hrefused : registry.registerMiddleware name given = none := by
      rw [registerMiddleware, HookPoint.ofName?_eq_none_iff.2 hname, Option.map_none]
    refine ⟨hrefused, ?_⟩
    simp only [register, hrefused, Option.getD_none]

namespace Sample

def quiet : Reporter Id := fun _ => .ok ()

def full : Reporter Id := fun _ => .error (.ofText "no room left")

def marking (name : String) : Middleware Id := fun _ context => (context.insert name .null, none)

def entries : List (Registration Id) :=
  [.validator "created" .success, .reporter "out" quiet, .reporter "log" quiet,
    .middleware .beforeStep (marking "a"), .reporter "out" full,
    .middlewareByName "before_step" (marking "b"), .middlewareByName "onError" (marking "c"),
    .validator "created" (.status 200), .middlewareByName "beforeStep" (marking "d")]

end Sample

theorem latest_of_sample_registerAll :
    let start : Registry Id := .builtin (fun _ => 0) 0
    let registry := start.registerAll Sample.entries
    Initial start ∧
    registry.validators.get? "created" = some (.status 200) ∧
    registry.validators.get? "ok" = some (.status 200) ∧
    registry.validators.get? "unknown" = none ∧
    registry.reporters.names = ["out", "log"] ∧
    registry.reporters.get? "out" = some Sample.full ∧
    registry.middleware .beforeStep =
      [Sample.marking "a", Sample.marking "b", Sample.marking "d"] ∧
    registry.registerMiddleware "onError" (Sample.marking "c") = none := by
  intro start registry
  have hstart : Initial start := .builtin
  obtain ⟨holds, -, hrefused⟩ := latest_of_registerAll hstart Sample.entries
  refine ⟨hstart, holds.validators "created", holds.validators "ok", holds.validators "unknown",
    ?_, holds.reporters "out", holds.middleware .beforeStep, (hrefused "onError" _ ?_).1⟩
  · rw [holds.reporter_names]
    decide
  · intro point
    cases point <;> decide

end Registry

end HttpScenario
