import HttpScenario.Registry

/-! Scenarios, steps and events in another monad. Only the generator functions inside body templates
depend on the monad, so a map between the monads carries everything over. -/

namespace HttpScenario

variable {m n k : Type → Type}

namespace Template

def Source.hoist (f : m Json → n Json) : Source m → Source n
  | .named name => .named name
  | .function make => .function fun params => f (make params)

mutual

def hoist (f : m Json → n Json) : Template m → Template n
  | literal value => literal value
  | text s => text s
  | array items => array (hoistItems f items)
  | object fields => object (hoistFields f fields)
  | generator source params => generator (source.hoist f) params

def hoistItems (f : m Json → n Json) : List (Template m) → List (Template n)
  | [] => []
  | item :: rest => item.hoist f :: hoistItems f rest

def hoistFields (f : m Json → n Json) : List (String × Template m) → List (String × Template n)
  | [] => []
  | (name, item) :: rest => (name, item.hoist f) :: hoistFields f rest

end

variable {f : m Json → n Json} {g : n Json → m Json}

theorem Source.hoist_hoist (h : ∀ x, g (f x) = x) (source : Source m) :
    (source.hoist f).hoist g = source := by
  cases source with
  | named name => rfl
  | function make => simp only [hoist, h]

mutual

theorem hoist_hoist (h : ∀ x, g (f x) = x) (template : Template m) :
    (template.hoist f).hoist g = template := by
  cases template with
  | literal value => rfl
  | text s => rfl
  | array items => simp only [hoist, hoistItems_hoistItems h items]
  | object fields => simp only [hoist, hoistFields_hoistFields h fields]
  | generator source params => simp only [hoist, source.hoist_hoist h]

theorem hoistItems_hoistItems (h : ∀ x, g (f x) = x) (items : List (Template m)) :
    hoistItems g (hoistItems f items) = items := by
  cases items with
  | nil => rfl
  | cons item rest => simp only [hoistItems, hoist_hoist h item, hoistItems_hoistItems h rest]

theorem hoistFields_hoistFields (h : ∀ x, g (f x) = x) (fields : List (String × Template m)) :
    hoistFields g (hoistFields f fields) = fields := by
  match fields with
  | [] => rfl
  | (name, item) :: rest =>
    simp only [hoistFields, hoist_hoist h item, hoistFields_hoistFields h rest]

end

end Template

def Step.hoist (f : m Json → n Json) (step : Step m) : Step n :=
  ⟨step.name, step.declaredKind, step.method, step.url, step.body.map (Template.hoist f),
    step.headers, step.validate, step.extract, step.transform⟩

section Parts

variable (f : m Json → n Json) (step : Step m)

@[simp]
theorem Step.method_hoist : (step.hoist f).method = step.method := rfl

@[simp]
theorem Step.givenUrl_hoist : (step.hoist f).givenUrl = step.givenUrl := rfl

@[simp]
theorem Step.body_hoist : (step.hoist f).body = step.body.map (Template.hoist f) := rfl

@[simp]
theorem Step.validate_hoist : (step.hoist f).validate = step.validate := rfl

@[simp]
theorem Step.extract_hoist : (step.hoist f).extract = step.extract := rfl

@[simp]
theorem Step.isHttp_hoist : (step.hoist f).isHttp = step.isHttp := rfl

@[simp]
theorem Step.kind_hoist : (step.hoist f).kind = step.kind := rfl

end Parts

def Scenario.hoist (f : m Json → n Json) (scenario : Scenario m) : Scenario n :=
  ⟨scenario.name, scenario.description, scenario.tags, scenario.vars, scenario.config,
    scenario.steps.map (Step.hoist f)⟩

def HookEvent.hoist (f : m Json → n Json) : HookEvent m → HookEvent n
  | beforeScenario scenario => .beforeScenario (scenario.hoist f)
  | beforeStep step ordinal => .beforeStep (step.hoist f) ordinal
  | afterStep step ordinal result => .afterStep (step.hoist f) ordinal result
  | afterScenario scenario results => .afterScenario (scenario.hoist f) results

@[simp]
theorem HookEvent.point_hoist (f : m Json → n Json) (event : HookEvent m) :
    (event.hoist f).point = event.point := by
  cases event <;> rfl

section Inverse

variable {f : m Json → n Json} {g : n Json → m Json}

theorem Step.hoist_hoist (h : ∀ x, g (f x) = x) (step : Step m) :
    (step.hoist f).hoist g = step := by
  have hbody : (step.body.map (Template.hoist f)).map (Template.hoist g) = step.body := by
    cases step.body with
    | none => rfl
    | some template => exact congrArg some (template.hoist_hoist h)
  simp only [hoist, hbody]

theorem Scenario.hoist_hoist (h : ∀ x, g (f x) = x) (scenario : Scenario m) :
    (scenario.hoist f).hoist g = scenario := by
  have hsteps : (scenario.steps.map (Step.hoist f)).map (Step.hoist g) = scenario.steps := by
    rw [List.map_map]
    exact List.map_id'' (fun step => step.hoist_hoist h) _
  simp only [hoist, hsteps]

theorem HookEvent.hoist_hoist (h : ∀ x, g (f x) = x) (event : HookEvent m) :
    (event.hoist f).hoist g = event := by
  cases event <;> simp only [hoist, Step.hoist_hoist h, Scenario.hoist_hoist h]

end Inverse

namespace Scenario

theorem checkSteps_hoist (f : m Json → n Json) (index : Nat) (steps : List (Step m)) :
    checkSteps index (steps.map (Step.hoist f)) = checkSteps index steps := by
  induction steps generalizing index with
  | nil => rfl
  | cons step rest ih =>
    simp only [List.map_cons, checkSteps, ih]
    rfl

theorem check_hoist (f : m Json → n Json) (scenario : Scenario m) :
    (scenario.hoist f).check = scenario.check := by
  simp only [check, hoist, List.isEmpty_map, checkSteps_hoist]

end Scenario

end HttpScenario
