import HttpScenario.Extraction.Builtin
import HttpScenario.Failure
import HttpScenario.Hook
import HttpScenario.Report
import HttpScenario.Scenario
import HttpScenario.Validation.Builtin

/-! What scenarios can refer to by name, and what is called during a run. Registering under a name
that is taken replaces what was registered there. -/

namespace HttpScenario

structure StepOutcome where
  response : Option Response
  extracted : Context
  diagnostics : List Diagnostic

inductive HookEvent (m : Type → Type)
  | beforeScenario (scenario : Scenario m)
  | beforeStep (step : Step m) (ordinal : Nat)
  | afterStep (step : Step m) (ordinal : Nat) (result : StepResult)
  | afterScenario (scenario : Scenario m) (results : List StepResult)

def HookEvent.point {m : Type → Type} : HookEvent m → HookPoint
  | beforeScenario _ => .beforeScenario
  | beforeStep _ _ => .beforeStep
  | afterStep _ _ _ => .afterStep
  | afterScenario _ _ => .afterScenario

/-- Called with the variables of a run, returns them as they are to be from then on, and a failure
if there was one. -/
abbrev Middleware (m : Type → Type) := HookEvent m → Context → m (Context × Option Failure)

abbrev StepHandler (m : Type → Type) := Step m → Context → m (Except Failure StepOutcome)

abbrev Reporter (m : Type → Type) := Report → m (Except Failure Unit)

structure Registry (m : Type → Type) where
  validators : Validation.Table
  extractors : Extraction.Table
  generators : Fields (Generator m)
  stepTypes : Fields (StepHandler m)
  middleware : HookPoint → List (Middleware m)
  reporters : Fields (Reporter m)

namespace Registry

variable {m : Type → Type}

def empty : Registry m := ⟨[], [], [], [], fun _ => [], []⟩

def builtin [Monad m] (draw : Nat → m Nat) (now : m Nat) : Registry m :=
  { empty with
    validators := Validation.builtin
    extractors := Extraction.builtin
    generators := Generator.builtin draw now }

def registerValidator (r : Registry m) (name : String) (spec : Validation.Spec) : Registry m :=
  { r with validators := r.validators.insert name spec }

def registerExtractor (r : Registry m) (name : String) (extractor : Extractor) : Registry m :=
  { r with extractors := r.extractors.insert name extractor }

def registerGenerator (r : Registry m) (name : String) (generator : Generator m) : Registry m :=
  { r with generators := r.generators.insert name generator }

def registerStepType (r : Registry m) (kind : String) (handler : StepHandler m) : Registry m :=
  { r with stepTypes := r.stepTypes.insert kind handler }

/-- A reporter that takes the name of another also takes its place in the order. -/
def registerReporter (r : Registry m) (name : String) (reporter : Reporter m) : Registry m :=
  { r with reporters := r.reporters.insert name reporter }

def useMiddleware (r : Registry m) (point : HookPoint) (middleware : Middleware m) : Registry m :=
  { r with middleware := fun p =>
      if p = point then r.middleware p ++ [middleware] else r.middleware p }

def registerMiddleware (r : Registry m) (name : String) (middleware : Middleware m) :
    Option (Registry m) :=
  (HookPoint.ofName? name).map fun point => r.useMiddleware point middleware

def pointName : HookPoint → String
  | .beforeScenario => "BeforeScenario"
  | .beforeStep => "BeforeStep"
  | .afterStep => "AfterStep"
  | .afterScenario => "AfterScenario"

def describe (r : Registry m) : String :=
  let listed (parts : List String) : String := "[" ++ String.intercalate ", " parts ++ "]"
  let hooks := HookPoint.all.filterMap fun point =>
    let count := (r.middleware point).length
    if count = 0 then none else some s!"({pointName point}, {count})"
  let parts :=
    [("validators", toString r.validators.length), ("extractors", toString r.extractors.length),
     ("generators", toString r.generators.length),
     ("step_types", listed (r.stepTypes.names.map Text.escaped)), ("middleware", listed hooks),
     ("reporters", listed (r.reporters.names.map Text.escaped))]
  let body := String.intercalate ", " (parts.map fun (name, text) => name ++ ": " ++ text)
  "Registry \x7b " ++ body ++ " \x7d"

end Registry

end HttpScenario
