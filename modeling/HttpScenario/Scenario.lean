import HttpScenario.Config
import HttpScenario.Extraction.Evaluation
import HttpScenario.Method
import HttpScenario.Template
import HttpScenario.Text.Blank
import HttpScenario.Validation.Evaluation

/-! Scenarios: named lists of steps. A step sends a request, validates the response and extracts
variables from it, unless it is of a type with a handler of its own. -/

namespace HttpScenario

structure Step (m : Type → Type) where
  name : String
  declaredKind : Option String
  method : Option Method
  url : Option String
  body : Option (Template m)
  headers : Fields String
  validate : Option Validation.Spec
  extract : Option Extraction.Spec
  transform : Option (Json → Context → Json)

namespace Step

variable {m : Type → Type}

def httpKind : String := "http"

def kind (step : Step m) : String := step.declaredKind.getD httpKind

def isHttp (step : Step m) : Bool := step.kind == httpKind

def http (name : String) (method : Method) (url : String) : Step m :=
  ⟨name, none, some method, some url, none, [], none, none, none⟩

def custom (name kind : String) : Step m :=
  ⟨name, some kind, none, none, none, [], none, none, none⟩

def givenUrl (step : Step m) : Option String := step.url.filter fun url => url ≠ ""

end Step

structure Scenario (m : Type → Type) where
  name : String
  description : Option String
  tags : List String
  vars : Context
  config : Config
  steps : List (Step m)

namespace Scenario

variable {m : Type → Type}

inductive Error
  | unreadable
  | missingName
  | noSteps (name : String)
  | missingStepName (index : Nat)
  | missingField (index : Nat) (name field : String)
deriving DecidableEq

def Error.message : Error → String
  | unreadable => "failed to parse scenario: not a scenario"
  | missingName => "scenario name must not be empty"
  | noSteps name => s!"scenario '{name}' has no steps"
  | missingStepName index => s!"step {index} has no name"
  | missingField index name field => s!"step {index} ({name}): '{field}' is required for http steps"

def new (name : String) (steps : List (Step m)) : Scenario m :=
  ⟨name, none, [], [], .default, steps⟩

def isBlankName (name : String) : Bool := Text.trim name == ""

def checkStep (index : Nat) (step : Step m) : Except Error Unit :=
  if isBlankName step.name then .error (.missingStepName index)
  else if !step.isHttp then .ok ()
  else if step.method.isNone then .error (.missingField index step.name "method")
  else if step.givenUrl.isNone then .error (.missingField index step.name "url")
  else .ok ()

def checkSteps (index : Nat) : List (Step m) → Except Error Unit
  | [] => .ok ()
  | step :: rest => do
    checkStep index step
    checkSteps (index + 1) rest

/-- What has to hold before a run; the first problem is the one that is told. -/
def check (scenario : Scenario m) : Except Error Unit :=
  if isBlankName scenario.name then .error .missingName
  else if scenario.steps.isEmpty then .error (.noSteps scenario.name)
  else checkSteps 1 scenario.steps

end Scenario

end HttpScenario
