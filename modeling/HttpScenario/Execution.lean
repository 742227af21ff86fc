import HttpScenario.Registry
import HttpScenario.World

/-! Execution of one step. An http step builds its request, gets a response for it, validates the
response and only then extracts variables; a step of a type with a handler is left to that. -/

namespace HttpScenario

inductive StepError
  | validation (step reason : String)
  | dispatch (step : String) (cause : TransportError)
  | handler (step kind : String) (cause : Failure)
  | malformed (step reason : String)

def StepError.message : StepError → String
  | validation step reason => s!"validation failed for step '{step}': {reason}"
  | dispatch step cause => s!"request failed for step '{step}': {cause.message}"
  | handler step kind cause =>
    s!"handler for step type '{kind}' failed in step '{step}': {cause.message}"
  | malformed step reason => s!"step '{step}' cannot be dispatched: {reason}"

structure StepFailure where
  error : StepError
  response : Option Response
  diagnostics : List Diagnostic

def StepFailure.ofError (error : StepError) : StepFailure := ⟨error, none, []⟩

namespace Execution

variable {m : Type → Type}

/-- The headers of a request: those of the step, and those of the configuration whose names differ
from all of them in more than case. -/
def headers (config : Config) (step : Step m) (context : Context) : Fields String :=
  let kept := config.headers.filter fun entry =>
    !step.headers.any fun own => Text.sameName own.1 entry.1
  let fill (entry : String × String) := (entry.1, Placeholder.substitute context entry.2)
  Fields.merge (kept.map fill) (step.headers.map fill)

variable [Monad m]

def rendered (world : World m) (registry : Registry m) (step : Step m) (context : Context) :
    m (Option Json) :=
  match step.body with
  | none => return none
  | some template => do
    let env : Template.Environment m := ⟨registry.generators, world.warn⟩
    return some (← template.render env context)

/-- The body of a request. A step that transforms it does so in any case, from null if the step has
no body of its own. -/
def body (world : World m) (registry : Registry m) (step : Step m) (context : Context) :
    m (Option Json) := do
  let rendered ← rendered world registry step context
  return match step.transform with
    | none => rendered
    | some transform => some (transform (rendered.getD .null) context)

def request (world : World m) (config : Config) (registry : Registry m) (step : Step m)
    (context : Context) : m (Except StepError Request) := do
  match step.method, step.givenUrl with
  | none, _ => return .error (.malformed step.name "missing method")
  | some _, none => return .error (.malformed step.name "missing url")
  | some method, some url =>
    let body ← body world registry step context
    let url := Placeholder.substitute context url
    return .ok ⟨method, url, headers config step context, body⟩

def simulate (world : World m) (step : Step m) : m Response := do
  let id ← Generator.uuid world.draw []
  let data := Json.object
    [("id", id), ("message", .string s!"Simulated response for step '{step.name}'"),
     ("simulated", .bool true)]
  return ((Response.ofStatus 200).withHeader "content-type" "application/json").withData data

def response (world : World m) (config : Config) (step : Step m) (request : Request) :
    m (Except TransportError Response) := do
  if config.dryRun then return .ok (← simulate world step) else world.send request

def validate (world : World m) (registry : Registry m) (step : Step m) (response : Response) :
    m Validation.Verdict := do
  match step.validate with
  | none => return .pass
  | some spec =>
    let judgement := Validation.validate registry.validators spec response
    world.logAll judgement.notes
    return judgement.value

def extract (world : World m) (registry : Registry m) (step : Step m) (response : Response) :
    m (Context × List Diagnostic) := do
  match step.extract with
  | none => return ([], [])
  | some spec =>
    let extraction := Extraction.extract registry.extractors spec response
    world.logAll (extraction.notes.map Extraction.Problem.logLine)
    return (extraction.value, extraction.notes.map Extraction.Problem.diagnostic)

def assess (world : World m) (registry : Registry m) (step : Step m) (response : Response) :
    m (Except StepFailure StepOutcome) := do
  let verdict ← validate world registry step response
  if verdict.passed then
    let (extracted, problems) ← extract world registry step response
    return .ok ⟨some response, extracted, verdict.diagnostics ++ problems⟩
  else
    let error := StepError.validation step.name verdict.reason
    return .error ⟨error, some response, verdict.diagnostics⟩

def performHttp (world : World m) (config : Config) (registry : Registry m) (step : Step m)
    (context : Context) : m (Except StepFailure StepOutcome) := do
  match ← request world config registry step context with
  | .error error => return .error (.ofError error)
  | .ok request =>
    match ← response world config step request with
    | .error cause => return .error (.ofError (.dispatch step.name cause))
    | .ok response => assess world registry step response

def perform (world : World m) (config : Config) (registry : Registry m) (step : Step m)
    (context : Context) : m (Except StepFailure StepOutcome) := do
  if step.isHttp then performHttp world config registry step context
  else
    match registry.stepTypes.get? step.kind with
    | some handler =>
      return (← handler step context).mapError fun cause =>
        .ofError (.handler step.name step.kind cause)
    | none =>
      world.warn (s!"No handler registered for step type '{step.kind}', " ++
        s!"running step '{step.name}' as http")
      performHttp world config registry step context

end Execution

open Execution in
/-- Performs a step and adds its variables to the context. A step that fails leaves the context as
it is. -/
def execute {m : Type → Type} [Monad m] (world : World m) (config : Config) (registry : Registry m)
    (step : Step m) (context : Context) : m (Except StepFailure StepOutcome × Context) := do
  match ← perform world config registry step context with
  | .ok outcome => return (.ok outcome, Fields.merge context outcome.extracted)
  | .error failure => return (.error failure, context)

end HttpScenario
