import HttpScenario.Execution

/-! Running scenarios. Steps are executed in order, up to the first that fails; middleware is called
around them, and reporters are told in the end. -/

namespace HttpScenario

inductive RunError
  | structural (cause : Scenario.Error)
  | stepFailed (ordinal : Nat) (name : String) (cause : StepError)
  | middleware (point : HookPoint) (cause : Failure)

def RunError.message : RunError → String
  | structural cause => cause.message
  | stepFailed ordinal name cause => s!"step {ordinal} ({name}) failed: {cause.message}"
  | middleware point cause => s!"{point.name} middleware failed: {cause.message}"

structure Progress where
  results : List StepResult
  context : Context

structure Runner (m : Type → Type) where
  config : Config
  registry : Registry m
  last : Progress

namespace Runner

variable {m : Type → Type}

def new (config : Config) (registry : Registry m) : Runner m := ⟨config, registry, ⟨[], []⟩⟩

variable [Monad m]

def callAll (event : HookEvent m) : List (Middleware m) → Context → m (Context × Option Failure)
  | [], context => return (context, none)
  | middleware :: rest, context => do
    match ← middleware event context with
    | (context, none) => callAll event rest context
    | (context, some failure) => return (context, some failure)

def fire (registry : Registry m) (event : HookEvent m) (context : Context) :
    m (Context × Option RunError) := do
  let (context, failure) ← callAll event (registry.middleware event.point) context
  return (context, failure.map (.middleware event.point))

def resultOf (step : Step m) (ordinal duration : Nat) :
    Except StepFailure StepOutcome → StepResult
  | .ok outcome =>
    ⟨step.name, ordinal, true, outcome.response, none, outcome.extracted, outcome.diagnostics,
      duration⟩
  | .error failure =>
    ⟨step.name, ordinal, false, failure.response, some failure.error.message, [],
      failure.diagnostics, duration⟩

def logStep (world : World m) (step : Step m) (ordinal : Nat) :
    Except StepFailure StepOutcome → m Unit
  | .ok outcome =>
    world.logAll (outcome.diagnostics.map fun d => .warning s!"step '{step.name}': {d.text}")
  | .error failure => do
    world.error s!"Step {ordinal} ({step.name}) failed: {failure.error.message}"
    world.info "Stopping scenario due to step failure"

def runStep (world : World m) (config : Config) (registry : Registry m) (step : Step m)
    (ordinal : Nat) (progress : Progress) : m (StepResult × Progress × Option RunError) := do
  let started ← world.now
  let (executed, context) ← execute world config registry step progress.context
  let ended ← world.now
  logStep world step ordinal executed
  let result := resultOf step ordinal (ended - started) executed
  let progress : Progress := ⟨progress.results ++ [result], context⟩
  match executed with
  | .ok _ => return (result, progress, none)
  | .error failure => return (result, progress, some (.stepFailed ordinal step.name failure.error))

def visit (world : World m) (config : Config) (registry : Registry m) (step : Step m)
    (ordinal : Nat) (progress : Progress) : m (Progress × Option RunError) := do
  match ← fire registry (.beforeStep step ordinal) progress.context with
  | (context, some error) => return ({ progress with context := context }, some error)
  | (context, none) =>
    match ← runStep world config registry step ordinal { progress with context := context } with
    | (_, progress, some error) => return (progress, some error)
    | (result, progress, none) =>
      let (context, error) ← fire registry (.afterStep step ordinal result) progress.context
      return ({ progress with context := context }, error)

def visitAll (world : World m) (config : Config) (registry : Registry m) (total : Nat)
    (ordinal : Nat) (progress : Progress) : List (Step m) → m (Progress × Option RunError)
  | [] => return (progress, none)
  | step :: rest => do
    if 1 < ordinal ∧ 0 < config.delay then world.wait config.delay
    world.info s!"Running step {ordinal}/{total}: {step.name}"
    match ← visit world config registry step ordinal progress with
    | (progress, some error) => return (progress, some error)
    | (progress, none) => visitAll world config registry total (ordinal + 1) progress rest

def runSteps (world : World m) (config : Config) (registry : Registry m) (scenario : Scenario m)
    (context : Context) : m (Progress × Option RunError) := do
  match ← fire registry (.beforeScenario scenario) context with
  | (context, some error) => return (⟨[], context⟩, some error)
  | (context, none) =>
    visitAll world config registry scenario.steps.length 1 ⟨[], context⟩ scenario.steps

def finish (world : World m) (registry : Registry m) (scenario : Scenario m) (progress : Progress)
    (error : Option RunError) : m (Progress × Option RunError) := do
  let (context, late) ←
    fire registry (.afterScenario scenario progress.results) progress.context
  let progress := { progress with context := context }
  match error, late with
  | some error, some late =>
    world.warn late.message
    return (progress, some error)
  | some error, none => return (progress, some error)
  | none, late => return (progress, late)

def tell (world : World m) (report : Report) : Fields (Reporter m) → m Unit
  | [] => return ()
  | (name, reporter) :: rest => do
    match ← reporter report with
    | .ok () => pure ()
    | .error failure => world.warn s!"Reporter '{name}' failed: {failure.fullText}"
    tell world report rest

def reportOf (scenario : Scenario m) (progress : Progress) (error : Option RunError)
    (started ended : Nat) : Report :=
  ⟨scenario.name, error.isNone, error.map RunError.message, progress.results, progress.context,
    Generator.instantText ended, .ofResults progress.results, ended - started⟩

def conduct (world : World m) (config : Config) (registry : Registry m) (scenario : Scenario m)
    (given : Context) : m (Except RunError Report × Progress) := do
  let started ← world.now
  world.info s!"Starting scenario: {scenario.name}"
  if config.dryRun then world.info "Dry run: requests will be simulated"
  let context := Fields.merge scenario.vars given
  let (progress, error) ← runSteps world config registry scenario context
  let (progress, error) ← finish world registry scenario progress error
  let ended ← world.now
  let report := reportOf scenario progress error started ended
  tell world report registry.reporters
  world.info
    s!"Scenario finished: {scenario.name} ({report.duration} ms) - Success: {report.success}"
  return (error.elim (.ok report) .error, progress)

def runChecked (world : World m) (runner : Runner m) (scenario : Scenario m) (given : Context) :
    m (Except RunError Report × Runner m) := do
  let (outcome, progress) ← conduct world runner.config runner.registry scenario given
  return (outcome, { runner with last := progress })

/-- Runs a scenario with its own variables and, over them, those that are given. A scenario that is
not fit for a run changes nothing. -/
def run (world : World m) (runner : Runner m) (scenario : Scenario m) (given : Context) :
    m (Except RunError Report × Runner m) := do
  match scenario.check with
  | .error cause => return (.error (.structural cause), runner)
  | .ok () => runChecked world runner scenario given

end Runner

end HttpScenario
