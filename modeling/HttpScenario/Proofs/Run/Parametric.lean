import HttpScenario.Proofs.Run.Correspondence
import HttpScenario.Proofs.Run.Hoist
import HttpScenario.Runner

/-! Runs in two monads. A run of a scenario that is read from text, with a registry that has neither
handlers nor middleware, corresponds to the run of the same scenario in corresponding surroundings,
up to the moment at which reporters are told. -/

namespace HttpScenario

variable {m n : Type → Type}

/-- The body is one that is read from data: it names its generators. -/
def Step.IsWritten (step : Step m) : Prop :=
  ∃ body : Option Json, step.body = body.map Template.ofJson

def Scenario.IsWritten (scenario : Scenario m) : Prop := ∀ step ∈ scenario.steps, step.IsWritten

namespace Template

variable (f : m Json → n Json)

mutual

theorem hoist_ofJson (json : Json) : (ofJson json).hoist f = ofJson json := by
  match json with
  | .null => rfl
  | .bool _ => rfl
  | .number _ => rfl
  | .string _ => rfl
  | .array items => simp only [ofJson, hoist, hoistItems_ofItems items]
  | .object fields =>
    simp only [ofJson]
    split
    · rfl
    · simp only [hoist, hoistFields_ofFields fields]

theorem hoistItems_ofItems (items : List Json) : hoistItems f (ofItems items) = ofItems items := by
  match items with
  | [] => rfl
  | item :: rest => simp only [ofItems, hoistItems, hoist_ofJson item, hoistItems_ofItems rest]

theorem hoistFields_ofFields (fields : List (String × Json)) :
    hoistFields f (ofFields fields) = ofFields fields := by
  match fields with
  | [] => rfl
  | (_, value) :: rest =>
    simp only [ofFields, hoistFields, hoist_ofJson value, hoistFields_ofFields rest]

end

end Template

theorem Step.hoist_eq_of_isWritten {step : Step m} (h : step.IsWritten) (f g : m Json → n Json) :
    step.hoist f = step.hoist g := by
  obtain ⟨body, hbody⟩ := h
  have hmap (f : m Json → n Json) :
      (body.map Template.ofJson).map (Template.hoist f) = body.map Template.ofJson := by
    cases body with
    | none => rfl
    | some json => exact congrArg some (Template.hoist_ofJson f json)
  simp only [hoist, hbody, hmap]

theorem Scenario.hoist_eq_of_isWritten {scenario : Scenario m} (h : scenario.IsWritten)
    (f g : m Json → n Json) : scenario.hoist f = scenario.hoist g := by
  have hsteps : scenario.steps.map (Step.hoist f) = scenario.steps.map (Step.hoist g) :=
    List.map_congr_left fun step hstep => Step.hoist_eq_of_isWritten (h step hstep) f g
  simp only [hoist, hsteps]

variable [Monad m] [Monad n]

/-- A run up to the moment at which reporters are told. -/
def Runner.conclude (world : World m) (config : Config) (registry : Registry m)
    (scenario : Scenario m) (given : Context) : m (Report × Progress × Option RunError) := do
  let started ← world.now
  world.info s!"Starting scenario: {scenario.name}"
  if config.dryRun then world.info "Dry run: requests will be simulated"
  let (progress, error) ←
    runSteps world config registry scenario (Fields.merge scenario.vars given)
  let (progress, error) ← finish world registry scenario progress error
  let ended ← world.now
  return (reportOf scenario progress error started ended, progress, error)

/-- What is left to do then; it has no say in the outcome. -/
def Runner.announce (world : World m) (registry : Registry m) (scenario : Scenario m)
    (report : Report) : m Unit := do
  tell world report registry.reporters
  world.info
    s!"Scenario finished: {scenario.name} ({report.duration} ms) - Success: {report.success}"

theorem Runner.conduct_eq [LawfulMonad m] (world : World m) (config : Config)
    (registry : Registry m) (scenario : Scenario m) (given : Context) :
    conduct world config registry scenario given =
      conclude world config registry scenario given >>= fun r => do
        announce world registry scenario r.1
        return (r.2.2.elim (.ok r.1) .error, r.2.1) := by
  simp only [conduct, conclude, announce, bind_assoc]
  split <;> simp only [bind_assoc, pure_bind]

namespace Correspondence

structure Registries (R : Correspondence m n) (registry : Registry m) (other : Registry n) :
    Prop where
  validators : other.validators = registry.validators
  extractors : other.extractors = registry.extractors
  generators : ∀ name,
    Option.Rel R.Pointwise (registry.generators.get? name) (other.generators.get? name)
  noHandlers : registry.stepTypes = [] ∧ other.stepTypes = []
  noMiddleware : ∀ point, registry.middleware point = [] ∧ other.middleware point = []

variable {R : Correspondence m n} {world : World m} {world' : World n} {registry : Registry m}
  {registry' : Registry n}

theorem logAll (hworld : R.Worlds world world') (lines : List LogLine) :
    R.holds (world.logAll lines) (world'.logAll lines) := by
  induction lines with
  | nil => exact R.pure ()
  | cons line rest ih => exact R.bind (hworld.log line) fun _ => ih

section Steps

open Execution

variable {step : Step m} {f : m Json → n Json}

theorem rendered (hworld : R.Worlds world world') (hregistry : R.Registries registry registry')
    (hwritten : step.IsWritten) (context : Context) :
    R.holds (Execution.rendered world registry step context)
      (Execution.rendered world' registry' (step.hoist f) context) := by
  obtain ⟨body, hbody⟩ := hwritten
  simp only [Execution.rendered, Step.body_hoist, hbody]
  cases body with
  | none => exact R.pure _
  | some json =>
    simp only [Option.map_some, Template.hoist_ofJson]
    exact R.bind (render ⟨hregistry.generators, fun _ => hworld.log _⟩ context json) fun _ => R.pure _

theorem request (hworld : R.Worlds world world') (hregistry : R.Registries registry registry')
    (hwritten : step.IsWritten) (config : Config) (context : Context) :
    R.holds (Execution.request world config registry step context)
      (Execution.request world' config registry' (step.hoist f) context) := by
  simp only [Execution.request, Step.method_hoist, Step.givenUrl_hoist]
  cases step.method with
  | none => exact R.pure _
  | some method =>
    cases step.givenUrl with
    | none => exact R.pure _
    | some url =>
      exact R.bind (R.bind (rendered hworld hregistry hwritten context) fun _ => R.pure _)
        fun _ => R.pure _

theorem response (hworld : R.Worlds world world') (config : Config) (request : Request) :
    R.holds (Execution.response world config step request)
      (Execution.response world' config (step.hoist f) request) := by
  unfold Execution.response
  split
  · exact R.bind (R.bind (uuid hworld.draw _) fun _ => R.pure _) fun _ => R.pure _
  · exact hworld.send request

theorem validate (hworld : R.Worlds world world') (hregistry : R.Registries registry registry')
    (response : Response) :
    R.holds (Execution.validate world registry step response)
      (Execution.validate world' registry' (step.hoist f) response) := by
  simp only [Execution.validate, Step.validate_hoist, hregistry.validators]
  cases step.validate with
  | none => exact R.pure _
  | some spec => exact R.bind (logAll hworld _) fun _ => R.pure _

theorem extract (hworld : R.Worlds world world') (hregistry : R.Registries registry registry')
    (response : Response) :
    R.holds (Execution.extract world registry step response)
      (Execution.extract world' registry' (step.hoist f) response) := by
  simp only [Execution.extract, Step.extract_hoist, hregistry.extractors]
  cases step.extract with
  | none => exact R.pure _
  | some spec => exact R.bind (logAll hworld _) fun _ => R.pure _

theorem assess (hworld : R.Worlds world world') (hregistry : R.Registries registry registry')
    (response : Response) :
    R.holds (Execution.assess world registry step response)
      (Execution.assess world' registry' (step.hoist f) response) := by
  refine R.bind (validate hworld hregistry response) fun verdict => ?_
  cases verdict.passed with
  | false => exact R.pure _
  | true => exact R.bind (extract hworld hregistry response) fun _ => R.pure _

theorem performHttp (hworld : R.Worlds world world') (hregistry : R.Registries registry registry')
    (hwritten : step.IsWritten) (config : Config) (context : Context) :
    R.holds (Execution.performHttp world config registry step context)
      (Execution.performHttp world' config registry' (step.hoist f) context) := by
  refine R.bind (request hworld hregistry hwritten config context) fun prepared => ?_
  cases prepared with
  | error error => exact R.pure _
  | ok prepared =>
    refine R.bind (response hworld config prepared) fun answer => ?_
    cases answer with
    | error cause => exact R.pure _
    | ok answer => exact assess hworld hregistry answer

theorem perform (hworld : R.Worlds world world') (hregistry : R.Registries registry registry')
    (hwritten : step.IsWritten) (config : Config) (context : Context) :
    R.holds (Execution.perform world config registry step context)
      (Execution.perform world' config registry' (step.hoist f) context) := by
  have hhttp := performHttp (f := f) hworld hregistry hwritten config context
  simp only [Execution.perform, Step.isHttp_hoist, Step.kind_hoist, hregistry.noHandlers,
    Fields.get?_nil]
  split
  · exact hhttp
  · exact R.bind (hworld.log _) fun _ => hhttp

theorem execute (hworld : R.Worlds world world') (hregistry : R.Registries registry registry')
    (hwritten : step.IsWritten) (config : Config) (context : Context) :
    R.holds (HttpScenario.execute world config registry step context)
      (HttpScenario.execute world' config registry' (step.hoist f) context) := by
  refine R.bind (perform hworld hregistry hwritten config context) fun performed => ?_
  cases performed with
  | error failure => exact R.pure _
  | ok outcome => exact R.pure _

end Steps

section Runs

open Runner

variable {step : Step m} {scenario : Scenario m} {f : m Json → n Json}

theorem logStep (hworld : R.Worlds world world') (ordinal : Nat)
    (executed : Except StepFailure StepOutcome) :
    R.holds (Runner.logStep world step ordinal executed)
      (Runner.logStep world' (step.hoist f) ordinal executed) := by
  cases executed with
  | ok outcome => exact logAll hworld _
  | error failure => exact R.bind (hworld.log _) fun _ => hworld.log _

theorem runStep (hworld : R.Worlds world world') (hregistry : R.Registries registry registry')
    (hwritten : step.IsWritten) (config : Config) (ordinal : Nat) (progress : Progress) :
    R.holds (Runner.runStep world config registry step ordinal progress)
      (Runner.runStep world' config registry' (step.hoist f) ordinal progress) := by
  refine R.bind hworld.now fun started => ?_
  refine R.bind (execute hworld hregistry hwritten config progress.context) fun executed => ?_
  refine R.bind hworld.now fun ended => ?_
  refine R.bind (logStep hworld ordinal executed.1) fun _ => ?_
  cases executed.1 with
  | ok outcome => exact R.pure _
  | error failure => exact R.pure _

theorem fire (hregistry : R.Registries registry registry') {event : HookEvent m}
    {event' : HookEvent n} (hpoint : event'.point = event.point) (context : Context) :
    R.holds (Runner.fire registry event context) (Runner.fire registry' event' context) := by
  obtain ⟨hnone, hnone'⟩ := hregistry.noMiddleware event.point
  simp only [Runner.fire, hpoint, hnone, hnone', callAll]
  exact R.bind (R.pure _) fun _ => R.pure _

theorem visit (hworld : R.Worlds world world') (hregistry : R.Registries registry registry')
    (hwritten : step.IsWritten) (config : Config) (ordinal : Nat) (progress : Progress) :
    R.holds (Runner.visit world config registry step ordinal progress)
      (Runner.visit world' config registry' (step.hoist f) ordinal progress) := by
  refine R.bind (fire hregistry rfl progress.context) fun before => ?_
  obtain ⟨context, failure⟩ := before
  cases failure with
  | some failure => exact R.pure _
  | none =>
    refine R.bind (runStep hworld hregistry hwritten config ordinal _) fun r => ?_
    obtain ⟨result, progress, error⟩ := r
    cases error with
    | some error => exact R.pure _
    | none => exact R.bind (fire hregistry rfl progress.context) fun _ => R.pure _

theorem visitAll (hworld : R.Worlds world world') (hregistry : R.Registries registry registry')
    (config : Config) (total ordinal : Nat) (progress : Progress) {steps : List (Step m)}
    (hwritten : ∀ step ∈ steps, step.IsWritten) :
    R.holds (Runner.visitAll world config registry total ordinal progress steps)
      (Runner.visitAll world' config registry' total ordinal progress
        (steps.map (Step.hoist f))) := by
  induction steps generalizing ordinal progress with
  | nil => exact R.pure _
  | cons step rest ih =>
    refine optional (hworld.wait _) (R.bind (hworld.log _) fun _ => ?_)
    have hfirst := hwritten step List.mem_cons_self
    refine R.bind (visit hworld hregistry hfirst config ordinal progress) fun r => ?_
    obtain ⟨progress, error⟩ := r
    cases error with
    | some error => exact R.pure _
    | none =>
      have hrest := fun other hother => hwritten other (List.mem_cons_of_mem step hother)
      exact ih (ordinal + 1) progress hrest

theorem runSteps (hworld : R.Worlds world world') (hregistry : R.Registries registry registry')
    (hwritten : scenario.IsWritten) (config : Config) (context : Context) :
    R.holds (Runner.runSteps world config registry scenario context)
      (Runner.runSteps world' config registry' (scenario.hoist f) context) := by
  refine R.bind (fire hregistry rfl context) fun before => ?_
  obtain ⟨context, failure⟩ := before
  cases failure with
  | some failure => exact R.pure _
  | none =>
    simp only [Scenario.hoist, List.length_map]
    exact visitAll hworld hregistry config _ 1 _ hwritten

theorem finish (hworld : R.Worlds world world') (hregistry : R.Registries registry registry')
    (progress : Progress) (error : Option RunError) :
    R.holds (Runner.finish world registry scenario progress error)
      (Runner.finish world' registry' (scenario.hoist f) progress error) := by
  refine R.bind (fire hregistry rfl progress.context) fun r => ?_
  obtain ⟨context, late⟩ := r
  cases error with
  | none => exact R.pure _
  | some error =>
    cases late with
    | none => exact R.pure _
    | some late => exact R.bind (hworld.log _) fun _ => R.pure _

theorem conclude (hworld : R.Worlds world world') (hregistry : R.Registries registry registry')
    (hwritten : scenario.IsWritten) (config : Config) (given : Context) :
    R.holds (Runner.conclude world config registry scenario given)
      (Runner.conclude world' config registry' (scenario.hoist f) given) := by
  refine R.bind hworld.now fun started => R.bind (hworld.log _) fun _ => ?_
  refine optional (hworld.log _) (R.bind (runSteps hworld hregistry hwritten config _) fun r => ?_)
  refine R.bind (finish hworld hregistry r.1 r.2) fun _ => ?_
  exact R.bind hworld.now fun _ => R.pure _

end Runs

end Correspondence

end HttpScenario
