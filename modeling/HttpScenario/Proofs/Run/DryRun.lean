import HttpScenario.Proofs.Run.Replay

/-! Runs whose requests are simulated. Such a run is the same whatever would become of a request: it
has the same outcome, makes the same calls and leaves the same behind, and no request is ever sent,
neither for steps of a type that nobody handles nor before a run breaks off. -/

namespace HttpScenario

variable {σ : Type} {m : Type → Type}

def World.withSend (world : World m) (send : Request → m (Except TransportError Response)) :
    World m :=
  { world with send := send }

section Dry

variable [Monad m] {world : World m} {config : Config} {registry : Registry m} {step : Step m}
  {context : Context} {send : Request → m (Except TransportError Response)}

theorem logAll_withSend (lines : List LogLine) :
    (world.withSend send).logAll lines = world.logAll lines := by
  induction lines with
  | nil => rfl
  | cons line rest ih =>
    simp only [World.logAll, ih]
    rfl

namespace Execution

theorem assess_withSend (response : Response) :
    assess (world.withSend send) registry step response =
      assess world registry step response := by
  simp only [assess, validate, extract, logAll_withSend]

theorem response_withSend (hdry : config.dryRun = true) (request : Request) :
    response (world.withSend send) config step request = response world config step request := by
  simp only [response, hdry, if_true]
  rfl

theorem performHttp_withSend (hdry : config.dryRun = true) :
    performHttp (world.withSend send) config registry step context =
      performHttp world config registry step context := by
  simp only [performHttp, response_withSend hdry, assess_withSend]
  rfl

theorem perform_withSend (hdry : config.dryRun = true) :
    perform (world.withSend send) config registry step context =
      perform world config registry step context := by
  simp only [perform, performHttp_withSend hdry]
  rfl

end Execution

open Execution Runner

theorem execute_withSend (hdry : config.dryRun = true) :
    execute (world.withSend send) config registry step context =
      execute world config registry step context := by
  simp only [execute, perform_withSend hdry]

theorem logStep_withSend (ordinal : Nat) (executed : Except StepFailure StepOutcome) :
    logStep (world.withSend send) step ordinal executed =
      logStep world step ordinal executed := by
  cases executed with
  | ok outcome => exact logAll_withSend _
  | error failure => rfl

theorem visit_withSend (hdry : config.dryRun = true) (ordinal : Nat) (progress : Progress) :
    visit (world.withSend send) config registry step ordinal progress =
      visit world config registry step ordinal progress := by
  have hstep (progress : Progress) :
      runStep (world.withSend send) config registry step ordinal progress =
        runStep world config registry step ordinal progress := by
    simp only [runStep, execute_withSend hdry, logStep_withSend]
    rfl
  simp only [visit, hstep]

theorem visitAll_withSend (hdry : config.dryRun = true) (total ordinal : Nat)
    (progress : Progress) (steps : List (Step m)) :
    visitAll (world.withSend send) config registry total ordinal progress steps =
      visitAll world config registry total ordinal progress steps := by
  induction steps generalizing ordinal progress with
  | nil => rfl
  | cons step rest ih =>
    simp only [visitAll, visit_withSend hdry, ih]
    rfl

theorem tell_withSend (report : Report) (reporters : Fields (Reporter m)) :
    Runner.tell (world.withSend send) report reporters = Runner.tell world report reporters := by
  induction reporters with
  | nil => rfl
  | cons entry rest ih =>
    simp only [Runner.tell, ih]
    rfl

theorem run_withSend {runner : Runner m} (hdry : runner.config.dryRun = true)
    (scenario : Scenario m) (given : Context) :
    run (world.withSend send) runner scenario given = run world runner scenario given := by
  have hsteps (seed : Context) :
      runSteps (world.withSend send) runner.config runner.registry scenario seed =
        runSteps world runner.config runner.registry scenario seed := by
    simp only [runSteps, visitAll_withSend hdry]
  have hconduct :
      conduct (world.withSend send) runner.config runner.registry scenario given =
        conduct world runner.config runner.registry scenario given := by
    simp only [conduct, hsteps, tell_withSend]
    rfl
  simp only [run, runChecked, hconduct]

end Dry

def Unsent (calls : List (Call σ)) : Prop := ∀ request answer, .send request answer ∉ calls

theorem unsent_append {calls later : List (Call σ)} :
    Unsent (calls ++ later) ↔ Unsent calls ∧ Unsent later := by
  simp only [Unsent, List.mem_append, not_or]
  exact ⟨fun h => ⟨fun r a => (h r a).1, fun r a => (h r a).2⟩, fun h r a => ⟨h.1 r a, h.2 r a⟩⟩

theorem unsent_of_filter_isOfStep {calls : List (Call σ)} (h : calls.filter Call.isOfStep = []) :
    Unsent calls := fun _ _ hmem =>
  List.filter_eq_nil_iff.1 h _ hmem rfl

section Unsent

open Execution

variable {world : World (StateM σ)} {config : Config} {registry : Registry (StateM σ)}
  {calls : List (Call σ)}

theorem Fired.unsent {event : HookEvent (StateM σ)} {context after : Context}
    {failure : Option Failure} (h : Fired registry event context calls after failure) :
    Unsent calls :=
  unsent_of_filter_isOfStep h.filter_isOfStep

theorem unsent_told (report : Report) : Unsent (told registry report) :=
  unsent_of_filter_isOfStep (filter_isOfStep_told report)

theorem Answered.unsent {step : Step (StateM σ)} {request : Request}
    {answer : Except TransportError Response} (hdry : config.dryRun = true)
    (h : Answered world config step request calls answer) : Unsent calls := by
  cases h with
  | simulated => exact fun _ _ => List.not_mem_nil
  | sent hsent =>
    rw [hdry] at hsent
    cases hsent

theorem Performed.unsent {step : Step (StateM σ)} {context : Context}
    {executed : Except StepFailure StepOutcome} (hdry : config.dryRun = true)
    (h : Performed world config registry step context calls executed) : Unsent calls := by
  cases h with
  | handled => exact fun _ _ hmem => nomatch List.mem_singleton.1 hmem
  | http _ hhttp =>
    cases hhttp with
    | malformed => exact fun _ _ => List.not_mem_nil
    | undelivered _ hanswer => exact hanswer.unsent hdry
    | judged _ hanswer => exact hanswer.unsent hdry

theorem Visited.unsent {step : Step (StateM σ)} {ordinal : Nat} {progress after : Progress}
    {error : Option RunError} (hdry : config.dryRun = true)
    (h : Visited world config registry step ordinal progress calls after error) :
    Unsent calls := by
  cases h with
  | refused hbefore => exact hbefore.unsent
  | failed hbefore hstep => exact unsent_append.2 ⟨hbefore.unsent, hstep.unsent hdry⟩
  | passed hbefore hstep hafter =>
    exact unsent_append.2 ⟨hbefore.unsent, unsent_append.2 ⟨hstep.unsent hdry, hafter.unsent⟩⟩

theorem Visits.unsent {ordinal : Nat} {progress after : Progress} {steps : List (Step (StateM σ))}
    {error : Option RunError} (hdry : config.dryRun = true)
    (h : Visits world config registry ordinal progress steps calls after error) :
    Unsent calls := by
  induction h with
  | done => exact fun _ _ => List.not_mem_nil
  | stopped hvisit => exact hvisit.unsent hdry
  | next hvisit _ ih => exact unsent_append.2 ⟨hvisit.unsent hdry, ih⟩

theorem History.unsent {scenario : Scenario (StateM σ)} {given : Context} {report : Report}
    {outcome : Except RunError Report} {last : Progress} (hdry : config.dryRun = true)
    (h : History world config registry scenario given calls report outcome last) :
    Unsent calls := by
  obtain ⟨hsteps, hclosing, -, -⟩ := h
  have htold : Unsent (told registry report) := unsent_told report
  have hend := unsent_append.2 ⟨hclosing.unsent, htold⟩
  cases hsteps with
  | refused hopening => exact unsent_append.2 ⟨hopening.unsent, hend⟩
  | opened hopening hvisits =>
    exact unsent_append.2 ⟨unsent_append.2 ⟨hopening.unsent, hvisits.unsent hdry⟩, hend⟩

end Unsent

open Runner

/-- The calls of a simulated run are the same too, since what a recording adds to a way of sending
requests is another way of sending them. -/
theorem observe_withSend {world : World (StateM σ)} {runner : Runner (StateM σ)}
    (hdry : runner.config.dryRun = true) (scenario : Scenario (StateM σ)) (given : Context)
    (send : Request → StateM σ (Except TransportError Response)) :
    observe (world.withSend send) runner scenario given = observe world runner scenario given := by
  let noted (request : Request) : Recording σ (Except TransportError Response) :=
    Recording.noting (.send request) (send request)
  have hworld : Recording.world (world.withSend send) = (Recording.world world).withSend noted := rfl
  have hrun (runner : Runner (Recording σ)) (hdry : runner.config.dryRun = true) :
      run ((Recording.world world).withSend noted) runner (scenario.hoist Recording.quiet) given =
        run (Recording.world world) runner (scenario.hoist Recording.quiet) given :=
    run_withSend hdry _ given
  rw [observe, hworld, hrun _ hdry]
  rfl

theorem exists_unsent (world : World (StateM σ)) {runner : Runner (StateM σ)}
    (hdry : runner.config.dryRun = true) (scenario : Scenario (StateM σ)) (given : Context) (s : σ) :
    ∃ calls outcome last, Unsent calls ∧
      Observed world runner scenario given s calls outcome last := by
  cases hcheck : scenario.check with
  | error cause =>
    exact ⟨[], _, _, fun _ _ => List.not_mem_nil, observed_of_unfit runner hcheck given s⟩
  | ok =>
    obtain ⟨calls, _, outcome, last, hobserved, hhistory⟩ := exists_history runner hcheck given s
    exact ⟨calls, outcome, last, hhistory.unsent hdry, hobserved⟩

/-- A run that simulates its requests does not depend on what would become of them: with the same
clock and the same random numbers it has the same outcome, makes the same calls, those of reporters
with the same report, and leaves the same results and variables. No request is among the calls. -/
theorem independence_of_dry_run (world : World (StateM σ)) (runner : Runner (StateM σ))
    (hdry : runner.config.dryRun = true) (scenario : Scenario (StateM σ)) (given : Context) (s : σ) :
    (∀ send, run (world.withSend send) runner scenario given = run world runner scenario given) ∧
    ∃ calls outcome last, Unsent calls ∧
      ∀ send, Observed (world.withSend send) runner scenario given s calls outcome last := by
  obtain ⟨calls, outcome, last, hunsent, after, hrun, hobserve⟩ :=
    exists_unsent world hdry scenario given s
  refine ⟨fun _ => run_withSend hdry scenario given, calls, outcome, last, hunsent, fun send => ?_⟩
  refine ⟨after, ?_, ?_⟩
  · rw [run_withSend hdry, hrun]
  · rw [observe_withSend hdry, hobserve]

namespace Sample

def dryRunner : Runner (StateM Nat) := .new (Config.default.withDryRun true) registry

/-- The first step is of a type that nobody handles, the second does not accept its response, and
the third is not reached. -/
def rehearsal : Scenario (StateM Nat) :=
  .new "rehearsal"
    [{ Step.http "first" .get "/first" with declaredKind := some "wait" },
     { Step.http "second" .get "/second" with validate := some (.check (.status 201)) },
     .http "third" .get "/third"]

def rehearsalError : RunError :=
  .stepFailed 2 "second" (.validation "second" "validate: expected status 201, got 200")

end Sample

theorem independence_of_sample_dry_run :
    Sample.dryRunner.config.dryRun = true ∧
    (∀ send, run (Sample.world.withSend send) Sample.dryRunner Sample.rehearsal [] =
      run Sample.world Sample.dryRunner Sample.rehearsal []) ∧
    ∃ calls last, Unsent calls ∧ last.results.map StepResult.success = [true, false] ∧
      ∀ send, Observed (Sample.world.withSend send) Sample.dryRunner Sample.rehearsal [] 0 calls
        (.error Sample.rehearsalError) last := by
  have hdry : Sample.dryRunner.config.dryRun = true := rfl
  obtain ⟨hrun, calls, outcome, last, hunsent, hobserved⟩ :=
    independence_of_dry_run Sample.world Sample.dryRunner hdry Sample.rehearsal [] 0
  obtain ⟨after, hresult, -⟩ := hobserved Sample.world.send
  have houtcome : outcome = .error Sample.rehearsalError :=
    (congrArg (fun result => result.1.1) hresult).symm
  have hlast : last.results.map StepResult.success = [true, false] :=
    (congrArg (fun result => result.1.2.last.results.map StepResult.success) hresult).symm
  subst houtcome
  exact ⟨hdry, hrun, calls, last, hunsent, hlast, hobserved⟩

end HttpScenario
