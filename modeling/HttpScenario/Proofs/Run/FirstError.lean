import HttpScenario.Proofs.Run.Parametric
import HttpScenario.Proofs.Run.Replay
import HttpScenario.Proofs.Run.Results

/-! The error of a run. Middleware can fail at any point, and a step can fail; the first of these
errors is the one that is returned and told to reporters. An error at the end of the run is only
returned if there was none before, and that of a reporter never is. -/

namespace HttpScenario

variable {σ : Type}

open Execution Runner

def Call.error? : Call σ → Option RunError
  | .middleware event _ failure => failure.map (.middleware event.point)
  | _ => none

/-- The call is one of those that end a run, whatever became of the steps. -/
def Call.isClosing : Call σ → Bool
  | .middleware event _ _ => event.point = .afterScenario
  | .reporter _ _ => true
  | _ => false

/-- What happens in a run, in order, up to the moment at which reporters are told. -/
structure Timeline (σ : Type) where
  /-- All calls of the steps but those for a step that failed. -/
  before : List (Call σ)
  /-- The calls for the step that failed. -/
  own : List (Call σ)
  failed : Option RunError
  closing : List (Call σ)

namespace Timeline

def calls (timeline : Timeline σ) : List (Call σ) :=
  timeline.before ++ (timeline.own ++ timeline.closing)

def errors (timeline : Timeline σ) : List RunError :=
  timeline.before.filterMap Call.error? ++ (timeline.own.filterMap Call.error? ++
    (timeline.failed.toList ++ timeline.closing.filterMap Call.error?))

end Timeline

section Relations

variable (world : World (StateM σ)) (config : Config) (registry : Registry (StateM σ))

/-- Of steps of which the first has number `ordinal`, those with results went well, or all did but the
last; the calls are those for that one. -/
inductive Breakdown (ordinal : Nat) (steps : List (Step (StateM σ))) :
    List StepResult → List (Call σ) → Option RunError → Prop
  | none {results} (hall : ∀ result ∈ results, result.success = true) :
      Breakdown ordinal steps results [] none
  | failed {before step context own duration failure}
      (hbefore : ∀ result ∈ before, result.success = true)
      (hstep : steps[before.length]? = some step)
      (hperformed : Performed world config registry step context own (.error failure)) :
      Breakdown ordinal steps
        (before ++ [resultOf step (ordinal + before.length) duration (.error failure)]) own
        (some (.stepFailed (ordinal + before.length) step.name failure.error))

/-- How the end of a run follows from its timeline. -/
structure Concluded (scenario : Scenario (StateM σ)) (timeline : Timeline σ) (report : Report)
    (outcome : Except RunError Report) (last : Progress) : Prop where
  step : Breakdown world config registry 1 scenario.steps last.results timeline.own timeline.failed
  unclosed : ∀ call ∈ timeline.before ++ timeline.own, call.isClosing = false
  closing : ∃ context late, Fired registry (.afterScenario scenario last.results) context
    timeline.closing last.context late
  first : outcome = timeline.errors.head?.elim (.ok report) .error
  success : report.success = true ↔ ∃ returned, outcome = .ok returned
  error : ∀ error, outcome = .error error → report.error = some error.message
  noError : ∀ returned, outcome = .ok returned → returned = report ∧ report.error = none
  results : report.results = last.results
  context : report.context = last.context

end Relations

section Calls

variable {world : World (StateM σ)} {config : Config} {registry : Registry (StateM σ)}
  {step : Step (StateM σ)} {context after : Context} {calls own : List (Call σ)}
  {event : HookEvent (StateM σ)} {failure : Option Failure}

theorem Chain.errors {place : Nat} {given : List (Middleware (StateM σ))}
    (h : Chain event place given context calls after failure) :
    calls.filterMap Call.error? = (failure.map (RunError.middleware event.point)).toList := by
  induction h with
  | done => rfl
  | failed => rfl
  | next _ _ ih => exact ih

theorem Chain.isClosing {place : Nat} {given : List (Middleware (StateM σ))}
    (h : Chain event place given context calls after failure) :
    ∀ call ∈ calls, call.isClosing = decide (event.point = .afterScenario) := by
  induction h with
  | done => exact fun _ hmem => nomatch hmem
  | failed => exact List.forall_mem_singleton.2 rfl
  | next _ _ ih => exact List.forall_mem_cons.2 ⟨rfl, ih⟩

theorem Fired.errors (h : Fired registry event context calls after failure) :
    calls.filterMap Call.error? = (failure.map (RunError.middleware event.point)).toList :=
  Chain.errors h

theorem Fired.unclosed (h : Fired registry event context calls after failure)
    (hpoint : event.point ≠ .afterScenario) : ∀ call ∈ calls, call.isClosing = false := by
  intro call hmem
  rw [Chain.isClosing h call hmem, decide_eq_false hpoint]

theorem Performed.isOfStep {executed : Except StepFailure StepOutcome}
    (h : Performed world config registry step context own executed) :
    ∀ call ∈ own, call.isOfStep = true :=
  List.filter_eq_self.1 h.filter_isOfStep

theorem Call.quiet_of_isOfStep {call : Call σ} (h : call.isOfStep = true) :
    call.error? = none ∧ call.isClosing = false := by
  cases call with
  | handler => exact ⟨rfl, rfl⟩
  | send => exact ⟨rfl, rfl⟩
  | middleware => cases h
  | reporter => cases h

theorem Performed.errors {executed : Except StepFailure StepOutcome}
    (h : Performed world config registry step context own executed) :
    own.filterMap Call.error? = [] := by
  rw [List.filterMap_eq_nil_iff]
  intro call hmem
  have hstep := h.isOfStep call hmem
  exact (Call.quiet_of_isOfStep hstep).1

theorem Performed.unclosed {executed : Except StepFailure StepOutcome}
    (h : Performed world config registry step context own executed) :
    ∀ call ∈ own, call.isClosing = false := by
  intro call hmem
  have hstep := h.isOfStep call hmem
  exact (Call.quiet_of_isOfStep hstep).2

end Calls

section Steps

variable {world : World (StateM σ)} {config : Config} {registry : Registry (StateM σ)}
  {ordinal : Nat} {progress after : Progress} {calls own : List (Call σ)} {error : Option RunError}

theorem Visited.unclosed {step : Step (StateM σ)}
    (h : Visited world config registry step ordinal progress calls after error) :
    ∀ call ∈ calls, call.isClosing = false := by
  cases h with
  | refused hbefore => exact hbefore.unclosed nofun
  | failed hbefore hstep =>
    exact List.forall_mem_append.2 ⟨hbefore.unclosed nofun, hstep.unclosed⟩
  | passed hbefore hstep hafter =>
    have hlater := List.forall_mem_append.2 ⟨hstep.unclosed, hafter.unclosed nofun⟩
    exact List.forall_mem_append.2 ⟨hbefore.unclosed nofun, hlater⟩

theorem Visits.unclosed {steps : List (Step (StateM σ))}
    (h : Visits world config registry ordinal progress steps calls after error) :
    ∀ call ∈ calls, call.isClosing = false := by
  induction h with
  | done => exact fun _ hmem => nomatch hmem
  | stopped hvisit => exact hvisit.unclosed
  | next hvisit _ ih => exact List.forall_mem_append.2 ⟨hvisit.unclosed, ih⟩

theorem Breakdown.cons {step : Step (StateM σ)} {rest : List (Step (StateM σ))}
    {result : StepResult} {results : List StepResult} {failed : Option RunError}
    (hresult : result.success = true)
    (h : Breakdown world config registry (ordinal + 1) rest results own failed) :
    Breakdown world config registry ordinal (step :: rest) (result :: results) own failed := by
  cases h with
  | none hall => exact .none (List.forall_mem_cons.2 ⟨hresult, hall⟩)
  | @failed before failing context own duration failure hbefore hstep hperformed =>
    have hnumber : ordinal + 1 + before.length = ordinal + (result :: before).length := by
      rw [List.length_cons]
      omega
    rw [hnumber]
    exact .failed (List.forall_mem_cons.2 ⟨hresult, hbefore⟩) hstep hperformed

/-- The steps end with the first error: there is none before it, be it of middleware or of a step. -/
theorem Visited.breakdown {step : Step (StateM σ)} (rest : List (Step (StateM σ)))
    (h : Visited world config registry step ordinal progress calls after error) :
    ∃ results before own failed, after.results = progress.results ++ results ∧
      calls = before ++ own ∧
      Breakdown world config registry ordinal (step :: rest) results own failed ∧
      calls.filterMap Call.error? ++ failed.toList = error.toList := by
  cases h with
  | refused hbefore =>
    refine ⟨[], calls, [], none, (List.append_nil _).symm, (List.append_nil _).symm,
      .none (fun _ hmem => nomatch hmem), ?_⟩
    rw [hbefore.errors]
    rfl
  | @failed _ own context duration failure hbefore hstep =>
    have hfailed : Breakdown world config registry ordinal (step :: rest)
        ([] ++ [resultOf step ordinal duration (.error failure)]) own
        (some (.stepFailed ordinal step.name failure.error)) :=
      .failed (fun _ hmem => nomatch hmem) rfl hstep
    refine ⟨_, _, _, _, rfl, rfl, hfailed, ?_⟩
    rw [List.filterMap_append, hbefore.errors, hstep.errors]
    rfl
  | passed hbefore hstep hafter =>
    refine ⟨_, _, [], none, rfl, (List.append_nil _).symm,
      .none (List.forall_mem_singleton.2 rfl), ?_⟩
    rw [List.filterMap_append, List.filterMap_append, hbefore.errors, hstep.errors, hafter.errors]
    exact List.append_nil _

theorem Visits.breakdown {steps : List (Step (StateM σ))}
    (h : Visits world config registry ordinal progress steps calls after error) :
    ∃ results before own failed, after.results = progress.results ++ results ∧
      calls = before ++ own ∧
      Breakdown world config registry ordinal steps results own failed ∧
      calls.filterMap Call.error? ++ failed.toList = error.toList := by
  induction h with
  | done =>
    exact ⟨[], [], [], none, (List.append_nil _).symm, rfl, .none (fun _ hmem => nomatch hmem), rfl⟩
  | stopped hvisit => exact hvisit.breakdown _
  | @next ordinal progress step rest calls between later after error hvisit _ ih =>
    obtain ⟨results, before, own, failed, hresults, rfl, hrest, herrors⟩ := ih
    obtain ⟨result, hresult, -, -, hsuccess⟩ := hvisit.result
    -- The visit came to no error, so that none of its calls tells of one.
    obtain ⟨_, _, _, _, -, -, -, hnone⟩ := hvisit.breakdown rest
    have hquiet : calls.filterMap Call.error? = [] := (List.append_eq_nil_iff.1 hnone).1
    refine ⟨result :: results, calls ++ before, own, failed, ?_, ?_, hrest.cons hsuccess, ?_⟩
    · rw [hresults, hresult, List.append_assoc]
      rfl
    · rw [List.append_assoc]
    · rw [List.filterMap_append, hquiet]
      exact herrors

theorem StepsRun.breakdown {scenario : Scenario (StateM σ)} {seed : Context}
    (h : StepsRun world config registry scenario seed calls progress error) :
    ∃ before own failed, calls = before ++ own ∧ (∀ call ∈ calls, call.isClosing = false) ∧
      Breakdown world config registry 1 scenario.steps progress.results own failed ∧
      calls.filterMap Call.error? ++ failed.toList = error.toList := by
  cases h with
  | refused hopening =>
    refine ⟨calls, [], none, (List.append_nil _).symm, hopening.unclosed nofun,
      .none (fun _ hmem => nomatch hmem), ?_⟩
    rw [hopening.errors]
    rfl
  | opened hopening hvisits =>
    obtain ⟨results, before, own, failed, hresults, rfl, hbreakdown, herrors⟩ := hvisits.breakdown
    rw [List.nil_append] at hresults
    subst hresults
    refine ⟨_, own, failed, (List.append_assoc _ _ _).symm, ?_, hbreakdown, ?_⟩
    · exact List.forall_mem_append.2 ⟨hopening.unclosed nofun, hvisits.unclosed⟩
    · rw [List.filterMap_append, hopening.errors]
      exact herrors

theorem History.concluded {scenario : Scenario (StateM σ)} {given : Context} {report : Report}
    {outcome : Except RunError Report} {last : Progress}
    (h : History world config registry scenario given calls report outcome last) :
    ∃ timeline : Timeline σ, calls = timeline.calls ++ told registry report ∧
      Concluded world config registry scenario timeline report outcome last := by
  cases h with
  | @intro _ progress early closing context late error _ _ _ hsteps hclosing herror hreport =>
    obtain ⟨before, own, failed, rfl, hunclosed, hbreakdown, hearly⟩ := hsteps.breakdown
    -- An error of the steps comes first, and one at the end counts only without it.
    refine ⟨⟨before, own, failed, closing⟩, by simp only [Timeline.calls, List.append_assoc], ?_⟩
    have herrors : (Timeline.errors ⟨before, own, failed, closing⟩).head? = error := by
      have hlate := hclosing.errors
      rw [List.filterMap_append] at hearly
      rw [Timeline.errors, ← List.append_assoc, ← List.append_assoc, hearly, hlate, herror]
      cases early <;> cases late <;> rfl
    subst hreport
    refine ⟨hbreakdown, hunclosed, ⟨_, _, hclosing⟩, by rw [herrors], ?_, ?_, ?_, rfl, rfl⟩
    · cases error with
      | none => exact iff_of_true rfl ⟨_, rfl⟩
      | some error => exact iff_of_false Bool.false_ne_true (fun ⟨_, hok⟩ => nomatch hok)
    · intro told htold
      cases error with
      | none => cases htold
      | some error =>
        obtain rfl := Except.error.inj htold
        rfl
    · intro returned hreturned
      cases error with
      | none => exact ⟨(Except.ok.inj hreturned).symm, rfl⟩
      | some error => cases hreturned

end Steps

section Reporters

variable {m : Type → Type}

def Registry.withReporters (registry : Registry m) (reporters : Fields (Reporter m)) : Registry m :=
  { registry with reporters := reporters }

def Runner.withReporters (runner : Runner m) (reporters : Fields (Reporter m)) : Runner m :=
  { runner with registry := runner.registry.withReporters reporters }

theorem visitAll_withReporters [Monad m] (world : World m) (config : Config) (registry : Registry m)
    (reporters : Fields (Reporter m)) (total ordinal : Nat) (progress : Progress)
    (steps : List (Step m)) :
    visitAll world config (registry.withReporters reporters) total ordinal progress steps =
      visitAll world config registry total ordinal progress steps := by
  induction steps generalizing ordinal progress with
  | nil => rfl
  | cons step rest ih =>
    simp only [visitAll, ih]
    rfl

theorem conclude_withReporters [Monad m] (world : World m) (config : Config) (registry : Registry m)
    (reporters : Fields (Reporter m)) (scenario : Scenario m) (given : Context) :
    conclude world config (registry.withReporters reporters) scenario given =
      conclude world config registry scenario given := by
  have hsteps (seed : Context) :
      runSteps world config (registry.withReporters reporters) scenario seed =
        runSteps world config registry scenario seed := by
    simp only [runSteps, visitAll_withReporters]
    rfl
  simp only [conclude, hsteps]
  rfl

theorem run_withReporters (world : World (StateM σ)) (runner : Runner (StateM σ))
    {scenario : Scenario (StateM σ)} (hfit : scenario.check = .ok ()) (given : Context) (s : σ)
    (reporters : Fields (Reporter (StateM σ))) :
    ((run world (runner.withReporters reporters) scenario given).run s).1 =
      (((run world runner scenario given).run s).1.1,
        { runner.withReporters reporters with
          last := ((run world runner scenario given).run s).1.2.last }) := by
  have hconcluded := conclude_withReporters world runner.config runner.registry reporters scenario
    given
  rw [run_of_fit world _ hfit, run_of_fit world _ hfit, Runner.conduct_eq, Runner.conduct_eq]
  simp only [Runner.withReporters, hconcluded]
  rfl

end Reporters

/-- The error that a run returns is the first of all that come up in it, and the report that every
reporter gets tells of it; without an error that report is what is returned. It holds the results and
the variables that the run leaves, after all middleware. Other reporters, which may well fail, change
nothing about that. -/
theorem error_of_run (world : World (StateM σ)) (runner : Runner (StateM σ))
    (scenario : Scenario (StateM σ)) (hfit : scenario.check = .ok ()) (given : Context) (s : σ) :
    ∃ timeline report outcome last,
      Observed world runner scenario given s (timeline.calls ++ told runner.registry report) outcome
        last ∧
      Concluded world runner.config runner.registry scenario timeline report outcome last ∧
      ∀ reporters, ((run world (runner.withReporters reporters) scenario given).run s).1 =
        (outcome, { runner.withReporters reporters with last := last }) := by
  obtain ⟨calls, report, outcome, last, hobserved, hhistory⟩ := exists_history runner hfit given s
  obtain ⟨timeline, rfl, hconcluded⟩ := hhistory.concluded
  refine ⟨timeline, report, outcome, last, hobserved, hconcluded, ?_⟩
  intro reporters
  obtain ⟨after, hrun, -⟩ := hobserved
  rw [run_withReporters world runner hfit, hrun]

theorem error_of_sample_run :
    Sample.scenario.check = .ok () ∧
    (∃ timeline : Timeline Nat, timeline.calls ++ told Sample.registry Sample.report = Sample.calls ∧
      timeline.errors.head? = some Sample.error ∧
      Concluded Sample.world Sample.runner.config Sample.registry Sample.scenario timeline
        Sample.report (.error Sample.error) Sample.last) ∧
    Observed Sample.world Sample.runner Sample.scenario [] 0 Sample.calls (.error Sample.error)
      Sample.last ∧
    ∀ reporters, ((run Sample.world (Sample.runner.withReporters reporters) Sample.scenario []).run
        0).1 =
      (.error Sample.error, { Sample.runner.withReporters reporters with last := Sample.last }) := by
  have hfit : Sample.scenario.check = .ok () := rfl
  obtain ⟨timeline, report, outcome, last, hobserved, hconcluded, hreporters⟩ :=
    error_of_run Sample.world Sample.runner Sample.scenario hfit [] 0
  obtain ⟨hcalls, rfl, rfl⟩ := hobserved.unique Sample.observed
  obtain rfl := Sample.report_of_told ⟨timeline.calls, hcalls⟩
  refine ⟨hfit, ⟨timeline, hcalls, ?_, hconcluded⟩, Sample.observed, hreporters⟩
  have hfirst := hconcluded.first
  cases herrors : timeline.errors.head? with
  | none =>
    rw [herrors] at hfirst
    cases hfirst
  | some error =>
    rw [herrors] at hfirst
    exact congrArg some (Except.error.inj hfirst).symm

end HttpScenario
