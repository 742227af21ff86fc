import HttpScenario.Proofs.Registrations
import HttpScenario.Proofs.Run.History

/-! The calls of a run in their order: middleware in the order of registration up to the first
failure, each step once between its middleware, the middleware at the end in any case, and then all
reporters. An http step sends one request, unless requests are not sent at all or there is none to
send. -/

namespace HttpScenario

variable {σ : Type}

open Execution Runner

def passing (event : HookEvent (StateM σ)) (place count : Nat) : List (Call σ) :=
  (List.range' place count).map fun i => .middleware event i none

/-- The calls of `count` middleware from a place on: all of them, or those up to the first that
fails. -/
def ChainCalls (event : HookEvent (StateM σ)) (place count : Nat) (calls : List (Call σ)) :
    Option Failure → Prop
  | none => calls = passing event place count
  | some failure => ∃ before < count,
      calls = passing event place before ++ [.middleware event (place + before) (some failure)]

/-- The calls for a step: its handler is called once, or its request is sent once, if there is one
and requests are sent at all. -/
inductive StepCalls (config : Config) (registry : Registry (StateM σ)) (step : Step (StateM σ))
    (context : Context) : List (Call σ) → Prop
  | handled {handler answer} (hkind : step.isHttp = false)
      (hhandler : registry.stepTypes.get? step.kind = some handler) :
      StepCalls config registry step context [.handler step context answer]
  | dry (hkind : IsOverHttp registry step) (hdry : config.dryRun = true) :
      StepCalls config registry step context []
  | unsent (hkind : IsOverHttp registry step) (hdry : config.dryRun = false)
      (hsend : ¬Sendable step) : StepCalls config registry step context []
  | sent {request answer} (hkind : IsOverHttp registry step) (hdry : config.dryRun = false)
      (hsend : Sendable step) : StepCalls config registry step context [.send request answer]

def HookCalls (registry : Registry (StateM σ)) (event : HookEvent (StateM σ))
    (calls : List (Call σ)) (failure : Option Failure) : Prop :=
  ChainCalls event 0 (registry.middleware event.point).length calls failure

section Grammar

variable (config : Config) (registry : Registry (StateM σ))

inductive VisitCalls (step : Step (StateM σ)) (ordinal : Nat) :
    List (Call σ) → List StepResult → Bool → Prop
  | refused {calls failure}
      (hbefore : HookCalls registry (.beforeStep step ordinal) calls (some failure)) :
      VisitCalls step ordinal calls [] false
  | failed {before own context result}
      (hbefore : HookCalls registry (.beforeStep step ordinal) before none)
      (hstep : StepCalls config registry step context own) (hresult : result.success = false) :
      VisitCalls step ordinal (before ++ own) [result] false
  | passed {before own later context result failure}
      (hbefore : HookCalls registry (.beforeStep step ordinal) before none)
      (hstep : StepCalls config registry step context own) (hresult : result.success = true)
      (hafter : HookCalls registry (.afterStep step ordinal result) later failure) :
      VisitCalls step ordinal (before ++ (own ++ later)) [result] failure.isNone

inductive VisitsCalls :
    Nat → List (Step (StateM σ)) → List (Call σ) → List StepResult → Bool → Prop
  | done {ordinal} : VisitsCalls ordinal [] [] [] true
  | stopped {ordinal step rest calls results}
      (hvisit : VisitCalls config registry step ordinal calls results false) :
      VisitsCalls ordinal (step :: rest) calls results false
  | next {ordinal step rest calls results later more goesOn}
      (hvisit : VisitCalls config registry step ordinal calls results true)
      (hrest : VisitsCalls (ordinal + 1) rest later more goesOn) :
      VisitsCalls ordinal (step :: rest) (calls ++ later) (results ++ more) goesOn

inductive RunCalls (scenario : Scenario (StateM σ)) (report : Report) :
    List (Call σ) → List StepResult → Prop
  | refused {opening closing failure late}
      (hopening : HookCalls registry (.beforeScenario scenario) opening (some failure))
      (hclosing : HookCalls registry (.afterScenario scenario []) closing late) :
      RunCalls scenario report (opening ++ (closing ++ told registry report)) []
  | opened {opening middle closing results goesOn late}
      (hopening : HookCalls registry (.beforeScenario scenario) opening none)
      (hvisits : VisitsCalls config registry 1 scenario.steps middle results goesOn)
      (hclosing : HookCalls registry (.afterScenario scenario results) closing late) :
      RunCalls scenario report (opening ++ (middle ++ (closing ++ told registry report))) results

end Grammar

theorem RunCalls.told_suffix {config : Config} {registry : Registry (StateM σ)}
    {scenario : Scenario (StateM σ)} {report : Report} {calls : List (Call σ)}
    {results : List StepResult} (h : RunCalls config registry scenario report calls results) :
    told registry report <:+ calls := by
  cases h with
  | @refused opening closing => exact ⟨opening ++ closing, List.append_assoc _ _ _⟩
  | @opened opening middle closing =>
    exact ⟨opening ++ (middle ++ closing), by simp only [List.append_assoc]⟩

theorem Chain.chainCalls {event : HookEvent (StateM σ)} {place : Nat}
    {given : List (Middleware (StateM σ))} {context after : Context} {calls : List (Call σ)}
    {failure : Option Failure} (h : Chain event place given context calls after failure) :
    ChainCalls event place given.length calls failure := by
  induction h with
  | done => rfl
  | failed hyields => exact ⟨0, Nat.succ_pos _, rfl⟩
  | @next place middleware rest context between calls after failure hyields hrest ih =>
    -- The calls of the rest begin one place further on, so both ranges lose their first place.
    cases failure with
    | none =>
      rw [ChainCalls, ih, passing, passing, List.length_cons, List.range'_succ, List.map_cons]
    | some failure =>
      obtain ⟨before, hbefore, rfl⟩ := ih
      refine ⟨before + 1, Nat.succ_lt_succ hbefore, ?_⟩
      rw [passing, passing, List.range'_succ, List.map_cons, List.cons_append, Nat.add_right_comm,
        Nat.add_assoc]

section Step

variable {world : World (StateM σ)} {config : Config} {registry : Registry (StateM σ)}
  {step : Step (StateM σ)} {context : Context}

theorem Answered.stepCalls {sent : Request} {calls : List (Call σ)}
    {answer : Except TransportError Response} (hkind : IsOverHttp registry step)
    (hsend : Sendable step) (h : Answered world config step sent calls answer) :
    StepCalls config registry step context calls := by
  cases h with
  | simulated hdry hyields => exact .dry hkind hdry
  | sent hdry hyields => exact .sent hkind hdry hsend

theorem HttpPerformed.stepCalls {calls : List (Call σ)}
    {executed : Except StepFailure StepOutcome} (hkind : IsOverHttp registry step)
    (h : HttpPerformed world config registry step context calls executed) :
    StepCalls config registry step context calls := by
  cases h with
  | malformed hrequest =>
    rcases hrequest.request with ⟨-, sent, hsent⟩ | ⟨hsend, -⟩
    · cases hsent
    · cases hdry : config.dryRun with
      | true => exact .dry hkind hdry
      | false => exact .unsent hkind hdry hsend
  | undelivered hrequest hanswer => exact hanswer.stepCalls hkind (sendable_of_yields hrequest)
  | judged hrequest hanswer => exact hanswer.stepCalls hkind (sendable_of_yields hrequest)

theorem Performed.stepCalls {calls : List (Call σ)} {executed : Except StepFailure StepOutcome}
    (h : Performed world config registry step context calls executed) :
    StepCalls config registry step context calls := by
  cases h with
  | handled hkind hhandler hyields => exact .handled hkind hhandler
  | http hkind hhttp => exact hhttp.stepCalls hkind

end Step

section Run

variable {world : World (StateM σ)} {config : Config} {registry : Registry (StateM σ)}

theorem Visited.visitCalls {step : Step (StateM σ)} {ordinal : Nat} {progress after : Progress}
    {calls : List (Call σ)} {error : Option RunError}
    (h : Visited world config registry step ordinal progress calls after error) :
    ∃ results, after.results = progress.results ++ results ∧
      VisitCalls config registry step ordinal calls results error.isNone := by
  cases h with
  | refused hbefore => exact ⟨[], (List.append_nil _).symm, .refused hbefore.chainCalls⟩
  | failed hbefore hstep =>
    exact ⟨_, rfl, .failed hbefore.chainCalls hstep.stepCalls rfl⟩
  | passed hbefore hstep hafter =>
    refine ⟨_, rfl, ?_⟩
    rw [Option.isNone_map]
    exact .passed hbefore.chainCalls hstep.stepCalls rfl hafter.chainCalls

theorem Visits.visitsCalls {ordinal : Nat} {progress after : Progress}
    {steps : List (Step (StateM σ))} {calls : List (Call σ)} {error : Option RunError}
    (h : Visits world config registry ordinal progress steps calls after error) :
    ∃ results, after.results = progress.results ++ results ∧
      VisitsCalls config registry ordinal steps calls results error.isNone := by
  induction h with
  | done => exact ⟨[], (List.append_nil _).symm, .done⟩
  | stopped hvisit =>
    obtain ⟨results, hresults, hcalls⟩ := hvisit.visitCalls
    exact ⟨results, hresults, .stopped hcalls⟩
  | next hvisit _ ih =>
    obtain ⟨results, hresults, hcalls⟩ := hvisit.visitCalls
    obtain ⟨more, hmore, hlater⟩ := ih
    refine ⟨results ++ more, ?_, .next hcalls hlater⟩
    rw [hmore, hresults, List.append_assoc]

theorem History.runCalls {scenario : Scenario (StateM σ)} {given : Context}
    {calls : List (Call σ)} {report : Report} {outcome : Except RunError Report} {last : Progress}
    (h : History world config registry scenario given calls report outcome last) :
    RunCalls config registry scenario report calls last.results := by
  cases h with
  | intro hsteps hclosing _ _ =>
    cases hsteps with
    | refused hopening => exact .refused hopening.chainCalls hclosing.chainCalls
    | opened hopening hvisits =>
      obtain ⟨results, hresults, hcalls⟩ := hvisits.visitsCalls
      rw [List.nil_append] at hresults
      subst hresults
      rw [List.append_assoc]
      exact .opened hopening.chainCalls hcalls hclosing.chainCalls

end Run

/-- The calls of a run of a scenario that is fit for one come in the order of the run, whatever they
come to, and those of middleware and reporters in the order of registration. -/
theorem calls_of_run (world : World (StateM σ)) (runner : Runner (StateM σ))
    (scenario : Scenario (StateM σ)) (hfit : scenario.check = .ok ()) (given : Context) (s : σ) :
    ∃ calls report outcome last, Observed world runner scenario given s calls outcome last ∧
      RunCalls runner.config runner.registry scenario report calls last.results ∧
      runner.registry.InOrder := by
  obtain ⟨calls, report, outcome, last, hobserved, hhistory⟩ := exists_history runner hfit given s
  exact ⟨calls, report, outcome, last, hobserved, hhistory.runCalls, runner.registry.inOrder⟩

theorem calls_of_sample_run :
    Sample.scenario.check = .ok () ∧
    Observed Sample.world Sample.runner Sample.scenario [] 0 Sample.calls (.error Sample.error)
      Sample.last ∧
    RunCalls Sample.runner.config Sample.registry Sample.scenario Sample.report Sample.calls
      Sample.results ∧
    Sample.registry.InOrder := by
  have hfit : Sample.scenario.check = .ok () := rfl
  obtain ⟨calls, report, outcome, last, hobserved, hcalls, horder⟩ :=
    calls_of_run Sample.world Sample.runner Sample.scenario hfit [] 0
  obtain ⟨rfl, rfl, rfl⟩ := hobserved.unique Sample.observed
  obtain rfl := Sample.report_of_told hcalls.told_suffix
  exact ⟨hfit, hobserved, hcalls, horder⟩

end HttpScenario
