import HttpScenario.Proofs.Run.History

/-! The results of a run are the record of its first steps: all went well, but for the last one if
the run ended because that step failed. The summary of the report counts them. -/

namespace HttpScenario

variable {σ : Type} {m : Type → Type}

open Runner

/-- The results of steps of which the first has number `ordinal`, and the error that ended them. -/
inductive Recorded : Nat → List (Step m) → List StepResult → Option RunError → Prop
  | done {ordinal} : Recorded ordinal [] [] none
  | halted {ordinal steps point cause} :
      Recorded ordinal steps [] (some (.middleware point cause))
  | failed {ordinal step rest result cause} (hindex : result.index = ordinal)
      (hname : result.step = step.name) (hsuccess : result.success = false) :
      Recorded ordinal (step :: rest) [result] (some (.stepFailed ordinal step.name cause))
  | next {ordinal step rest result results error} (hindex : result.index = ordinal)
      (hname : result.step = step.name) (hsuccess : result.success = true)
      (hrest : Recorded (ordinal + 1) rest results error) :
      Recorded ordinal (step :: rest) (result :: results) error

/-- How the results of steps end: unless a step failed, all are of success, and there is one for
every step unless middleware failed. -/
inductive Ending (ordinal : Nat) (steps : List (Step m)) :
    List StepResult → Option RunError → Prop
  | completed {results} (hlength : results.length = steps.length)
      (hall : ∀ result ∈ results, result.success = true) : Ending ordinal steps results none
  | halted {results point cause} (hall : ∀ result ∈ results, result.success = true) :
      Ending ordinal steps results (some (.middleware point cause))
  | failed {before final number name cause} (hnumber : number = ordinal + before.length)
      (hname : final.step = name) (hfinal : final.success = false)
      (hall : ∀ result ∈ before, result.success = true) :
      Ending ordinal steps (before ++ [final]) (some (.stepFailed number name cause))

namespace Recorded

variable {ordinal : Nat} {steps : List (Step m)} {results : List StepResult}
  {error : Option RunError}

theorem place (h : Recorded ordinal steps results error) {i : Nat} {result : StepResult}
    (hresult : results[i]? = some result) :
    result.index = ordinal + i ∧ (steps[i]?).map Step.name = some result.step := by
  induction h generalizing i with
  | done => cases hresult
  | halted => cases hresult
  | failed hindex hname _ =>
    cases i with
    | zero =>
      obtain rfl := Option.some.inj hresult
      exact ⟨hindex, congrArg some hname.symm⟩
    | succ i => cases hresult
  | next hindex hname _ _ ih =>
    cases i with
    | zero =>
      obtain rfl := Option.some.inj hresult
      exact ⟨hindex, congrArg some hname.symm⟩
    | succ i =>
      obtain ⟨hplace, hstep⟩ := ih hresult
      exact ⟨by omega, hstep⟩

theorem ending (h : Recorded ordinal steps results error) :
    Ending ordinal steps results error := by
  induction h with
  | done => exact .completed rfl fun _ h => nomatch h
  | halted => exact .halted fun _ h => nomatch h
  | @failed ordinal step rest result cause _ hname hsuccess =>
    have hfailed : Ending ordinal (step :: rest) ([] ++ [result])
        (some (.stepFailed ordinal step.name cause)) :=
      .failed rfl hname hsuccess fun _ h => nomatch h
    exact hfailed
  | @next ordinal step rest result results error _ _ hsuccess _ ih =>
    cases ih with
    | completed hlength hall =>
      exact .completed (congrArg (· + 1) hlength) (List.forall_mem_cons.2 ⟨hsuccess, hall⟩)
    | halted hall => exact .halted (List.forall_mem_cons.2 ⟨hsuccess, hall⟩)
    | @failed before final number name cause hnumber hname hfinal hall =>
      have hnext : number = ordinal + (result :: before).length := by
        rw [List.length_cons]
        omega
      have hfailed : Ending ordinal (step :: rest) (result :: before ++ [final])
          (some (.stepFailed number name cause)) :=
        .failed hnext hname hfinal (List.forall_mem_cons.2 ⟨hsuccess, hall⟩)
      exact hfailed

theorem halt (h : Recorded ordinal steps results none) (point : HookPoint) (cause : Failure) :
    Recorded ordinal steps results (some (.middleware point cause)) := by
  generalize hnone : (none : Option RunError) = error at h
  induction h with
  | done => exact .halted
  | halted => cases hnone
  | failed => cases hnone
  | next hindex hname hsuccess _ ih => exact .next hindex hname hsuccess (ih hnone)

end Recorded

def failuresOf : Except RunError Report → Nat
  | .error (.stepFailed _ _ _) => 1
  | _ => 0

/-- What the results of a run say about its steps, its outcome and its report. -/
structure RecordOf (steps : List (Step m)) (results : List StepResult)
    (outcome : Except RunError Report) (report : Report) : Prop where
  place : ∀ i result, results[i]? = some result →
    result.index = i + 1 ∧ (steps[i]?).map Step.name = some result.step
  before_last : ∀ result ∈ results.dropLast, result.success = true
  stepFailed_iff : (∃ ordinal name cause, outcome = .error (.stepFailed ordinal name cause)) ↔
    ∃ final, results.getLast? = some final ∧ final.success = false
  stepFailed : ∀ ordinal name cause, outcome = .error (.stepFailed ordinal name cause) →
    ordinal = results.length ∧ ∃ i, ordinal = i + 1 ∧ (steps[i]?).map Step.name = some name
  middleware : ∀ point cause, outcome = .error (.middleware point cause) →
    ∀ result ∈ results, result.success = true
  ok : ∀ returned, outcome = .ok returned → returned = report ∧
    results.length = steps.length ∧ ∀ result ∈ results, result.success = true
  report_results : report.results = results
  total : report.summary.total = results.length
  sum : report.summary.total = report.summary.successful + report.summary.failed
  failed : report.summary.failed = failuresOf outcome

theorem Summary.total_eq (results : List StepResult) :
    (ofResults results).total = (ofResults results).successful + (ofResults results).failed := by
  have hle := List.countP_le_length (p := StepResult.success) (l := results)
  simp only [ofResults]
  omega

theorem Summary.failed_eq_zero {results : List StepResult}
    (hall : ∀ result ∈ results, result.success = true) : (ofResults results).failed = 0 := by
  have hcount : results.countP StepResult.success = results.length := List.countP_eq_length.2 hall
  simp only [ofResults, hcount, Nat.sub_self]

namespace Recorded

variable {steps : List (Step m)} {results : List StepResult} {error : Option RunError}

theorem failed_eq {ordinal : Nat} (h : Recorded ordinal steps results error) (report : Report) :
    (Summary.ofResults results).failed = failuresOf (error.elim (.ok report) .error) := by
  cases h.ending with
  | completed _ hall => exact Summary.failed_eq_zero hall
  | halted hall => exact Summary.failed_eq_zero hall
  | @failed before final _ _ _ _ _ hfinal hall =>
    have hcount : before.countP StepResult.success = before.length :=
      List.countP_eq_length.2 hall
    simp [Summary.ofResults, failuresOf, hcount, hfinal]

theorem stepFailed_iff {ordinal : Nat} (h : Recorded ordinal steps results error)
    (report : Report) :
    (∃ ordinal name cause, error.elim (.ok report) Except.error =
        .error (.stepFailed ordinal name cause)) ↔
      ∃ final, results.getLast? = some final ∧ final.success = false := by
  -- Unless a step failed, the last result cannot be of failure.
  have hnot (hall : ∀ result ∈ results, result.success = true) :
      ¬∃ final, results.getLast? = some final ∧ final.success = false := by
    rintro ⟨final, hlast, hfinal⟩
    rw [hall final (List.mem_of_getLast? hlast)] at hfinal
    cases hfinal
  cases h.ending with
  | completed _ hall => exact ⟨fun ⟨_, _, _, h⟩ => (nomatch h), fun h => absurd h (hnot hall)⟩
  | halted hall => exact ⟨fun ⟨_, _, _, h⟩ => (nomatch h), fun h => absurd h (hnot hall)⟩
  | @failed before final number name cause _ _ hfinal _ =>
    exact ⟨fun _ => ⟨final, List.getLast?_concat, hfinal⟩, fun _ => ⟨number, name, cause, rfl⟩⟩

theorem before_last {ordinal : Nat} (h : Recorded ordinal steps results error) :
    ∀ result ∈ results.dropLast, result.success = true := by
  cases h.ending with
  | completed _ hall => exact fun result hmem => hall result (List.dropLast_subset _ hmem)
  | halted hall => exact fun result hmem => hall result (List.dropLast_subset _ hmem)
  | failed _ _ _ hall => rwa [List.dropLast_concat]

theorem stepFailed {number : Nat} {name : String} {cause : StepError}
    (h : Recorded 1 steps results (some (.stepFailed number name cause))) :
    number = results.length ∧ ∃ i, number = i + 1 ∧ (steps[i]?).map Step.name = some name := by
  cases h.ending with
  | @failed before final _ _ _ hnumber hname _ _ =>
    have hlast : (before ++ [final])[before.length]? = some final := List.getElem?_concat_length
    rw [List.length_append, List.length_singleton, ← hname]
    exact ⟨by omega, before.length, by omega, (h.place hlast).2⟩

theorem middleware {point : HookPoint} {cause : Failure}
    (h : Recorded 1 steps results (some (.middleware point cause))) :
    ∀ result ∈ results, result.success = true := by
  cases h.ending with
  | halted hall => exact hall

theorem completed (h : Recorded 1 steps results none) :
    results.length = steps.length ∧ ∀ result ∈ results, result.success = true := by
  cases h.ending with
  | completed hlength hall => exact ⟨hlength, hall⟩

theorem recordOf (h : Recorded 1 steps results error) {report : Report}
    (hresults : report.results = results) (hsummary : report.summary = .ofResults results) :
    RecordOf steps results (error.elim (.ok report) .error) report where
  place i result hresult := by
    obtain ⟨hindex, hname⟩ := h.place hresult
    exact ⟨by omega, hname⟩
  before_last := h.before_last
  stepFailed_iff := h.stepFailed_iff report
  stepFailed ordinal name cause herror := by
    cases error with
    | none => cases herror
    | some error =>
      obtain rfl := Except.error.inj herror
      exact h.stepFailed
  middleware point cause herror := by
    cases error with
    | none => cases herror
    | some error =>
      obtain rfl := Except.error.inj herror
      exact h.middleware
  ok returned hreturned := by
    cases error with
    | none => exact ⟨(Except.ok.inj hreturned).symm, h.completed⟩
    | some error => cases hreturned
  report_results := hresults
  total := by rw [hsummary]; rfl
  sum := by rw [hsummary]; exact Summary.total_eq results
  failed := by rw [hsummary]; exact h.failed_eq report

end Recorded

variable {world : World (StateM σ)} {config : Config} {registry : Registry (StateM σ)}

namespace Visited

variable {step : Step (StateM σ)} {ordinal : Nat} {progress after : Progress}
  {calls : List (Call σ)}

theorem result (h : Visited world config registry step ordinal progress calls after none) :
    ∃ result, after.results = progress.results ++ [result] ∧ result.index = ordinal ∧
      result.step = step.name ∧ result.success = true := by
  generalize hnone : (none : Option RunError) = error at h
  cases h with
  | refused hbefore => cases hnone
  | failed hbefore hstep => cases hnone
  | passed hbefore hstep hafter => exact ⟨_, rfl, rfl, rfl, rfl⟩

theorem recorded {error : RunError} (rest : List (Step (StateM σ)))
    (h : Visited world config registry step ordinal progress calls after (some error)) :
    ∃ results, after.results = progress.results ++ results ∧
      Recorded ordinal (step :: rest) results (some error) := by
  generalize hsome : some error = ended at h
  cases h with
  | refused hbefore =>
    cases hsome
    exact ⟨[], (List.append_nil _).symm, .halted⟩
  | failed hbefore hstep =>
    cases hsome
    exact ⟨_, rfl, .failed rfl rfl rfl⟩
  | passed hbefore hstep hafter =>
    obtain ⟨failure, rfl, rfl⟩ := Option.map_eq_some_iff.1 hsome.symm
    exact ⟨_, rfl, .next rfl rfl rfl .halted⟩

end Visited

theorem Visits.recorded {ordinal : Nat} {progress after : Progress}
    {steps : List (Step (StateM σ))} {calls : List (Call σ)} {error : Option RunError}
    (h : Visits world config registry ordinal progress steps calls after error) :
    ∃ results, after.results = progress.results ++ results ∧
      Recorded ordinal steps results error := by
  induction h with
  | done => exact ⟨[], (List.append_nil _).symm, .done⟩
  | stopped hvisit => exact hvisit.recorded _
  | next hvisit _ ih =>
    obtain ⟨results, hresults, hrecorded⟩ := ih
    obtain ⟨result, hresult, hindex, hname, hsuccess⟩ := hvisit.result
    refine ⟨result :: results, ?_, .next hindex hname hsuccess hrecorded⟩
    rw [hresults, hresult, List.append_assoc]
    rfl

theorem StepsRun.recorded {scenario : Scenario (StateM σ)} {seed : Context}
    {calls : List (Call σ)} {progress : Progress} {error : Option RunError}
    (h : StepsRun world config registry scenario seed calls progress error) :
    Recorded 1 scenario.steps progress.results error := by
  cases h with
  | refused hopening => exact .halted
  | opened hopening hvisits =>
    obtain ⟨results, hresults, hrecorded⟩ := hvisits.recorded
    rwa [hresults]

variable {scenario : Scenario (StateM σ)}

theorem History.recorded {given : Context} {calls : List (Call σ)} {report : Report}
    {outcome : Except RunError Report} {last : Progress}
    (h : History world config registry scenario given calls report outcome last) :
    RecordOf scenario.steps last.results outcome report := by
  cases h with
  | @intro _ progress early _ _ late error _ _ _ hsteps _ herror hreport =>
    -- Late middleware halts a run whose steps are all done; otherwise the earlier error stays.
    have hrecorded : Recorded 1 scenario.steps progress.results error := by
      subst herror
      cases early with
      | some early => exact hsteps.recorded
      | none =>
        cases late with
        | none => exact hsteps.recorded
        | some late => exact hsteps.recorded.halt _ _
    exact hrecorded.recordOf (by rw [hreport]; rfl) (by rw [hreport]; rfl)

/-- Whatever a run of a scenario that is fit for one meets with, its results are a record of the
first steps, and the report that is returned and handed to reporters sums them up. -/
theorem results_of_run (world : World (StateM σ)) (runner : Runner (StateM σ))
    (scenario : Scenario (StateM σ)) (hfit : scenario.check = .ok ()) (given : Context) (s : σ) :
    ∃ calls report outcome last, Observed world runner scenario given s calls outcome last ∧
      told runner.registry report <:+ calls ∧
      RecordOf scenario.steps last.results outcome report := by
  obtain ⟨calls, report, outcome, last, hobserved, hhistory⟩ := exists_history runner hfit given s
  exact ⟨calls, report, outcome, last, hobserved, hhistory.told_suffix, hhistory.recorded⟩

theorem results_of_sample_run :
    Sample.scenario.check = .ok () ∧
    Observed Sample.world Sample.runner Sample.scenario [] 0 Sample.calls (.error Sample.error)
      Sample.last ∧
    told Sample.registry Sample.report <:+ Sample.calls ∧
    RecordOf Sample.scenario.steps Sample.results (.error Sample.error) Sample.report := by
  have hfit : Sample.scenario.check = .ok () := rfl
  obtain ⟨calls, report, outcome, last, hobserved, htold, hrecord⟩ :=
    results_of_run Sample.world Sample.runner Sample.scenario hfit [] 0
  obtain ⟨rfl, rfl, rfl⟩ := hobserved.unique Sample.observed
  obtain rfl := Sample.report_of_told htold
  exact ⟨hfit, hobserved, htold, hrecord⟩

end HttpScenario
