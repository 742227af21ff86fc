import HttpScenario.Proofs.Run.History

/-! Where middleware leaves the variables of a run alone, the results are enough to tell what these
are: what each result extracted is added, in order, to the variables of the scenario and those that
are given. Every step is performed with the variables that the results before it come to. -/

namespace HttpScenario

variable {σ : Type}

open Execution Runner

def replay (seed : Context) (results : List StepResult) : Context :=
  results.foldl (fun context result => Fields.merge context result.extracted) seed

theorem replay_cons (seed : Context) (result : StepResult) (results : List StepResult) :
    replay seed (result :: results) = replay (Fields.merge seed result.extracted) results := rfl

theorem replay_append (seed : Context) (results more : List StepResult) :
    replay seed (results ++ more) = replay (replay seed results) more :=
  List.foldl_append

theorem names_prefix_replay (seed : Context) (results : List StepResult) :
    Fields.names seed <+: Fields.names (replay seed results) := by
  induction results generalizing seed with
  | nil => exact List.prefix_refl _
  | cons result rest ih => exact (Fields.names_prefix_merge seed result.extracted).trans (ih _)

theorem names_prefix_replay_take (seed : Context) (results : List StepResult) (i : Nat) :
    Fields.names (replay seed (results.take i)) <+: Fields.names (replay seed results) := by
  have hsplit : replay seed results = replay (replay seed (results.take i)) (results.drop i) := by
    rw [← replay_append, List.take_append_drop]
  rw [hsplit]
  exact names_prefix_replay _ _

theorem absorb_eq (step : Step (StateM σ)) (ordinal duration : Nat) (context : Context)
    (executed : Except StepFailure StepOutcome) :
    absorb context executed =
      Fields.merge context (resultOf step ordinal duration executed).extracted := by
  cases executed <;> rfl

theorem extracted_of_failed {step : Step (StateM σ)} {ordinal duration : Nat}
    {executed : Except StepFailure StepOutcome}
    (h : (resultOf step ordinal duration executed).success = false) :
    (resultOf step ordinal duration executed).extracted = [] := by
  cases executed with
  | ok outcome => cases h
  | error failure => rfl

def Registry.Neutral (registry : Registry (StateM σ)) : Prop :=
  ∀ event, ∀ middleware ∈ registry.middleware event.point, ∀ context s,
    ((middleware event context).run s).1.1 = context

def Call.isOfStep : Call σ → Bool
  | .handler _ _ _ => true
  | .send _ _ => true
  | _ => false

section Relations

variable (world : World (StateM σ)) (config : Config) (registry : Registry (StateM σ))

/-- Steps of which the first has number `ordinal` are performed with the variables that the results
before each of them come to. -/
inductive Replayed :
    Nat → Context → List (Step (StateM σ)) → List (Call σ) → List StepResult → Prop
  | done {ordinal context steps} : Replayed ordinal context steps [] []
  | next {ordinal context step rest own executed duration calls results}
      (hstep : Performed world config registry step context own executed)
      (hrest : Replayed (ordinal + 1) (absorb context executed) rest calls results) :
      Replayed ordinal context (step :: rest) (own ++ calls)
        (resultOf step ordinal duration executed :: results)

/-- What the results of a run say about its variables. The calls that were made for the steps are
divided among the results, in order. -/
structure ReplayOf (steps : List (Step (StateM σ))) (seed : Context) (calls : List (Call σ))
    (report : Report) (last : Progress) : Prop where
  context : last.context = replay seed last.results
  report_context : report.context = last.context
  report_results : report.results = last.results
  kept : ∀ i, Fields.names (replay seed (last.results.take i)) <+: Fields.names last.context
  failed : ∀ result ∈ last.results, result.success = false → result.extracted = []
  performed : ∃ own : Nat → List (Call σ),
    calls.filter Call.isOfStep = (List.range last.results.length).flatMap own ∧
    ∀ i result, last.results[i]? = some result → ∃ step duration executed,
      steps[i]? = some step ∧ result = resultOf step (i + 1) duration executed ∧
      Performed world config registry step (replay seed (last.results.take i)) (own i) executed

end Relations

section Soundness

variable {world : World (StateM σ)} {config : Config} {registry : Registry (StateM σ)}

theorem Chain.unchanged {event : HookEvent (StateM σ)} {place : Nat}
    {given : List (Middleware (StateM σ))} {context after : Context} {calls : List (Call σ)}
    {failure : Option Failure} (h : Chain event place given context calls after failure)
    (hneutral : ∀ middleware ∈ given, ∀ context s,
      ((middleware event context).run s).1.1 = context) :
    after = context := by
  induction h with
  | done => rfl
  | @failed _ middleware _ context _ _ hyields =>
    obtain ⟨s, hs⟩ := hyields
    have hunchanged := hneutral middleware List.mem_cons_self context s
    rwa [hs] at hunchanged
  | @next _ middleware _ context _ _ _ _ hyields _ ih =>
    obtain ⟨s, hs⟩ := hyields
    have hunchanged := hneutral middleware List.mem_cons_self context s
    rw [hs] at hunchanged
    rw [ih fun other hmem => hneutral other (List.mem_cons_of_mem _ hmem)]
    exact hunchanged

theorem Fired.unchanged {event : HookEvent (StateM σ)} {context after : Context}
    {calls : List (Call σ)} {failure : Option Failure} (hneutral : registry.Neutral)
    (h : Fired registry event context calls after failure) : after = context :=
  Chain.unchanged h (hneutral event)

theorem Chain.filter_isOfStep {event : HookEvent (StateM σ)} {place : Nat}
    {given : List (Middleware (StateM σ))} {context after : Context} {calls : List (Call σ)}
    {failure : Option Failure} (h : Chain event place given context calls after failure) :
    calls.filter Call.isOfStep = [] := by
  induction h with
  | done => rfl
  | failed => rfl
  | next _ _ ih => exact ih

theorem Fired.filter_isOfStep {event : HookEvent (StateM σ)} {context after : Context}
    {calls : List (Call σ)} {failure : Option Failure}
    (h : Fired registry event context calls after failure) : calls.filter Call.isOfStep = [] :=
  Chain.filter_isOfStep h

theorem filter_isOfStep_told (report : Report) :
    (told registry report).filter Call.isOfStep = [] := by
  rw [told, List.filter_map, List.map_eq_nil_iff]
  exact List.filter_eq_nil_iff.2 fun _ _ h => nomatch h

section Step

variable {step : Step (StateM σ)} {context : Context} {calls : List (Call σ)}

theorem Answered.filter_isOfStep {sent : Request} {answer : Except TransportError Response}
    (h : Answered world config step sent calls answer) : calls.filter Call.isOfStep = calls := by
  cases h <;> rfl

theorem HttpPerformed.filter_isOfStep {executed : Except StepFailure StepOutcome}
    (h : HttpPerformed world config registry step context calls executed) :
    calls.filter Call.isOfStep = calls := by
  cases h with
  | malformed => rfl
  | undelivered _ hanswer => exact hanswer.filter_isOfStep
  | judged _ hanswer => exact hanswer.filter_isOfStep

theorem Performed.filter_isOfStep {executed : Except StepFailure StepOutcome}
    (h : Performed world config registry step context calls executed) :
    calls.filter Call.isOfStep = calls := by
  cases h with
  | handled => rfl
  | http _ hhttp => exact hhttp.filter_isOfStep

/-- A visit changes the progress of a run by the result of its step alone, or not at all if it ends
the run before. -/
theorem Visited.replayed {ordinal : Nat} {progress after : Progress} {error : Option RunError}
    (hneutral : registry.Neutral)
    (h : Visited world config registry step ordinal progress calls after error) :
    (error.isSome = true ∧ after = progress ∧ calls.filter Call.isOfStep = []) ∨
      ∃ duration executed,
        Performed world config registry step progress.context (calls.filter Call.isOfStep)
          executed ∧
        after = ⟨progress.results ++ [resultOf step ordinal duration executed],
          absorb progress.context executed⟩ := by
  cases h with
  | refused hbefore =>
    obtain rfl := hbefore.unchanged hneutral
    exact .inl ⟨rfl, rfl, hbefore.filter_isOfStep⟩
  | failed hbefore hstep =>
    obtain rfl := hbefore.unchanged hneutral
    refine .inr ⟨_, _, ?_, rfl⟩
    rw [List.filter_append, hbefore.filter_isOfStep, hstep.filter_isOfStep]
    exact hstep
  | passed hbefore hstep hafter =>
    obtain rfl := hbefore.unchanged hneutral
    obtain rfl := hafter.unchanged hneutral
    refine .inr ⟨_, _, ?_, rfl⟩
    rw [List.filter_append, List.filter_append, hbefore.filter_isOfStep, hstep.filter_isOfStep,
      hafter.filter_isOfStep, List.append_nil]
    exact hstep

end Step

theorem Visits.replayed {ordinal : Nat} {progress after : Progress}
    {steps : List (Step (StateM σ))} {calls : List (Call σ)} {error : Option RunError}
    (hneutral : registry.Neutral)
    (h : Visits world config registry ordinal progress steps calls after error) :
    ∃ results, after.results = progress.results ++ results ∧
      after.context = replay progress.context results ∧
      Replayed world config registry ordinal progress.context steps
        (calls.filter Call.isOfStep) results := by
  induction h with
  | done => exact ⟨[], (List.append_nil _).symm, rfl, .done⟩
  | stopped hvisit =>
    rcases hvisit.replayed hneutral with ⟨-, rfl, hcalls⟩ | ⟨duration, executed, hstep, rfl⟩
    · rw [hcalls]
      exact ⟨[], (List.append_nil _).symm, rfl, .done⟩
    · -- The step failed, or middleware did after it: either way its result is the last.
      refine ⟨_, rfl, absorb_eq _ _ _ _ _, ?_⟩
      rw [← List.append_nil (List.filter _ _)]
      exact .next hstep .done
  | @next ordinal _ step _ _ _ _ _ _ hvisit _ ih =>
    rcases hvisit.replayed hneutral with ⟨herror, -⟩ | ⟨duration, executed, hstep, rfl⟩
    · cases herror
    · obtain ⟨results, hresults, hcontext, hreplayed⟩ := ih
      refine ⟨resultOf step ordinal duration executed :: results, ?_, ?_, ?_⟩
      · exact hresults.trans (List.append_assoc _ _ _)
      · rw [hcontext, replay_cons, ← absorb_eq]
      · rw [List.filter_append]
        exact .next hstep hreplayed

theorem StepsRun.replayed {scenario : Scenario (StateM σ)} {seed : Context}
    {calls : List (Call σ)} {progress : Progress} {error : Option RunError}
    (hneutral : registry.Neutral)
    (h : StepsRun world config registry scenario seed calls progress error) :
    progress.context = replay seed progress.results ∧
      Replayed world config registry 1 seed scenario.steps (calls.filter Call.isOfStep)
        progress.results := by
  cases h with
  | refused hopening =>
    obtain rfl := hopening.unchanged hneutral
    rw [hopening.filter_isOfStep]
    exact ⟨rfl, .done⟩
  | opened hopening hvisits =>
    obtain rfl := hopening.unchanged hneutral
    obtain ⟨results, hresults, hcontext, hreplayed⟩ := hvisits.replayed hneutral
    rw [List.nil_append] at hresults
    rw [List.filter_append, hopening.filter_isOfStep, List.nil_append, hresults]
    exact ⟨hcontext, hreplayed⟩

theorem Replayed.performed {ordinal : Nat} {context : Context} {steps : List (Step (StateM σ))}
    {calls : List (Call σ)} {results : List StepResult}
    (h : Replayed world config registry ordinal context steps calls results) :
    ∃ own : Nat → List (Call σ), calls = (List.range results.length).flatMap own ∧
      ∀ i result, results[i]? = some result → ∃ step duration executed,
        steps[i]? = some step ∧ result = resultOf step (ordinal + i) duration executed ∧
        Performed world config registry step (replay context (results.take i)) (own i) executed := by
  induction h with
  | done => exact ⟨fun _ => [], rfl, fun _ _ h => nomatch h⟩
  | @next ordinal context step rest first executed duration calls results hstep _ ih =>
    obtain ⟨own, rfl, hown⟩ := ih
    -- The calls of the first result come before those of the others, which move up by one.
    refine ⟨fun i => i.casesOn first own, ?_, fun i result hresult => ?_⟩
    · rw [List.length_cons, List.range_succ_eq_map, List.flatMap_cons, List.flatMap_map]
      rfl
    · cases i with
      | zero =>
        obtain rfl := Option.some.inj hresult
        exact ⟨step, duration, executed, rfl, rfl, hstep⟩
      | succ i =>
        obtain ⟨step, later, outcome, hmem, hrecord, hperformed⟩ := hown i result hresult
        refine ⟨step, later, outcome, hmem, ?_, ?_⟩
        · rw [hrecord, Nat.add_right_comm, Nat.add_assoc]
        · rw [List.take_succ_cons, replay_cons, ← absorb_eq]
          exact hperformed

variable {scenario : Scenario (StateM σ)}

theorem History.replayOf {given : Context} {calls : List (Call σ)} {report : Report}
    {outcome : Except RunError Report} {last : Progress} (hneutral : registry.Neutral)
    (h : History world config registry scenario given calls report outcome last) :
    ReplayOf world config registry scenario.steps (Fields.merge scenario.vars given) calls report
      last := by
  cases h with
  | intro hsteps hclosing _ hreport =>
    obtain rfl := hclosing.unchanged hneutral
    obtain ⟨hcontext, hreplayed⟩ := hsteps.replayed hneutral
    obtain ⟨own, hcalls, hperformed⟩ := hreplayed.performed
    refine ⟨hcontext, by rw [hreport]; rfl, by rw [hreport]; rfl, ?_, ?_, own, ?_, ?_⟩
    · exact fun i => hcontext ▸ names_prefix_replay_take _ _ i
    · intro result hmem hfailed
      obtain ⟨i, hi⟩ := List.getElem?_of_mem hmem
      obtain ⟨step, duration, executed, -, rfl, -⟩ := hperformed i result hi
      exact extracted_of_failed hfailed
    · rw [List.filter_append, List.filter_append, hclosing.filter_isOfStep, filter_isOfStep_told,
        List.append_nil, List.append_nil, hcalls]
    · intro i result hresult
      rw [Nat.add_comm i 1]
      exact hperformed i result hresult

end Soundness

/-- The variables that a run ends with can be told from its results if middleware leaves them
alone, whether or not it came to the end of its steps. -/
theorem context_of_run (world : World (StateM σ)) (runner : Runner (StateM σ))
    (hneutral : runner.registry.Neutral) (scenario : Scenario (StateM σ))
    (hfit : scenario.check = .ok ()) (given : Context) (s : σ) :
    ∃ calls report outcome last, Observed world runner scenario given s calls outcome last ∧
      told runner.registry report <:+ calls ∧
      (∀ returned, outcome = .ok returned → returned = report) ∧
      ReplayOf world runner.config runner.registry scenario.steps
        (Fields.merge scenario.vars given) calls report last := by
  obtain ⟨calls, report, outcome, last, hobserved, hhistory⟩ := exists_history runner hfit given s
  exact ⟨calls, report, outcome, last, hobserved, hhistory.told_suffix, hhistory.returned,
    hhistory.replayOf hneutral⟩

theorem Sample.neutral_registry : Sample.registry.Neutral := by
  intro event middleware hmem context s
  cases event with
  | afterScenario scenario results =>
    obtain rfl := List.mem_singleton.1 hmem
    rfl
  | _ => cases hmem

theorem context_of_sample_run :
    Sample.registry.Neutral ∧ Sample.scenario.check = .ok () ∧
    Observed Sample.world Sample.runner Sample.scenario [] 0 Sample.calls (.error Sample.error)
      Sample.last ∧
    replay [] Sample.results = [("code", .nat 200)] ∧
    ReplayOf Sample.world Sample.runner.config Sample.registry Sample.scenario.steps [] Sample.calls
      Sample.report Sample.last := by
  have hfit : Sample.scenario.check = .ok () := rfl
  obtain ⟨calls, report, outcome, last, hobserved, htold, -, hreplay⟩ :=
    context_of_run Sample.world Sample.runner Sample.neutral_registry Sample.scenario hfit [] 0
  obtain ⟨rfl, rfl, rfl⟩ := hobserved.unique Sample.observed
  obtain rfl := Sample.report_of_told htold
  exact ⟨Sample.neutral_registry, hfit, hobserved, hreplay.context.symm, hreplay⟩

end HttpScenario
