import HttpScenario.Proofs.Run.Performed
import HttpScenario.Runner

/-! The history of a run: which calls it makes in which order, and how results and variables change
in between. Every run of a scenario that is fit for one has such a history, from whatever state its
surroundings start. -/

namespace HttpScenario

variable {σ : Type}

open Recording Runner

section Relations

/-- Middleware is called in order, each with the variables that the one before left, up to the first
failure. -/
inductive Chain (event : HookEvent (StateM σ)) :
    Nat → List (Middleware (StateM σ)) → Context → List (Call σ) → Context → Option Failure → Prop
  | done {place context} : Chain event place [] context [] context none
  | failed {place middleware rest context after failure}
      (hyields : Yields (middleware event context) (after, some failure)) :
      Chain event place (middleware :: rest) context
        [.middleware event place (some failure)] after (some failure)
  | next {place middleware rest context between calls after failure}
      (hyields : Yields (middleware event context) (between, none))
      (hrest : Chain event (place + 1) rest between calls after failure) :
      Chain event place (middleware :: rest) context
        (.middleware event place none :: calls) after failure

variable (world : World (StateM σ)) (config : Config) (registry : Registry (StateM σ))

def Fired (event : HookEvent (StateM σ)) (context : Context) (calls : List (Call σ))
    (after : Context) (failure : Option Failure) : Prop :=
  Chain event 0 (registry.middleware event.point) context calls after failure

/-- A step is performed between its middleware, which is not called afterwards if the step fails. -/
inductive Visited (step : Step (StateM σ)) (ordinal : Nat) (progress : Progress) :
    List (Call σ) → Progress → Option RunError → Prop
  | refused {calls context failure}
      (hbefore : Fired registry (.beforeStep step ordinal) progress.context calls context
        (some failure)) :
      Visited step ordinal progress calls ⟨progress.results, context⟩
        (some (.middleware .beforeStep failure))
  | failed {before own context duration failure}
      (hbefore : Fired registry (.beforeStep step ordinal) progress.context before context none)
      (hstep : Performed world config registry step context own (.error failure)) :
      Visited step ordinal progress (before ++ own)
        ⟨progress.results ++ [resultOf step ordinal duration (.error failure)], context⟩
        (some (.stepFailed ordinal step.name failure.error))
  | passed {before own later context duration outcome after failure}
      (hbefore : Fired registry (.beforeStep step ordinal) progress.context before context none)
      (hstep : Performed world config registry step context own (.ok outcome))
      (hafter : Fired registry (.afterStep step ordinal (resultOf step ordinal duration (.ok outcome)))
        (Fields.merge context outcome.extracted) later after failure) :
      Visited step ordinal progress (before ++ (own ++ later))
        ⟨progress.results ++ [resultOf step ordinal duration (.ok outcome)], after⟩
        (failure.map (.middleware .afterStep))

inductive Visits : Nat → Progress → List (Step (StateM σ)) →
    List (Call σ) → Progress → Option RunError → Prop
  | done {ordinal progress} : Visits ordinal progress [] [] progress none
  | stopped {ordinal progress step rest calls after error}
      (hvisit : Visited world config registry step ordinal progress calls after (some error)) :
      Visits ordinal progress (step :: rest) calls after (some error)
  | next {ordinal progress step rest calls between later after error}
      (hvisit : Visited world config registry step ordinal progress calls between none)
      (hrest : Visits (ordinal + 1) between rest later after error) :
      Visits ordinal progress (step :: rest) (calls ++ later) after error

variable (scenario : Scenario (StateM σ))

inductive StepsRun (seed : Context) : List (Call σ) → Progress → Option RunError → Prop
  | refused {calls context failure}
      (hopening : Fired registry (.beforeScenario scenario) seed calls context (some failure)) :
      StepsRun seed calls ⟨[], context⟩ (some (.middleware .beforeScenario failure))
  | opened {opening calls context progress error}
      (hopening : Fired registry (.beforeScenario scenario) seed opening context none)
      (hvisits : Visits world config registry 1 ⟨[], context⟩ scenario.steps calls progress error) :
      StepsRun seed (opening ++ calls) progress error

def told (report : Report) : List (Call σ) :=
  registry.reporters.map fun entry => .reporter entry.1 report

/-- A run from the first call to the last: the middleware at the end is called in any case, and its
failure is the error of the run if there was none before. -/
inductive History (given : Context) :
    List (Call σ) → Report → Except RunError Report → Progress → Prop
  | intro {calls progress early closing context late error started ended report}
      (hsteps : StepsRun world config registry scenario (Fields.merge scenario.vars given) calls
        progress early)
      (hclosing : Fired registry (.afterScenario scenario progress.results) progress.context closing
        context late)
      (herror : error = early.or (late.map (.middleware .afterScenario)))
      (hreport : report = reportOf scenario ⟨progress.results, context⟩ error started ended) :
      History given (calls ++ (closing ++ told registry report)) report
        (error.elim (.ok report) .error) ⟨progress.results, context⟩

end Relations

section Soundness

variable {world : World (StateM σ)} {config : Config} {registry : Registry (StateM σ)}

theorem History.told_suffix {scenario : Scenario (StateM σ)} {given : Context}
    {calls : List (Call σ)} {report : Report} {outcome : Except RunError Report} {last : Progress}
    (h : History world config registry scenario given calls report outcome last) :
    told registry report <:+ calls := by
  cases h with
  | intro =>
    rw [← List.append_assoc]
    exact List.suffix_append _ _

theorem History.returned {scenario : Scenario (StateM σ)} {given : Context}
    {calls : List (Call σ)} {report : Report} {outcome : Except RunError Report} {last : Progress}
    (h : History world config registry scenario given calls report outcome last)
    (returned : Report) (houtcome : outcome = .ok returned) : returned = report := by
  cases h with
  | @intro _ _ _ _ _ _ error _ _ _ _ _ _ _ =>
    cases error with
    | none => exact (Except.ok.inj houtcome).symm
    | some error => cases houtcome

theorem records_callAll (event : HookEvent (StateM σ)) (place : Nat)
    (given : List (Middleware (StateM σ))) (context : Context) :
    Records (callAll (event.hoist quiet) (middlewareFrom place given) context)
      (callAll event given context) fun calls r => Chain event place given context calls r.1 r.2 := by
  induction given generalizing place context with
  | nil => exact Records.pure .done
  | cons first rest ih =>
    -- Middleware that is recorded is called with the event as it was before.
    have hplain : (event.hoist quiet).hoist forget = event := event.hoist_hoist forget_quiet
    simp only [callAll, middlewareFrom, middleware, hplain]
    refine (Records.noting (P := fun calls answer => calls = [.middleware event place answer.2])
      fun _ _ => rfl).bind fun calls answer hyields hcalls => ?_
    obtain ⟨between, failure⟩ := answer
    subst hcalls
    cases failure with
    | none => exact (ih (place + 1) between).mono fun _ _ hrest => .next hyields hrest
    | some failure => exact Records.pure (.failed hyields)

theorem records_fire (event : HookEvent (StateM σ)) (context : Context) :
    Records (fire (Recording.registry registry) (event.hoist quiet) context)
      (fire registry event context) fun calls r =>
        ∃ after failure, Fired registry event context calls after failure ∧
          r = (after, failure.map (.middleware event.point)) := by
  simp only [fire, HookEvent.point_hoist]
  refine (records_callAll event 0 _ context).bind fun calls r _ hchain => ?_
  obtain ⟨after, failure⟩ := r
  exact Records.pure ⟨after, failure, by rwa [List.append_nil], rfl⟩

theorem silent_logStep (step : Step (StateM σ)) (ordinal : Nat)
    (executed : Except StepFailure StepOutcome) :
    Silent (logStep (Recording.world world) (step.hoist quiet) ordinal executed)
      (logStep world step ordinal executed) fun _ => True := by
  cases executed with
  | ok outcome => exact silent_logAll _
  | error failure =>
    exact Records.quiet_bind fun _ => Silent.quiet fun _ => trivial

def stepError (step : Step (StateM σ)) (ordinal : Nat) :
    Except StepFailure StepOutcome → Option RunError
  | .ok _ => none
  | .error failure => some (.stepFailed ordinal step.name failure.error)

theorem records_runStep (step : Step (StateM σ)) (ordinal : Nat) (progress : Progress) :
    Records
      (runStep (Recording.world world) config (Recording.registry registry) (step.hoist quiet)
        ordinal progress)
      (runStep world config registry step ordinal progress) fun calls r =>
        ∃ duration executed, Performed world config registry step progress.context calls executed ∧
          r = (resultOf step ordinal duration executed,
            ⟨progress.results ++ [resultOf step ordinal duration executed],
              absorb progress.context executed⟩, stepError step ordinal executed) := by
  refine Records.quiet_bind fun started => ?_
  refine records_execute.bind fun calls r _ h => ?_
  obtain ⟨executed, hperformed, rfl⟩ := h
  refine Records.quiet_bind fun ended => ?_
  refine (silent_logStep step ordinal executed).bind_silent fun _ _ _ => ?_
  cases executed with
  | ok outcome => exact Records.pure ⟨_, .ok outcome, by rwa [List.append_nil], rfl⟩
  | error failure => exact Records.pure ⟨_, .error failure, by rwa [List.append_nil], rfl⟩

theorem records_visit (step : Step (StateM σ)) (ordinal : Nat) (progress : Progress) :
    Records
      (visit (Recording.world world) config (Recording.registry registry) (step.hoist quiet)
        ordinal progress)
      (visit world config registry step ordinal progress) fun calls r =>
        Visited world config registry step ordinal progress calls r.1 r.2 := by
  refine (records_fire (.beforeStep step ordinal) progress.context).bind fun before r _ h => ?_
  obtain ⟨context, failure, hbefore, rfl⟩ := h
  cases failure with
  | some failure => exact Records.pure (by rw [List.append_nil]; exact .refused hbefore)
  | none =>
    refine (records_runStep step ordinal _).bind fun own r _ h => ?_
    obtain ⟨duration, executed, hstep, rfl⟩ := h
    cases executed with
    | error failure => exact Records.pure (by rw [List.append_nil]; exact .failed hbefore hstep)
    | ok outcome =>
      refine (records_fire (.afterStep step ordinal (resultOf step ordinal duration (.ok outcome)))
        (Fields.merge context outcome.extracted)).bind fun later r _ h => ?_
      obtain ⟨after, failure, hafter, rfl⟩ := h
      refine Records.pure ?_
      rw [List.append_nil]
      exact .passed hbefore hstep hafter

theorem records_visitAll (total ordinal : Nat) (progress : Progress)
    (steps : List (Step (StateM σ))) :
    Records
      (visitAll (Recording.world world) config (Recording.registry registry) total ordinal progress
        (steps.map (Step.hoist quiet)))
      (visitAll world config registry total ordinal progress steps) fun calls r =>
        Visits world config registry ordinal progress steps calls r.1 r.2 := by
  induction steps generalizing ordinal progress with
  | nil => exact Records.pure .done
  | cons step rest ih =>
    refine Records.optional (Records.quiet_bind fun _ => ?_)
    refine (records_visit step ordinal progress).bind fun calls r _ hvisit => ?_
    obtain ⟨between, error⟩ := r
    cases error with
    | some error => exact Records.pure (by rw [List.append_nil]; exact .stopped hvisit)
    | none => exact (ih (ordinal + 1) between).mono fun _ _ hrest => .next hvisit hrest

variable {scenario : Scenario (StateM σ)}

theorem records_runSteps (seed : Context) :
    Records
      (runSteps (Recording.world world) config (Recording.registry registry) (scenario.hoist quiet)
        seed)
      (runSteps world config registry scenario seed) fun calls r =>
        StepsRun world config registry scenario seed calls r.1 r.2 := by
  refine (records_fire (.beforeScenario scenario) seed).bind fun opening r _ h => ?_
  obtain ⟨context, failure, hopening, rfl⟩ := h
  cases failure with
  | some failure => exact Records.pure (by rw [List.append_nil]; exact .refused hopening)
  | none =>
    simp only [Option.map_none, Scenario.hoist, List.length_map]
    refine (records_visitAll scenario.steps.length 1 ⟨[], context⟩ scenario.steps).mono ?_
    exact fun _ _ hvisits => .opened hopening hvisits

theorem records_finish (progress : Progress) (early : Option RunError) :
    Records
      (finish (Recording.world world) (Recording.registry registry) (scenario.hoist quiet) progress
        early)
      (finish world registry scenario progress early) fun calls r =>
        ∃ context late,
          Fired registry (.afterScenario scenario progress.results) progress.context calls context
            late ∧
          r = (⟨progress.results, context⟩, early.or (late.map (.middleware .afterScenario))) := by
  refine (records_fire (.afterScenario scenario progress.results) progress.context).bind
    fun calls r _ h => ?_
  obtain ⟨context, late, hclosing, rfl⟩ := h
  -- What is logged about a late failure makes no difference to how the run ends.
  have hended (error : Option RunError)
      (herror : error = early.or (late.map (.middleware .afterScenario))) :
      Records (pure (⟨progress.results, context⟩, error))
        (pure (⟨progress.results, context⟩, error)) fun later r =>
          ∃ context late,
            Fired registry (.afterScenario scenario progress.results) progress.context
              (calls ++ later) context late ∧
            r = ((⟨progress.results, context⟩ : Progress),
              early.or (late.map (.middleware .afterScenario))) :=
    Records.pure ⟨context, late, by rwa [List.append_nil], by rw [herror]⟩
  cases early with
  | none => exact hended _ (by cases late <;> rfl)
  | some error =>
    cases late with
    | none => exact hended _ rfl
    | some failure =>
      exact Records.quiet_bind fun _ => hended _ rfl

theorem records_tell (report : Report) (reporters : Fields (Reporter (StateM σ))) :
    Records
      (Runner.tell (Recording.world world) report
        (reporters.map fun entry => (entry.1, reporter entry.1 entry.2)))
      (Runner.tell world report reporters) fun calls _ =>
        calls = reporters.map fun entry => .reporter entry.1 report := by
  induction reporters with
  | nil => exact Records.pure rfl
  | cons entry rest ih =>
    obtain ⟨name, given⟩ := entry
    simp only [List.map_cons, Runner.tell, reporter]
    refine (Records.noting (P := fun calls _ => calls = [.reporter name report])
      fun _ _ => rfl).bind fun calls answer _ hcalls => ?_
    subst hcalls
    -- A reporter that fails does not keep the report from the others.
    have hrest := ih.mono (Q := fun calls _ => [.reporter name report] ++ calls =
      .reporter name report :: rest.map fun entry => .reporter entry.1 report)
      fun _ _ h => by rw [h]; rfl
    cases answer with
    | ok done => exact hrest
    | error failure => exact Records.quiet_bind fun _ => hrest

theorem records_conduct (given : Context) :
    Records
      (conduct (Recording.world world) config (Recording.registry registry) (scenario.hoist quiet)
        given)
      (conduct world config registry scenario given) fun calls r =>
        ∃ report, History world config registry scenario given calls report r.1 r.2 := by
  refine Records.quiet_bind fun started => ?_
  refine Records.quiet_bind fun _ => ?_
  refine Records.optional ?_
  refine (records_runSteps _).bind fun calls r _ hsteps => ?_
  obtain ⟨progress, early⟩ := r
  refine (records_finish progress early).bind fun closing r _ h => ?_
  obtain ⟨context, late, hclosing, rfl⟩ := h
  refine Records.quiet_bind fun ended => ?_
  refine (records_tell _ registry.reporters).bind fun calls _ _ hcalls => ?_
  subst hcalls
  refine Records.quiet_bind fun _ => Records.pure ?_
  rw [List.append_nil]
  exact ⟨_, .intro hsteps hclosing rfl rfl⟩

def observe (world : World (StateM σ)) (runner : Runner (StateM σ)) (scenario : Scenario (StateM σ))
    (given : Context) : Recording σ (Except RunError Report × Progress) := do
  let (outcome, ended) ← Runner.run (Recording.world world)
    ⟨runner.config, Recording.registry runner.registry, runner.last⟩ (scenario.hoist quiet) given
  return (outcome, ended.last)

/-- From a state of its surroundings, a run makes calls, has an outcome and leaves its progress
behind. The calls are those that surroundings with a record note down; the record changes
nothing. -/
def Observed (world : World (StateM σ)) (runner : Runner (StateM σ))
    (scenario : Scenario (StateM σ)) (given : Context) (s : σ) (calls : List (Call σ))
    (outcome : Except RunError Report) (last : Progress) : Prop :=
  ∃ after, (run world runner scenario given).run s = ((outcome, { runner with last := last }), after) ∧
    ((observe world runner scenario given).run []).run s = (((outcome, last), calls), after)

theorem Observed.unique {world : World (StateM σ)} {runner : Runner (StateM σ)}
    {scenario : Scenario (StateM σ)} {given : Context} {s : σ} {calls calls' : List (Call σ)}
    {outcome outcome' : Except RunError Report} {last last' : Progress}
    (h : Observed world runner scenario given s calls outcome last)
    (h' : Observed world runner scenario given s calls' outcome' last') :
    calls = calls' ∧ outcome = outcome' ∧ last = last' := by
  obtain ⟨_, -, hobserve⟩ := h
  obtain ⟨_, -, hobserve'⟩ := h'
  obtain ⟨hresult, -⟩ := Prod.mk.inj (hobserve.symm.trans hobserve')
  obtain ⟨hrun, hcalls⟩ := Prod.mk.inj hresult
  obtain ⟨houtcome, hlast⟩ := Prod.mk.inj hrun
  exact ⟨hcalls, houtcome, hlast⟩

theorem run_of_unfit {m : Type → Type} [Monad m] (world : World m) (runner : Runner m)
    {scenario : Scenario m} {cause : Scenario.Error} (hunfit : scenario.check = .error cause)
    (given : Context) : run world runner scenario given = pure (.error (.structural cause), runner) := by
  simp only [run, hunfit]

theorem run_of_fit {m : Type → Type} [Monad m] (world : World m) (runner : Runner m)
    {scenario : Scenario m} (hfit : scenario.check = .ok ()) (given : Context) :
    run world runner scenario given =
      conduct world runner.config runner.registry scenario given >>= fun r =>
        pure (r.1, { runner with last := r.2 }) := by
  simp only [run, hfit]
  rfl

theorem observed_of_unfit (runner : Runner (StateM σ)) {cause : Scenario.Error}
    (hunfit : scenario.check = .error cause) (given : Context) (s : σ) :
    Observed world runner scenario given s [] (.error (.structural cause)) runner.last := by
  have hhoisted : (scenario.hoist quiet).check = .error cause := by
    rw [Scenario.check_hoist, hunfit]
  refine ⟨s, ?_, ?_⟩
  · rw [run_of_unfit world runner hunfit]
    rfl
  · rw [observe, run_of_unfit _ _ hhoisted]
    rfl

theorem exists_history (runner : Runner (StateM σ)) (hfit : scenario.check = .ok ())
    (given : Context) (s : σ) :
    ∃ calls report outcome last, Observed world runner scenario given s calls outcome last ∧
      History world runner.config runner.registry scenario given calls report outcome last := by
  have hobserve : observe world runner scenario given =
      conduct (Recording.world world) runner.config (Recording.registry runner.registry)
        (scenario.hoist quiet) given := by
    simp only [observe, run, Scenario.check_hoist, hfit, runChecked, bind_assoc, pure_bind]
    exact bind_pure _
  have hrecords : Records _ (conduct world runner.config runner.registry scenario given) _ :=
    records_conduct given
  obtain ⟨calls, ⟨report, hhistory⟩, hrecorded⟩ := hrecords s
  rcases hended : (conduct world runner.config runner.registry scenario given).run s with
    ⟨⟨outcome, last⟩, after⟩
  rw [hended] at hhistory hrecorded
  refine ⟨calls, report, outcome, last, ⟨after, ?_, ?_⟩, hhistory⟩
  · rw [run_of_fit world runner hfit, StateT.run_bind, hended]
    rfl
  · rw [hobserve, hrecorded []]
    rfl

end Soundness

/-! Sample surroundings, in which one request is answered and the next does not get through. -/

namespace Sample

def world : World (StateM Nat) where
  send _ := do
    let earlier ← get
    set (earlier + 1)
    return if earlier = 0 then .ok (.ofStatus 200) else .error (.network "connection refused")
  wait _ := return ()
  draw _ := return 0
  now := return 0
  log _ := return ()

def registry : Registry (StateM Nat) :=
  (Registry.empty.useMiddleware .afterScenario fun _ context =>
    return (context, some (.ofText "no room left"))).registerReporter "console" fun _ =>
      return .ok ()

def runner : Runner (StateM Nat) := .new .default registry

def scenario : Scenario (StateM Nat) :=
  .new "sample"
    [{ Step.http "first" .get "/first" with extract := some [("code", .path "status")] },
     .http "second" .get "/second"]

def refusal : TransportError := .network "connection refused"

def error : RunError := .stepFailed 2 "second" (.dispatch "second" refusal)

def results : List StepResult :=
  [⟨"first", 1, true, some (.ofStatus 200), none, [("code", .nat 200)], [], 0⟩,
   ⟨"second", 2, false, none, some (StepError.dispatch "second" refusal).message, [], [], 0⟩]

def last : Progress := ⟨results, [("code", .nat 200)]⟩

def report : Report :=
  ⟨"sample", false, some error.message, results, last.context, "1970-01-01T00:00:00+00:00",
    ⟨2, 1, 1⟩, 0⟩

def calls : List (Call Nat) :=
  [.send ⟨.get, "/first", [], none⟩ (.ok (.ofStatus 200)),
   .send ⟨.get, "/second", [], none⟩ (.error refusal),
   .middleware (.afterScenario scenario results) 0 (some (.ofText "no room left")),
   .reporter "console" report]

/-- The second step is refused. The middleware behind it fails too, which comes too late. -/
theorem observed : Observed world runner scenario [] 0 calls (.error error) last := by
  have hfirst : Placeholder.substitute [] "/first" = "/first" := by decide +kernel
  have hsecond : Placeholder.substitute last.context "/second" = "/second" := by decide +kernel
  rw [calls, ← hfirst, ← hsecond]
  exact ⟨2, rfl, rfl⟩

theorem report_of_told {other : Report} (h : told registry other <:+ calls) : other = report := by
  obtain ⟨before, hcalls⟩ := h
  have hlast : (before ++ [Call.reporter "console" other]).getLast? =
      some (Call.reporter "console" report) := congrArg List.getLast? hcalls
  rw [List.getLast?_concat] at hlast
  injection hlast with hcall
  injection hcall

end Sample

end HttpScenario
