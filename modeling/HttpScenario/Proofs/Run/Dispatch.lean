import HttpScenario.Proofs.Run.Atomicity
import HttpScenario.Proofs.Run.FirstError

/-! Steps that cannot be dispatched, since they lack a method or a url. The check of a scenario sees to
it that http steps have both; a step of another type lacks them only where nobody handles it, and where
somebody does, it makes no difference what they are. -/

namespace HttpScenario

variable {σ : Type} {m : Type → Type}

open Execution Runner

/-- The step is of a type of its own, which nobody handles, and lacks a method or a url. -/
structure Undispatchable (registry : Registry m) (step : Step m) : Prop where
  kind : ∃ kind, step.declaredKind = some kind ∧ kind ≠ "http" ∧ registry.stepTypes.get? kind = none
  lacks : step.method = none ∨ step.url = none ∨ step.url = some ""

section Parts

variable {registry : Registry m} {step : Step m}

theorem isHttp_eq_false_iff :
    step.isHttp = false ↔ ∃ kind, step.declaredKind = some kind ∧ kind ≠ "http" := by
  unfold Step.isHttp Step.kind Step.httpKind
  cases step.declaredKind <;> simp

theorem not_sendable_iff :
    ¬Sendable step ↔ step.method = none ∨ step.url = none ∨ step.url = some "" := by
  unfold Sendable Step.givenUrl
  cases step.method with
  | none => simp
  | some method => cases step.url <;> simp

theorem kind_eq_of_declaredKind {kind : String} (h : step.declaredKind = some kind) :
    step.kind = kind := by
  rw [Step.kind, h, Option.getD_some]

theorem undispatchable_iff : Undispatchable registry step ↔
    step.isHttp = false ∧ registry.stepTypes.get? step.kind = none ∧ ¬Sendable step := by
  rw [isHttp_eq_false_iff, not_sendable_iff]
  constructor
  · rintro ⟨⟨kind, hkind, hother, hnone⟩, hlacks⟩
    exact ⟨⟨kind, hkind, hother⟩, (kind_eq_of_declaredKind hkind).symm ▸ hnone, hlacks⟩
  · rintro ⟨⟨kind, hkind, hother⟩, hnone, hlacks⟩
    exact ⟨⟨kind, hkind, hother, kind_eq_of_declaredKind hkind ▸ hnone⟩, hlacks⟩

end Parts

section Check

variable {step : Step m} {scenario : Scenario m}

theorem sendable_of_checkStep {index : Nat} (h : Scenario.checkStep index step = .ok ())
    (hhttp : step.isHttp = true) : Sendable step := by
  simp only [Scenario.checkStep, hhttp, Bool.not_true, Bool.false_eq_true, if_false] at h
  split at h
  · cases h
  · split at h
    · cases h
    · next hmethod =>
      split at h
      · cases h
      · next hurl =>
        rw [← Option.not_isSome, Bool.not_eq_true, Bool.not_eq_false'] at hmethod hurl
        exact ⟨hmethod, hurl⟩

theorem exists_checkStep {index : Nat} {steps : List (Step m)}
    (h : Scenario.checkSteps index steps = .ok ()) (hmem : step ∈ steps) :
    ∃ place, Scenario.checkStep place step = .ok () := by
  induction steps generalizing index with
  | nil => cases hmem
  | cons first rest ih =>
    unfold Scenario.checkSteps at h
    cases hfirst : Scenario.checkStep index first with
    | error cause =>
      rw [hfirst] at h
      cases h
    | ok =>
      rw [hfirst] at h
      rcases List.mem_cons.1 hmem with rfl | hrest
      · exact ⟨index, hfirst⟩
      · exact ih h hrest

theorem sendable_of_check (hfit : scenario.check = .ok ()) (hmem : step ∈ scenario.steps)
    (hhttp : step.isHttp = true) : Sendable step := by
  unfold Scenario.check at hfit
  split at hfit
  · cases hfit
  · split at hfit
    · cases hfit
    · obtain ⟨place, hstep⟩ := exists_checkStep hfit hmem
      exact sendable_of_checkStep hstep hhttp

end Check

section Errors

variable {world : World (StateM σ)} {config : Config} {registry : Registry (StateM σ)}
  {step : Step (StateM σ)} {context : Context} {calls : List (Call σ)}

theorem error_of_judge {response : Response} {failure : StepFailure}
    (h : judge registry step response = .error failure) :
    ∃ reason, failure.error = .validation step.name reason := by
  simp only [judge] at h
  split at h
  · cases h
  · obtain rfl := Except.error.inj h
    exact ⟨_, rfl⟩

theorem HttpPerformed.not_sendable {failure : StepFailure} {named reason : String}
    (h : HttpPerformed world config registry step context calls (.error failure))
    (herror : failure.error = .malformed named reason) : named = step.name ∧ ¬Sendable step := by
  generalize hexecuted : (Except.error failure : Except StepFailure StepOutcome) = executed at h
  cases h with
  | malformed hrequest =>
    obtain rfl := Except.error.inj hexecuted
    rcases hrequest.request with ⟨-, sent, hsent⟩ | ⟨hsend, why, hwhy⟩
    · cases hsent
    · obtain rfl := Except.error.inj hwhy
      cases herror
      exact ⟨rfl, hsend⟩
  | undelivered _ _ =>
    obtain rfl := Except.error.inj hexecuted
    cases herror
  | judged _ _ =>
    obtain ⟨why, hwhy⟩ := error_of_judge hexecuted.symm
    cases hwhy.symm.trans herror

/-- A handler has errors of its own, and every request that is made has a method and a url. -/
theorem Performed.not_sendable {failure : StepFailure} {named reason : String}
    (h : Performed world config registry step context calls (.error failure))
    (herror : failure.error = .malformed named reason) :
    named = step.name ∧ IsOverHttp registry step ∧ ¬Sendable step := by
  generalize hexecuted : (Except.error failure : Except StepFailure StepOutcome) = executed at h
  cases h with
  | @handled handler answer _ _ _ =>
    cases answer with
    | ok outcome => cases hexecuted
    | error cause =>
      obtain rfl := Except.error.inj hexecuted
      cases herror
  | http hkind hhttp =>
    subst hexecuted
    obtain ⟨hnamed, hsend⟩ := hhttp.not_sendable herror
    exact ⟨hnamed, hkind, hsend⟩

theorem Performed.of_undispatchable {executed : Except StepFailure StepOutcome}
    (h : Performed world config registry step context calls executed)
    (hstep : Undispatchable registry step) :
    ∃ reason, executed = .error (.ofError (.malformed step.name reason)) := by
  obtain ⟨-, hnone, hsend⟩ := undispatchable_iff.1 hstep
  cases h with
  | handled _ hhandler _ => cases hnone.symm.trans hhandler
  | http _ hhttp =>
    cases hhttp with
    | malformed hrequest =>
      rcases hrequest.request with ⟨hsendable, -⟩ | ⟨-, reason, herror⟩
      · exact absurd hsendable hsend
      · obtain rfl := Except.error.inj herror
        exact ⟨reason, rfl⟩
    | undelivered hrequest _ => exact absurd (sendable_of_yields hrequest) hsend
    | judged hrequest _ => exact absurd (sendable_of_yields hrequest) hsend

theorem Concluded.stepFailed {scenario : Scenario (StateM σ)} {timeline : Timeline σ}
    {report : Report} {outcome : Except RunError Report} {last : Progress}
    {ordinal : Nat} {name : String} {cause : StepError}
    (h : Concluded world config registry scenario timeline report outcome last)
    (houtcome : outcome = .error (.stepFailed ordinal name cause)) :
    ∃ i step context own failure, ordinal = i + 1 ∧ scenario.steps[i]? = some step ∧
      name = step.name ∧ cause = failure.error ∧
      Performed world config registry step context own (.error failure) := by
  have hfirst : timeline.errors.head? = some (.stepFailed ordinal name cause) := by
    have hhead := h.first.symm.trans houtcome
    cases herrors : timeline.errors.head? with
    | none =>
      rw [herrors] at hhead
      cases hhead
    | some error =>
      rw [herrors] at hhead
      exact congrArg some (Except.error.inj hhead)
  -- Calls only tell of errors of middleware.
  have hcalls (calls : List (Call σ)) :
      RunError.stepFailed ordinal name cause ∉ calls.filterMap Call.error? := by
    intro hmem
    obtain ⟨call, -, herror⟩ := List.mem_filterMap.1 hmem
    cases call with
    | middleware event place failure => cases failure <;> cases herror
    | handler => cases herror
    | send => cases herror
    | reporter => cases herror
  have hfailed : timeline.failed = some (.stepFailed ordinal name cause) := by
    have hmem := List.mem_of_mem_head? hfirst
    simp only [Timeline.errors, List.mem_append, hcalls, false_or, or_false] at hmem
    exact Option.mem_toList.1 hmem
  have hbroken := h.step
  rw [hfailed] at hbroken
  generalize last.results = results at hbroken
  generalize timeline.own = own at hbroken
  cases hbroken with
  | @failed before step context own duration failure _ hstep hperformed =>
    exact ⟨before.length, step, context, _, failure, Nat.add_comm _ _, hstep, rfl, rfl, hperformed⟩

end Errors

section Targets

variable (registry : Registry m)

def Step.IsHandled (step : Step m) : Prop :=
  step.isHttp = false ∧ (registry.stepTypes.get? step.kind).isSome = true

instance (step : Step m) : Decidable (step.IsHandled registry) :=
  inferInstanceAs (Decidable (_ ∧ _))

def Step.stripped (step : Step m) : Step m :=
  if step.IsHandled registry then { step with method := none, url := none } else step

def Scenario.stripped (scenario : Scenario m) : Scenario m :=
  { scenario with steps := scenario.steps.map (Step.stripped registry) }

def HookEvent.stripped : HookEvent m → HookEvent m
  | beforeScenario scenario => .beforeScenario (scenario.stripped registry)
  | beforeStep step ordinal => .beforeStep (step.stripped registry) ordinal
  | afterStep step ordinal result => .afterStep (step.stripped registry) ordinal result
  | afterScenario scenario results => .afterScenario (scenario.stripped registry) results

def StepHandler.stripped (handler : StepHandler m) : StepHandler m :=
  fun step => handler (step.stripped registry)

def Middleware.stripped (middleware : Middleware m) : Middleware m :=
  fun event => middleware (event.stripped registry)

def Registry.stripped : Registry m :=
  { registry with
    stepTypes := registry.stepTypes.map fun entry => (entry.1, StepHandler.stripped registry entry.2)
    middleware := fun point => (registry.middleware point).map (Middleware.stripped registry) }

/-- Neither handlers nor middleware look at the method and the url of steps that are handled. -/
structure Registry.Blind : Prop where
  handler : ∀ entry ∈ registry.stepTypes, StepHandler.stripped registry entry.2 = entry.2
  middleware : ∀ point, ∀ middleware ∈ registry.middleware point,
    Middleware.stripped registry middleware = middleware

variable {registry} {step : Step m}

theorem stripped_of_not (h : ¬step.IsHandled registry) : step.stripped registry = step := if_neg h

@[simp]
theorem name_stripped : (step.stripped registry).name = step.name := by
  unfold Step.stripped
  split <;> rfl

@[simp]
theorem kind_stripped : (step.stripped registry).kind = step.kind := by
  unfold Step.stripped
  split <;> rfl

@[simp]
theorem isHttp_stripped : (step.stripped registry).isHttp = step.isHttp := by
  unfold Step.stripped
  split <;> rfl

theorem point_stripped (event : HookEvent m) : (event.stripped registry).point = event.point := by
  cases event <;> rfl

namespace Scenario

theorem checkStep_stripped (index : Nat) (step : Step m) :
    checkStep index (step.stripped registry) = checkStep index step := by
  by_cases h : step.IsHandled registry
  · simp only [checkStep, name_stripped, isHttp_stripped, h.1, Bool.not_false, if_true]
  · rw [stripped_of_not h]

theorem check_stripped (scenario : Scenario m) :
    (scenario.stripped registry).check = scenario.check := by
  have hsteps (index : Nat) (steps : List (Step m)) :
      checkSteps index (steps.map (Step.stripped registry)) = checkSteps index steps := by
    induction steps generalizing index with
    | nil => rfl
    | cons step rest ih => simp only [List.map_cons, checkSteps, checkStep_stripped, ih]
  simp only [check, stripped, List.isEmpty_map, hsteps]

end Scenario

theorem Registry.Blind.stripped_eq (hblind : registry.Blind) : registry.stripped = registry := by
  have hhandlers : registry.stripped.stepTypes = registry.stepTypes := by
    refine (List.map_congr_left fun entry hmem => ?_).trans (List.map_id _)
    exact Prod.ext rfl (hblind.handler entry hmem)
  have hmiddleware : registry.stripped.middleware = registry.middleware := by
    funext point
    refine (List.map_congr_left fun middleware hmem => ?_).trans (List.map_id _)
    exact hblind.middleware point middleware hmem
  calc registry.stripped
    _ = { registry with
          stepTypes := registry.stripped.stepTypes, middleware := registry.stripped.middleware } := rfl
    _ = registry := by rw [hhandlers, hmiddleware]

variable [Monad m] {world : World m} {config : Config}

theorem fire_stripped (event : HookEvent m) (context : Context) :
    fire registry.stripped event context = fire registry (event.stripped registry) context := by
  have hcall (given : List (Middleware m)) (context : Context) :
      callAll event (given.map (Middleware.stripped registry)) context =
        callAll (event.stripped registry) given context := by
    induction given generalizing context with
    | nil => rfl
    | cons first rest ih => simp only [List.map_cons, callAll, Middleware.stripped, ih]
  simp only [fire, point_stripped, Registry.stripped, hcall]

theorem perform_stripped (step : Step m) (context : Context) :
    perform world config registry.stripped step context =
      perform world config registry (step.stripped registry) context := by
  have hget : registry.stripped.stepTypes.get? step.kind =
      (registry.stepTypes.get? step.kind).map (StepHandler.stripped registry) :=
    Fields.get?_map _ registry.stepTypes step.kind
  by_cases h : step.IsHandled registry
  · obtain ⟨hkind, hsome⟩ := h
    obtain ⟨handler, hhandler⟩ := Option.isSome_iff_exists.1 hsome
    simp only [perform, isHttp_stripped, kind_stripped, name_stripped, hkind, hget, hhandler,
      Option.map_some, StepHandler.stripped, Bool.false_eq_true, if_false]
  · rw [stripped_of_not h]
    unfold perform
    cases hkind : step.isHttp with
    | true => rfl
    | false =>
      have hnone : registry.stepTypes.get? step.kind = none :=
        Option.not_isSome_iff_eq_none.1 fun hsome => h ⟨hkind, hsome⟩
      rw [hget, hnone]
      rfl

theorem visit_stripped (step : Step m) (ordinal : Nat) (progress : Progress) :
    visit world config registry.stripped step ordinal progress =
      visit world config registry (step.stripped registry) ordinal progress := by
  have hresult (duration : Nat) (executed : Except StepFailure StepOutcome) :
      resultOf (step.stripped registry) ordinal duration executed =
        resultOf step ordinal duration executed := by
    cases executed <;> simp only [resultOf, name_stripped]
  have hlog (executed : Except StepFailure StepOutcome) :
      logStep world (step.stripped registry) ordinal executed =
        logStep world step ordinal executed := by
    cases executed <;> simp only [logStep, name_stripped]
  have hstep (progress : Progress) :
      runStep world config registry.stripped step ordinal progress =
        runStep world config registry (step.stripped registry) ordinal progress := by
    simp only [runStep, execute, perform_stripped, hresult, hlog, name_stripped]
  simp only [visit, fire_stripped, hstep, HookEvent.stripped]

theorem visitAll_stripped (total ordinal : Nat) (progress : Progress) (steps : List (Step m)) :
    visitAll world config registry.stripped total ordinal progress steps =
      visitAll world config registry total ordinal progress
        (steps.map (Step.stripped registry)) := by
  induction steps generalizing ordinal progress with
  | nil => rfl
  | cons step rest ih => simp only [List.map_cons, visitAll, visit_stripped, name_stripped, ih]

theorem conduct_stripped (scenario : Scenario m) (given : Context) :
    conduct world config registry.stripped scenario given =
      conduct world config registry (scenario.stripped registry) given := by
  have hsteps (seed : Context) :
      runSteps world config registry.stripped scenario seed =
        runSteps world config registry (scenario.stripped registry) seed := by
    simp only [runSteps, fire_stripped, HookEvent.stripped, visitAll_stripped]
    simp only [Scenario.stripped, List.length_map]
  have hfinish (progress : Progress) (error : Option RunError) :
      finish world registry.stripped scenario progress error =
        finish world registry (scenario.stripped registry) progress error := by
    simp only [finish, fire_stripped, HookEvent.stripped]
  simp only [conduct, hsteps, hfinish]
  rfl

theorem run_stripped {runner : Runner m} (hblind : runner.registry.Blind) (scenario : Scenario m)
    (given : Context) :
    run world runner (scenario.stripped runner.registry) given =
      run world runner scenario given := by
  have hconduct :
      conduct world runner.config runner.registry (scenario.stripped runner.registry) given =
        conduct world runner.config runner.registry scenario given := by
    rw [← conduct_stripped, hblind.stripped_eq]
  simp only [run, Scenario.check_stripped, runChecked, hconduct]

end Targets

/-- In the run of a scenario that is fit for one, a step cannot be dispatched only if it is of a type
that nobody handles and lacks a method or a url; then it never can. If handled steps are stripped of
methods and urls, only handlers and middleware can tell; where these do not look, methods and urls of
handled steps may be any or none. -/
theorem dispatch_of_run (world : World (StateM σ)) (runner : Runner (StateM σ))
    (scenario : Scenario (StateM σ)) (hfit : scenario.check = .ok ()) (given : Context) (s : σ) :
    (∃ calls outcome last, Observed world runner scenario given s calls outcome last ∧
      ∀ ordinal name named reason,
        outcome = .error (.stepFailed ordinal name (.malformed named reason)) →
        ∃ i step, ordinal = i + 1 ∧ scenario.steps[i]? = some step ∧ name = step.name ∧
          named = step.name ∧ Undispatchable runner.registry step) ∧
    (∀ step context, Undispatchable runner.registry step →
      ∃ reason after, (execute world runner.config runner.registry step context).run s =
        ((.error (.ofError (.malformed step.name reason)), context), after)) ∧
    conduct world runner.config runner.registry.stripped scenario given =
      conduct world runner.config runner.registry (scenario.stripped runner.registry) given ∧
    (runner.registry.Blind → ∀ other : Scenario (StateM σ),
      other.stripped runner.registry = scenario.stripped runner.registry →
      run world runner other given = run world runner scenario given) := by
  refine ⟨?_, ?_, conduct_stripped scenario given, ?_⟩
  · obtain ⟨calls, report, outcome, last, hobserved, hhistory⟩ := exists_history runner hfit given s
    obtain ⟨timeline, -, hconcluded⟩ := hhistory.concluded
    refine ⟨calls, outcome, last, hobserved, ?_⟩
    intro ordinal name named reason houtcome
    obtain ⟨i, step, context, own, failure, hordinal, hstep, hname, hcause, hperformed⟩ :=
      hconcluded.stepFailed houtcome
    obtain ⟨hnamed, hkind, hsend⟩ := hperformed.not_sendable hcause.symm
    -- An http step was checked beforehand for what its request needs.
    have hother : step.isHttp = false := by
      rw [Bool.eq_false_iff]
      intro hhttp
      exact hsend (sendable_of_check hfit (List.mem_of_getElem? hstep) hhttp)
    have hnone := hkind.resolve_left (Bool.eq_false_iff.1 hother)
    exact ⟨i, step, hordinal, hstep, hname, hnamed, undispatchable_iff.2 ⟨hother, hnone, hsend⟩⟩
  · intro step context hstep
    obtain ⟨calls, executed, ⟨after, hrun, -⟩, hperformed⟩ :=
      exists_performed world runner.config runner.registry step context s
    obtain ⟨reason, rfl⟩ := hperformed.of_undispatchable hstep
    exact ⟨reason, after, hrun⟩
  · intro hblind other hother
    rw [← run_stripped hblind other, hother, run_stripped hblind]

namespace Sample

def waiter : Runner (StateM Nat) :=
  .new .default (Registry.empty.registerStepType "wait" fun _ _ => return .ok ⟨none, [], []⟩)

def errand : Scenario (StateM Nat) :=
  .new "errand" [.custom "first" "wait", .custom "second" "queue"]

def detour : Scenario (StateM Nat) :=
  .new "errand"
    [{ Step.http "first" .get "/first" with declaredKind := some "wait" }, .custom "second" "queue"]

theorem blind_waiter : waiter.registry.Blind where
  handler entry hmem := by
    obtain rfl := List.mem_singleton.1 hmem
    rfl
  middleware _ _ hmem := nomatch hmem

end Sample

theorem dispatch_of_sample_run :
    Sample.errand.check = .ok () ∧ Undispatchable Sample.waiter.registry (.custom "second" "queue") ∧
    (∃ reason after,
      (execute Sample.world Sample.waiter.config Sample.waiter.registry (.custom "second" "queue")
        []).run 0 = ((.error (.ofError (.malformed "second" reason)), []), after)) ∧
    run Sample.world Sample.waiter Sample.detour [] =
      run Sample.world Sample.waiter Sample.errand [] :=
  have hsecond : Undispatchable Sample.waiter.registry (.custom "second" "queue") :=
    ⟨⟨"queue", rfl, by decide, rfl⟩, .inl rfl⟩
  have ⟨_, hmalformed, _, hblind⟩ := dispatch_of_run Sample.world Sample.waiter Sample.errand rfl [] 0
  ⟨rfl, hsecond, hmalformed _ [] hsecond, hblind Sample.blind_waiter Sample.detour rfl⟩

end HttpScenario
