import HttpScenario.Proofs.Run.History

/-! One runner for any number of runs. What a run leaves behind is overwritten by the next run that
takes place and kept by one that is refused, so that no run depends on those before it: their
outcomes are those of as many runs, each with a runner of its own. -/

namespace HttpScenario

variable {σ : Type} {m : Type → Type}

namespace Runner

section Monad

variable [Monad m] (world : World m) (runner : Runner m)

def runInTurn (runner : Runner m) :
    List (Scenario m × Context) → m (List (Except RunError Report) × Runner m)
  | [] => return ([], runner)
  | (scenario, given) :: rest => do
    let (outcome, runner) ← run world runner scenario given
    let (outcomes, runner) ← runInTurn runner rest
    return (outcome :: outcomes, runner)

def outcomeAfresh (config : Config) (registry : Registry m) (r : Scenario m × Context) :
    m (Except RunError Report) :=
  Prod.fst <$> run world (.new config registry) r.1 r.2

variable {scenario : Scenario m} (given : Context)

theorem run_withLast (hfit : scenario.check = .ok ()) (earlier : Progress) :
    run world { runner with last := earlier } scenario given =
      run world runner scenario given := by
  rw [run_of_fit world runner hfit, run_of_fit world { runner with last := earlier } hfit]

variable [LawfulMonad m]

theorem outcome_run (scenario : Scenario m) :
    Prod.fst <$> run world runner scenario given =
      outcomeAfresh world runner.config runner.registry (scenario, given) := by
  rw [outcomeAfresh]
  cases hcheck : scenario.check with
  | error cause => rw [run_of_unfit world _ hcheck, run_of_unfit world _ hcheck, map_pure, map_pure]
  | ok =>
    rw [run_of_fit world _ hcheck, run_of_fit world _ hcheck]
    simp only [map_bind, map_pure]
    rfl

/-- Whatever becomes of a run, the runner is left with the same configuration and registry, and so
what comes after it may count on these. -/
theorem run_bind_congr {α : Type} {f g : Except RunError Report × Runner m → m α}
    (scenario : Scenario m)
    (h : ∀ outcome last, f (outcome, { runner with last := last }) =
      g (outcome, { runner with last := last })) :
    (run world runner scenario given >>= f) = run world runner scenario given >>= g := by
  cases hcheck : scenario.check with
  | error cause =>
    rw [run_of_unfit world _ hcheck, pure_bind, pure_bind]
    exact h _ runner.last
  | ok =>
    rw [run_of_fit world _ hcheck, bind_assoc, bind_assoc]
    simp only [pure_bind, h]

theorem outcomes_runInTurn (runs : List (Scenario m × Context)) :
    Prod.fst <$> runInTurn world runner runs =
      runs.mapM (outcomeAfresh world runner.config runner.registry) := by
  induction runs generalizing runner with
  | nil => simp only [runInTurn, map_pure, List.mapM_nil]
  | cons first rest ih =>
    obtain ⟨scenario, given⟩ := first
    calc Prod.fst <$> runInTurn world runner ((scenario, given) :: rest)
      _ = run world runner scenario given >>= fun r =>
            (Prod.fst <$> runInTurn world r.2 rest) >>= fun outcomes =>
              pure (r.1 :: outcomes) := by
        simp only [runInTurn, map_eq_pure_bind, bind_assoc, pure_bind]
      _ = run world runner scenario given >>= fun r =>
            rest.mapM (outcomeAfresh world runner.config runner.registry) >>= fun outcomes =>
              pure (r.1 :: outcomes) := by
        refine run_bind_congr world runner given scenario fun outcome last => ?_
        rw [ih { runner with last := last }]
      _ = (Prod.fst <$> run world runner scenario given) >>= fun outcome =>
            rest.mapM (outcomeAfresh world runner.config runner.registry) >>= fun outcomes =>
              pure (outcome :: outcomes) := by
        simp only [map_eq_pure_bind, bind_assoc, pure_bind]
      _ = ((scenario, given) :: rest).mapM
            (outcomeAfresh world runner.config runner.registry) := by
        rw [outcome_run, List.mapM_cons]

end Monad

theorem observe_withLast (world : World (StateM σ)) (runner : Runner (StateM σ))
    {scenario : Scenario (StateM σ)} (hfit : scenario.check = .ok ()) (given : Context)
    (earlier : Progress) :
    observe world { runner with last := earlier } scenario given =
      observe world runner scenario given := by
  have hhoisted : (scenario.hoist Recording.quiet).check = .ok () := by
    rw [Scenario.check_hoist, hfit]
  have hrun := run_withLast (Recording.world world)
    ⟨runner.config, Recording.registry runner.registry, runner.last⟩ given hhoisted earlier
  rw [observe, hrun]
  rfl

end Runner

open Runner

/-- A scenario that is not fit for a run is refused, with everything as it was and nothing called.
The run of any other depends on nothing that earlier runs left behind, in its outcome, its calls and
what it leaves in its turn. Hence the outcomes of runs with one runner are those of runs with new
ones. -/
theorem renewal_of_run (world : World (StateM σ)) (runner : Runner (StateM σ))
    (scenario : Scenario (StateM σ)) (given : Context) (s : σ) :
    (∀ cause, scenario.check = .error cause →
      (run world runner scenario given).run s = ((.error (.structural cause), runner), s) ∧
      Observed world runner scenario given s [] (.error (.structural cause)) runner.last) ∧
    (scenario.check = .ok () → ∃ calls report outcome last after,
      told runner.registry report <:+ calls ∧
      (∀ returned, outcome = .ok returned → returned = report) ∧
      ∀ earlier,
        (run world { runner with last := earlier } scenario given).run s =
          ((outcome, { runner with last := last }), after) ∧
        Observed world { runner with last := earlier } scenario given s calls outcome last) ∧
    ∀ runs, Prod.fst <$> runInTurn world runner runs =
      runs.mapM (outcomeAfresh world runner.config runner.registry) := by
  refine ⟨fun cause hunfit => ⟨?_, observed_of_unfit runner hunfit given s⟩, fun hfit => ?_,
    outcomes_runInTurn world runner⟩
  · rw [run_of_unfit world runner hunfit]
    rfl
  · obtain ⟨calls, report, outcome, last, ⟨after, hrun, hobserve⟩, hhistory⟩ :=
      @exists_history σ world scenario runner hfit given s
    refine ⟨calls, report, outcome, last, after, hhistory.told_suffix, hhistory.returned, ?_⟩
    intro earlier
    have hplain := run_withLast world runner given hfit earlier
    have hnoted := observe_withLast world runner hfit given earlier
    exact ⟨by rw [hplain, hrun], after, by rw [hplain, hrun], by rw [hnoted, hobserve]⟩

end HttpScenario
