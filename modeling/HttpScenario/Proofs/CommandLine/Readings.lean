import HttpScenario.CommandLine
import HttpScenario.Proofs.Loading
import HttpScenario.Proofs.Run.Parametric
import HttpScenario.Proofs.Run.Session

/-! What a scenario is told by its surroundings: how they answer its requests, and the readings of
the clock and of the source of random numbers. Where answers do not depend on earlier requests, the
outcome of a scenario is one that it also has on its own, with the same answers and readings. -/

namespace HttpScenario

open Transport

namespace CommandLine

variable {σ α β : Type}

/-- What surroundings do one after the other, and the readings of the clock and of the source of
random numbers among it. -/
inductive Reads (s : Surroundings (StateM σ)) : σ → List Nat → σ → Prop
  | done {state} : Reads s state [] state
  | exchange {outgoing before readings after}
      (h : Reads s ((s.link.exchange outgoing).run before).2 readings after) :
      Reads s before readings after
  | wait {millis before readings after}
      (h : Reads s ((s.link.wait millis).run before).2 readings after) :
      Reads s before readings after
  | log {line before readings after} (h : Reads s ((s.log line).run before).2 readings after) :
      Reads s before readings after
  | makeDirectory {path before readings after}
      (h : Reads s ((s.files.makeDirectory path).run before).2 readings after) :
      Reads s before readings after
  | write {path content before readings after}
      (h : Reads s ((s.files.write path content).run before).2 readings after) :
      Reads s before readings after
  | draw {bound before readings after}
      (h : Reads s ((s.draw bound).run before).2 readings after) :
      Reads s before (((s.draw bound).run before).1 :: readings) after
  | now {before readings after} (h : Reads s (s.now.run before).2 readings after) :
      Reads s before ((s.now.run before).1 :: readings) after

variable {s : Surroundings (StateM σ)}

theorem Reads.trans {before between after : σ} {readings later : List Nat}
    (h : Reads s before readings between) (hlater : Reads s between later after) :
    Reads s before (readings ++ later) after := by
  induction h with
  | done => exact hlater
  | exchange _ ih => exact .exchange (ih hlater)
  | wait _ ih => exact .wait (ih hlater)
  | log _ ih => exact .log (ih hlater)
  | makeDirectory _ ih => exact .makeDirectory (ih hlater)
  | write _ ih => exact .write (ih hlater)
  | draw _ ih => exact .draw (ih hlater)
  | now _ ih => exact .now (ih hlater)

def reporters (s : Surroundings (StateM σ)) (options : Options) (config : Config) :
    Fields (Reporter (StateM σ)) :=
  ("log", .logging s.log config.verbose) :: options.reportDirectory.toList.map fun directory =>
    ("file", .saving s.files s.now s.log directory options.reportFormat)

theorem registry_runner (s : Surroundings (StateM σ)) (options : Options) (config : Config) :
    (s.runner options config).registry =
      { Registry.builtin s.draw s.now with reporters := reporters s options config } := by
  unfold Surroundings.runner reporters
  cases options.reportDirectory <;> rfl

def Operates (s : Surroundings (StateM σ)) (x : StateM σ α) : Prop :=
  ∀ before, ∃ readings, Reads s before readings (x.run before).2

namespace Operates

protected theorem pure (a : α) : Operates s (pure a) := fun _ => ⟨[], .done⟩

protected theorem bind {x : StateM σ α} {f : α → StateM σ β} (hx : Operates s x)
    (hf : ∀ a, Operates s (f a)) : Operates s (x >>= f) := by
  intro before
  obtain ⟨readings, hreads⟩ := hx before
  obtain ⟨later, hlater⟩ := hf (x.run before).1 (x.run before).2
  exact ⟨readings ++ later, hreads.trans hlater⟩

theorem log (line : LogLine) : Operates s (s.log line) := fun _ => ⟨[], .log .done⟩

theorem logAll (lines : List LogLine) : Operates s (Reporter.logAll s.log lines) := by
  induction lines with
  | nil => exact .pure ()
  | cons line rest ih => exact .bind (log line) fun _ => ih

theorem logging (verbose : Bool) (report : Report) :
    Operates s (Reporter.logging s.log verbose report) :=
  .bind (logAll _) fun _ => .pure _

theorem saving (directory : String) (format : ReportFormat) (report : Report) :
    Operates s (Reporter.saving s.files s.now s.log directory format report) := by
  have hsave : Operates s (Reporter.save s.files s.now directory format report) := by
    have hmake : Operates s (s.files.makeDirectory directory) :=
      fun _ => ⟨[], .makeDirectory .done⟩
    refine .bind hmake fun made => ?_
    cases made with
    | error error => exact .pure _
    | ok =>
      have hnow : Operates s s.now := fun _ => ⟨_, .now .done⟩
      have hwrite (path content : String) : Operates s (s.files.write path content) :=
        fun _ => ⟨[], .write .done⟩
      exact .bind hnow fun _ => .bind (hwrite _ _) fun _ => .pure _
  refine .bind hsave fun saved => ?_
  cases saved with
  | error failure => exact .pure _
  | ok path => exact .bind (log _) fun _ => .pure _

theorem reporter {options : Options} {config : Config} {entry : String × Reporter (StateM σ)}
    (hentry : entry ∈ reporters s options config) (report : Report) :
    Operates s (entry.2 report) := by
  rcases List.mem_cons.1 hentry with rfl | hfile
  · exact logging _ report
  · obtain ⟨directory, -, rfl⟩ := List.mem_map.1 hfile
    exact saving directory options.reportFormat report

theorem tell {world : World (StateM σ)} (hworld : world.log = s.log) (report : Report)
    {reporters : Fields (Reporter (StateM σ))}
    (h : ∀ entry ∈ reporters, Operates s (entry.2 report)) :
    Operates s (Runner.tell world report reporters) := by
  induction reporters with
  | nil => exact .pure ()
  | cons entry rest ih =>
    have hrest := ih fun other hother => h other (List.mem_cons_of_mem _ hother)
    refine .bind (h entry List.mem_cons_self) fun told => ?_
    cases told with
    | ok => exact hrest
    | error failure =>
      have hwarn : Operates s (world.log ⟨.warn, s!"Reporter '{entry.1}' failed: {failure.fullText}"⟩) :=
        hworld ▸ log _
      exact .bind hwarn fun _ => hrest

end Operates

/-- The computation does what the other one does from the readings alone. -/
def Replays (s : Surroundings (StateM σ)) (x : StateM σ α) (y : StateM (List Nat) α) : Prop :=
  ∀ before, ∃ readings, Reads s before readings (x.run before).2 ∧
    ∀ later, y.run (readings ++ later) = ((x.run before).1, later)

def Agrees (s : Surroundings (StateM σ)) (x : StateM σ α) (y : StateM (List Nat) α) : Prop :=
  ∀ before, ∃ readings, Reads s before readings (x.run before).2 ∧
    ∀ later, (y.run (readings ++ later)).1 = (x.run before).1

theorem run_bind (x : StateM σ α) (f : α → StateM σ β) (state : σ) :
    (x >>= f).run state = (f (x.run state).1).run (x.run state).2 := rfl

theorem Replays.split {x : StateM σ α} {y : StateM (List Nat) α} (h : Replays s x y) (before : σ)
    (g : α → StateM (List Nat) β) :
    ∃ readings, Reads s before readings (x.run before).2 ∧
      ∀ more later,
        (y >>= g).run (readings ++ more ++ later) = (g (x.run before).1).run (more ++ later) := by
  obtain ⟨readings, hreads, hy⟩ := h before
  refine ⟨readings, hreads, fun more later => ?_⟩
  rw [List.append_assoc, run_bind, hy]

theorem Replays.pure (a : α) : Replays s (pure a) (pure a) := fun _ => ⟨[], .done, fun _ => rfl⟩

theorem Replays.bind {x : StateM σ α} {y : StateM (List Nat) α} {f : α → StateM σ β}
    {g : α → StateM (List Nat) β} (hx : Replays s x y) (hf : ∀ a, Replays s (f a) (g a)) :
    Replays s (x >>= f) (y >>= g) := by
  intro before
  obtain ⟨readings, hreads, hy⟩ := hx.split before g
  obtain ⟨more, hmore, hg⟩ := hf (x.run before).1 (x.run before).2
  exact ⟨readings ++ more, hreads.trans hmore, fun later => (hy more later).trans (hg later)⟩

theorem Agrees.bind {x : StateM σ α} {y : StateM (List Nat) α} {f : α → StateM σ β}
    {g : α → StateM (List Nat) β} (hx : Replays s x y) (hf : ∀ a, Agrees s (f a) (g a)) :
    Agrees s (x >>= f) (y >>= g) := by
  intro before
  obtain ⟨readings, hreads, hy⟩ := hx.split before g
  obtain ⟨more, hmore, hg⟩ := hf (x.run before).1 (x.run before).2
  refine ⟨readings ++ more, hreads.trans hmore, fun later => ?_⟩
  rw [hy more later]
  exact hg later

theorem Agrees.of_always {x : StateM σ α} {y : StateM (List Nat) α} {a : α}
    (hoperates : Operates s x) (hx : Always x a) (hy : Always y a) : Agrees s x y := by
  intro before
  obtain ⟨readings, hreads⟩ := hoperates before
  exact ⟨readings, hreads, fun later => (hy _).trans (hx before).symm⟩

def replaying (s : Surroundings (StateM σ)) : Correspondence (StateM σ) (StateM (List Nat)) :=
  ⟨Replays s, Replays.pure, Replays.bind⟩

def reading : StateM (List Nat) Nat
  | [] => (0, [])
  | next :: rest => (next, rest)

def replayLink (answer : Outgoing → Except String Answer) : Link (StateM (List Nat)) :=
  ⟨fun outgoing => pure (answer outgoing), fun _ => pure (), fun _ => pure ()⟩

def replayWorld (answer : Outgoing → Except String Answer) (config : Config) :
    World (StateM (List Nat)) :=
  let link := replayLink answer
  ⟨Transport.send link config, link.wait, fun _ => reading, reading, link.log⟩

/-- A scenario on its own: the first run of a new runner, with no reporter, and in surroundings of
which nothing is known but their answers and their readings. -/
def alone (answer : Outgoing → Except String Answer) (options : Options)
    (scenario : Scenario (StateM (List Nat))) : StateM (List Nat) (Except RunError Report) :=
  let config := options.override scenario.config
  Runner.outcomeAfresh (replayWorld answer config) config
    (Registry.builtin (fun _ => reading) reading) (scenario, options.given)

section Alone

variable {answer : Outgoing → Except String Answer}
  (hanswer : ∀ outgoing, Always (s.link.exchange outgoing) (answer outgoing))

theorem replays_draw (bound : Nat) : Replays s (s.draw bound) reading := fun _ =>
  ⟨_, .draw .done, fun _ => rfl⟩

theorem replays_now : Replays s s.now reading := fun _ => ⟨_, .now .done, fun _ => rfl⟩

include hanswer

theorem links_replayLink : (replaying s).Links s.link (replayLink answer) where
  exchange outgoing before := ⟨[], .exchange .done, fun _ => by rw [hanswer outgoing before]; rfl⟩
  wait _ _ := ⟨[], .wait .done, fun _ => rfl⟩
  log _ _ := ⟨[], .log .done, fun _ => rfl⟩

theorem worlds_replayWorld (config : Config) :
    (replaying s).Worlds (s.world config) (replayWorld answer config) where
  send := Correspondence.send (links_replayLink hanswer) config
  wait := (links_replayLink hanswer).wait
  draw := replays_draw
  now := replays_now
  log := (links_replayLink hanswer).log

end Alone

theorem registries_builtin (options : Options) (config : Config) :
    (replaying s).Registries (s.runner options config).registry
      (Registry.builtin (fun _ => reading) reading) := by
  rw [registry_runner]
  exact ⟨rfl, rfl, Correspondence.builtin replays_draw replays_now, ⟨rfl, rfl⟩, fun _ => ⟨rfl, rfl⟩⟩

def remark (s : Surroundings (StateM σ)) (scenario : Scenario (StateM σ)) :
    Except RunError Report → StateM σ Unit
  | .ok _ => pure ()
  | .error error =>
    s.log ⟨.error, Report.red s!"Scenario failed: {scenario.name} - {error.message}"⟩

theorem operates_remark (scenario : Scenario (StateM σ)) (outcome : Except RunError Report) :
    Operates s (remark s scenario outcome) := by
  cases outcome with
  | ok report => exact .pure ()
  | error error => exact .log _

section Alone

variable (options : Options) {scenario : Scenario (StateM σ)}

theorem runOne_eq (scenario : Scenario (StateM σ)) :
    let config := options.override scenario.config
    runOne s options scenario =
      (s.runner options config).run (s.world config) scenario options.given >>= fun r =>
        remark s scenario r.1 >>= fun _ => pure r.1 := by
  intro config
  unfold runOne
  refine bind_congr fun r => ?_
  obtain ⟨outcome, _⟩ := r
  cases outcome <;> rfl

theorem agrees_runOne {answer : Outgoing → Except String Answer}
    (hanswer : ∀ outgoing, Always (s.link.exchange outgoing) (answer outgoing))
    (hwritten : scenario.IsWritten) (f : StateM σ Json → StateM (List Nat) Json) :
    Agrees s (runOne s options scenario) (alone answer options (scenario.hoist f)) := by
  have hcheck : (scenario.hoist f).check = scenario.check := Scenario.check_hoist f scenario
  rw [runOne_eq, alone, Runner.outcomeAfresh]
  cases hfit : scenario.check with
  | error cause =>
    rw [hfit] at hcheck
    rw [run_of_unfit _ _ hfit, run_of_unfit _ _ hcheck, pure_bind, map_pure]
    refine .of_always ?_ (.bind (.unit _) (.pure _)) (.pure _)
    exact .bind (operates_remark scenario _) fun _ => .pure _
  | ok =>
    rw [hfit] at hcheck
    rw [run_of_fit _ _ hfit, run_of_fit _ _ hcheck, Runner.conduct_eq, Runner.conduct_eq]
    simp only [bind_assoc, pure_bind, map_bind, map_pure]
    refine Agrees.bind (Correspondence.conclude (worlds_replayWorld hanswer _)
      (registries_builtin options _) hwritten _ _) fun r => ?_
    -- The report and the error are there. What the reporters do with the report comes to nothing.
    have hannounce : Operates s (Runner.announce (s.world (options.override scenario.config))
        (s.runner options (options.override scenario.config)).registry scenario r.1) := by
      rw [registry_runner]
      exact .bind (.tell rfl r.1 fun _ hentry => .reporter hentry r.1) fun _ => .log _
    refine .of_always ?_ (.bind (.unit _) (.bind (.unit _) (.pure _))) (.bind (.unit _) (.pure _))
    exact .bind hannounce fun _ => .bind (operates_remark scenario _) fun _ => .pure _

end Alone

end CommandLine

end HttpScenario
