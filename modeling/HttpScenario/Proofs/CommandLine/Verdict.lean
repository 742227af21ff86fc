import HttpScenario.Proofs.CommandLine.Readings
import HttpScenario.Proofs.Schema.Reading
import HttpScenario.Proofs.Validation.Condition

/-! The verdict of the command line. The scenarios that the filter selects are run in order, whatever
becomes of those before, and each has the outcome that it has on its own. All is well if there are
any and none of them fails. -/

namespace HttpScenario

theorem Step.isWritten_of_ofDocument? {m : Type → Type} {doc : Document} {step : Step m}
    (h : Step.ofDocument? doc = some step) : step.IsWritten := by
  simp only [ofDocument?, Option.bind_eq_bind, Option.bind_eq_some_iff] at h
  obtain ⟨fields, -, name, -, kind, -, method, -, url, -, body, hbody, headers, -, validate, -,
    extract, -, ⟨⟩⟩ := h
  cases body with
  | none => exact ⟨none, rfl⟩
  | some template =>
    obtain ⟨doc, hread⟩ := Schema.of_argument? hbody
    obtain ⟨json, -, rfl⟩ := Option.map_eq_some_iff.1 hread
    exact ⟨some json, rfl⟩

namespace Scenario

variable {m : Type → Type} {scenario : Scenario m}

theorem isWritten_of_ofDocument? {doc : Document} (h : ofDocument? doc = some scenario) :
    scenario.IsWritten := by
  simp only [ofDocument?, Option.bind_eq_bind, Option.bind_eq_some_iff] at h
  obtain ⟨fields, -, name, -, description, -, tags, -, vars, -, config, -, steps, hsteps, ⟨⟩⟩ := h
  obtain ⟨docs, -, hread⟩ := Option.bind_eq_some_iff.1 hsteps
  obtain ⟨items, -, hitems⟩ := Option.bind_eq_some_iff.1 hread
  intro step hstep
  obtain ⟨item, -, hitem⟩ := Schema.exists_of_mem_mapM hitems hstep
  exact Step.isWritten_of_ofDocument? hitem

theorem isWritten_of_parse {format : SourceFormat} {text : String}
    (h : parse format text = .ok scenario) : scenario.IsWritten := by
  unfold parse at h
  split at h
  · cases h
  · next read hread =>
    obtain ⟨doc, -, hdoc⟩ := Option.bind_eq_some_iff.1 hread
    cases hcheck : read.check with
    | error cause =>
      rw [hcheck] at h
      cases h
    | ok =>
      rw [hcheck] at h
      cases h
      exact isWritten_of_ofDocument? hdoc

end Scenario

namespace CommandLine

open Transport

variable {σ : Type}

theorem Options.selects_iff {options : Options} {name : String} :
    options.selects name = true ↔
      ∀ part, options.filter = some part →
        (Text.toLower part).toList <:+: (Text.toLower name).toList := by
  unfold selects
  cases options.filter with
  | none => simp
  | some part => simp [Text.holds, Text.holdsList_iff]

theorem Options.get?_given (options : Options) (name : String) :
    options.given.get? name = Fields.get? options.vars.reverse name := by
  rw [given, Fields.ofList, Fields.get?_merge, Fields.get?_nil, Option.or_none]

theorem Tally.failed_ofOutcomes {outcomes : List (Except RunError Report)} :
    (Tally.ofOutcomes outcomes).failed = 0 ↔ ∀ outcome ∈ outcomes, ∃ report, outcome = .ok report := by
  have hok (outcome : Except RunError Report) :
      ¬(!outcome.isOk) = true ↔ ∃ report, outcome = .ok report := by
    cases outcome with
    | ok report => simp [Except.isOk, Except.toBool]
    | error error => simp [Except.isOk, Except.toBool]
  simp only [ofOutcomes, List.countP_eq_zero, hok]

theorem Ending.exitCode_ofVerdict (tally : Tally) :
    (Ending.ofVerdict (.ok tally)).exitCode = 0 ↔ tally.failed = 0 := by
  simp only [ofVerdict]
  split
  · next h => exact iff_of_true rfl h
  · next h => exact iff_of_false (by decide) h

/-- Scenarios are run one after the other, each from where the one before has ended. The outcome of
each is the one that it has on its own, with the same answers and with the readings made during its
run, however it is carried over. -/
inductive InTurn (s : Surroundings (StateM σ)) (answer : Outgoing → Except String Answer)
    (options : Options) (total : Nat) :
    Nat → σ → List (Scenario (StateM σ)) → List (Except RunError Report) → σ → Prop
  | done {ordinal state} : InTurn s answer options total ordinal state [] [] state
  | next {ordinal before start readings scenario rest outcome between outcomes after}
      (hstart : start =
        ((s.log ⟨.info, s!"Scenario {ordinal}/{total}: {scenario.name}"⟩).run before).2)
      (hrun : (runOne s options scenario).run start = (outcome, between))
      (hreads : Reads s start readings between)
      (halone : ∀ f later, ((alone answer options (scenario.hoist f)).run (readings ++ later)).1 =
        outcome)
      (hrest : InTurn s answer options total (ordinal + 1) between rest outcomes after) :
      InTurn s answer options total ordinal before (scenario :: rest) (outcome :: outcomes) after

section Runs

variable {s : Surroundings (StateM σ)} {answer : Outgoing → Except String Answer}

theorem exists_inTurn
    (hanswer : ∀ outgoing, Always (s.link.exchange outgoing) (answer outgoing)) (options : Options)
    (total ordinal : Nat) {scenarios : List (Scenario (StateM σ))}
    (hwritten : ∀ scenario ∈ scenarios, scenario.IsWritten) (before : σ) :
    ∃ outcomes after, InTurn s answer options total ordinal before scenarios outcomes after ∧
      (runEach s options total ordinal scenarios).run before = (outcomes, after) := by
  induction scenarios generalizing ordinal before with
  | nil => exact ⟨[], before, .done, rfl⟩
  | cons scenario rest ih =>
    have hfirst := hwritten scenario List.mem_cons_self
    let heading : LogLine := ⟨.info, s!"Scenario {ordinal}/{total}: {scenario.name}"⟩
    let start := ((s.log heading).run before).2
    obtain ⟨readings, hreads, halone⟩ :=
      agrees_runOne options hanswer hfirst (fun _ => pure .null) start
    rcases hrun : (runOne s options scenario).run start with ⟨outcome, between⟩
    rw [hrun] at hreads halone
    obtain ⟨outcomes, after, hrest, heach⟩ := ih (ordinal + 1)
      (fun other hother => hwritten other (List.mem_cons_of_mem _ hother)) between
    refine ⟨outcome :: outcomes, after, .next rfl hrun hreads (fun f later => ?_) hrest, ?_⟩
    · rw [Scenario.hoist_eq_of_isWritten hfirst f fun _ => pure .null]
      exact halone later
    · rw [runEach, run_bind, run_bind, hrun, run_bind, heach]
      rfl

end Runs

def selected (options : Options) (scenarios : List (Scenario (StateM σ))) :
    List (Scenario (StateM σ)) :=
  scenarios.filter fun scenario => options.selects scenario.name

theorem runAll_eq (s : Surroundings (StateM σ)) (options : Options)
    (scenarios : List (Scenario (StateM σ))) :
    let chosen := selected options scenarios
    runAll s options scenarios =
      if chosen.isEmpty then
        pure (.error (.ofText "No scenarios matching the filter were found"))
      else do
        let started ← s.now
        s.log ⟨.info, s!"Running {chosen.length} scenario(s)..."⟩
        let tally := Tally.ofOutcomes (← runEach s options chosen.length 1 chosen)
        let ended ← s.now
        s.log ⟨.info, tally.text (ended - started)⟩
        return .ok tally := rfl

/-- The filter selects the scenarios whose names hold it, upper and lower case being the same, and
there has to be one. They are run in order, each as if it were alone, with the variables that are
given, and the exit code is 0 if and only if all of them pass. -/
theorem verdict_of_runAll (s : Surroundings (StateM σ)) (options : Options)
    (scenarios : List (Scenario (StateM σ))) (answer : Outgoing → Except String Answer)
    (hloaded : ∀ scenario ∈ scenarios, ∃ format text, Scenario.parse format text = .ok scenario)
    (hanswer : ∀ outgoing, Always (s.link.exchange outgoing) (answer outgoing)) (state : σ) :
    (∀ name, options.selects name = true ↔ ∀ part, options.filter = some part →
      (Text.toLower part).toList <:+: (Text.toLower name).toList) ∧
    (∀ name, options.given.get? name = Fields.get? options.vars.reverse name) ∧
    (selected options scenarios = [] → (runAll s options scenarios).run state =
      (.error (.ofText "No scenarios matching the filter were found"), state)) ∧
    (selected options scenarios ≠ [] → ∃ opening start outcomes finished closing after,
      Reads s state opening start ∧
      InTurn s answer options (selected options scenarios).length 1 start
        (selected options scenarios) outcomes finished ∧
      Reads s finished closing after ∧
      (runAll s options scenarios).run state = (.ok (Tally.ofOutcomes outcomes), after) ∧
      ((Ending.ofVerdict (.ok (Tally.ofOutcomes outcomes))).exitCode = 0 ↔
        ∀ outcome ∈ outcomes, ∃ report, outcome = .ok report)) := by
  have hwritten : ∀ scenario ∈ selected options scenarios, scenario.IsWritten := by
    intro scenario hscenario
    obtain ⟨format, text, hparse⟩ := hloaded scenario (List.mem_filter.1 hscenario).1
    exact Scenario.isWritten_of_parse hparse
  refine ⟨fun _ => options.selects_iff, options.get?_given, fun hnone => ?_, fun hsome => ?_⟩
  · rw [runAll_eq, hnone]
    rfl
  · let heading : LogLine := ⟨.info, s!"Running {(selected options scenarios).length} scenario(s)..."⟩
    let start := ((s.log heading).run (s.now.run state).2).2
    obtain ⟨outcomes, finished, hturn, heach⟩ :=
      exists_inTurn hanswer options (selected options scenarios).length 1 hwritten start
    have hopening : Reads s state [(s.now.run state).1] start := .now (.log .done)
    let duration := (s.now.run finished).1 - (s.now.run state).1
    let summary : LogLine := ⟨.info, (Tally.ofOutcomes outcomes).text duration⟩
    have hclosing : Reads s finished [(s.now.run finished).1]
        ((s.log summary).run (s.now.run finished).2).2 := .now (.log .done)
    refine ⟨_, start, outcomes, finished, _, _, hopening, hturn, hclosing, ?_, ?_⟩
    · have hcount := fun h => hsome (List.isEmpty_iff.1 h)
      rw [runAll_eq, if_neg hcount, run_bind, run_bind, run_bind, heach]
      rfl
    · rw [Ending.exitCode_ofVerdict, Tally.failed_ofOutcomes]

namespace Sample

def answer (_ : Outgoing) : Except String Answer := .ok ⟨200, [], "pong", 0⟩

def ticking : Surroundings (StateM Nat) where
  link := ⟨fun outgoing => pure (answer outgoing), fun _ => pure (), fun _ => pure ()⟩
  files := FileTree.access fun change => pure (change tree).1
  draw bound := pure (bound - 1)
  now := modifyGet fun time => (time, time + 1)

/-- The step of the first is of a type that nobody handles, and it has no method to be sent with. -/
def texts : List String :=
  ["\x7b\"name\":\"Ping\",\"steps\":[\x7b\"name\":\"a\",\"type\":\"wait\"\x7d]\x7d",
   "\x7b\"name\":\"Other\",\"steps\":[\x7b\"name\":\"b\",\"type\":\"wait\"\x7d]\x7d",
   "\x7b\"name\":\"Pins\",\"steps\":[\x7b\"name\":\"c\",\"method\":\"GET\",\"url\":\"http://h/c\"\x7d]\x7d"]

def scenarios : List (Scenario (StateM Nat)) :=
  texts.filterMap fun text => (Scenario.parse .json text).toOption

def options : Options :=
  { Options.default with filter := some "pin", vars := [("who", .nat 1), ("who", .nat 2)] }

theorem exists_parse (scenario : Scenario (StateM Nat)) (h : scenario ∈ scenarios) :
    ∃ format text, Scenario.parse format text = .ok scenario := by
  obtain ⟨text, -, htext⟩ := List.mem_filterMap.1 h
  cases hparse : (Scenario.parse .json text : Except Scenario.Error (Scenario (StateM Nat))) with
  | error error =>
    rw [hparse] at htext
    cases htext
  | ok read =>
    rw [hparse] at htext
    cases htext
    exact ⟨.json, text, hparse⟩

end Sample

theorem verdict_of_sample_runAll :
    (∀ scenario ∈ Sample.scenarios, ∃ format text, Scenario.parse format text = .ok scenario) ∧
    (∀ outgoing, Always (Sample.ticking.link.exchange outgoing) (Sample.answer outgoing)) ∧
    (selected Sample.options Sample.scenarios).map Scenario.name = ["Ping", "Pins"] ∧
    ∃ opening start outcomes finished closing after,
      Reads Sample.ticking 0 opening start ∧
      InTurn Sample.ticking Sample.answer Sample.options
        (selected Sample.options Sample.scenarios).length 1 start
        (selected Sample.options Sample.scenarios) outcomes finished ∧
      Reads Sample.ticking finished closing after ∧
      (runAll Sample.ticking Sample.options Sample.scenarios).run 0 = (.ok ⟨1, 1⟩, after) ∧
      (Ending.ofVerdict (.ok ⟨1, 1⟩)).exitCode = 1 := by
  have hanswer (outgoing : Outgoing) :
      Always (Sample.ticking.link.exchange outgoing) (Sample.answer outgoing) := .pure _
  have hnames : (selected Sample.options Sample.scenarios).map Scenario.name = ["Ping", "Pins"] := by
    decide +kernel
  have hsome : selected Sample.options Sample.scenarios ≠ [] := by
    intro hnone
    rw [hnone] at hnames
    cases hnames
  have htally : ((runAll Sample.ticking Sample.options Sample.scenarios).run 0).1.toOption =
      some ⟨1, 1⟩ := by decide +kernel
  obtain ⟨-, -, -, hruns⟩ := verdict_of_runAll Sample.ticking Sample.options Sample.scenarios
    Sample.answer Sample.exists_parse hanswer 0
  obtain ⟨opening, start, outcomes, finished, closing, after, hopening, hturn, hclosing, hrun, -⟩ :=
    hruns hsome
  rw [hrun] at htally
  rw [Option.some.inj htally] at hrun
  exact ⟨Sample.exists_parse, hanswer, hnames, opening, start, outcomes, finished, closing, after,
    hopening, hturn, hclosing, hrun, rfl⟩

end CommandLine

end HttpScenario
