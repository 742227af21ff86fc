import HttpScenario.CommandLine.Parser
import HttpScenario.Report.Reporters
import HttpScenario.Runner
import HttpScenario.Scenario.Loader
import HttpScenario.Transport

/-! The command line: loads scenarios, runs each of them on its own, and tells how that went. -/

namespace HttpScenario.CommandLine

structure Surroundings (m : Type → Type) where
  link : Link m
  files : Files m
  draw : Nat → m Nat
  now : m Nat

namespace Surroundings

variable {m : Type → Type} [Monad m]

def log (s : Surroundings m) (line : LogLine) : m Unit := s.link.log line

def world (s : Surroundings m) (config : Config) : World m :=
  ⟨Transport.send s.link config, s.link.wait, s.draw, s.now, s.link.log⟩

def runner (s : Surroundings m) (options : Options) (config : Config) : Runner m :=
  let registry := (Registry.builtin s.draw s.now).registerReporter "log"
    (.logging s.log config.verbose)
  Runner.new config <| options.reportDirectory.elim registry fun directory =>
    registry.registerReporter "file"
      (.saving s.files s.now s.log directory options.reportFormat)

end Surroundings

variable {m : Type → Type} [Monad m]

def usualDirectories : List String := ["tests/scenarios", "scenarios"]

def withPresent (loader : Loader m) : List String → m (Loader m)
  | [] => return loader
  | directory :: rest => do
    let kind ← loader.files.kind? directory
    withPresent (if kind.isSome then loader.withDirectory directory else loader) rest

def load (loader : Loader m) : Option String → m (Except Failure (List (Scenario m)))
  | none => return .ok (← loader.loadAll)
  | some path => do
    match ← loader.files.kind? path with
    | some .file =>
      return match ← loader.loadFile path with
        | .ok scenario => .ok [scenario]
        | .error failure => .error (failure.within ("Failed to load scenario: " ++ path))
    | some .directory =>
      return (← loader.loadDirectory path).mapError fun failure =>
        failure.within ("Failed to load scenarios from directory: " ++ path)
    | none => return .error (.ofText ("Path does not exist: " ++ path))

def loadScenarios (s : Surroundings m) (path : Option String) :
    m (Except Failure (List (Scenario m))) := do
  let loader ← withPresent (Loader.new s.files s.log) usualDirectories
  return match ← load loader path with
    | .ok [] => .error (.ofText "No scenarios found")
    | loaded => loaded

def runOne (s : Surroundings m) (options : Options) (scenario : Scenario m) :
    m (Except RunError Report) := do
  let config := options.override scenario.config
  let (outcome, _) ←
    (s.runner options config).run (s.world config) scenario options.given
  if let .error error := outcome then
    s.log ⟨.error, Report.red s!"Scenario failed: {scenario.name} - {error.message}"⟩
  return outcome

def runEach (s : Surroundings m) (options : Options) (total ordinal : Nat) :
    List (Scenario m) → m (List (Except RunError Report))
  | [] => return []
  | scenario :: rest => do
    s.log ⟨.info, s!"Scenario {ordinal}/{total}: {scenario.name}"⟩
    let outcome ← runOne s options scenario
    return outcome :: (← runEach s options total (ordinal + 1) rest)

structure Tally where
  passed : Nat
  failed : Nat
deriving DecidableEq

namespace Tally

def ofOutcomes (outcomes : List (Except RunError Report)) : Tally :=
  ⟨outcomes.countP Except.isOk, outcomes.countP fun outcome => !outcome.isOk⟩

def total (tally : Tally) : Nat := tally.passed + tally.failed

def toFields (tally : Tally) : Fields Json :=
  [("total", .nat tally.total), ("passed", .nat tally.passed), ("failed", .nat tally.failed)]

def text (tally : Tally) (duration : Nat) : String :=
  "Summary:\n  Total: " ++ toString tally.total ++ "\n  " ++
    Report.green s!"Passed: {tally.passed}" ++ "\n  " ++
    Report.red s!"Failed: {tally.failed}" ++ s!"\n  Duration: {duration} ms"

end Tally

def runAll (s : Surroundings m) (options : Options) (scenarios : List (Scenario m)) :
    m (Except Failure Tally) := do
  let selected := scenarios.filter fun scenario => options.selects scenario.name
  if selected.isEmpty then
    return .error (.ofText "No scenarios matching the filter were found")
  let started ← s.now
  s.log ⟨.info, s!"Running {selected.length} scenario(s)..."⟩
  let tally := Tally.ofOutcomes (← runEach s options selected.length 1 selected)
  let ended ← s.now
  s.log ⟨.info, tally.text (ended - started)⟩
  return .ok tally

structure Ending where
  exitCode : Nat
  output : String
  errors : String
  tally : Option Tally

def versionText : String := "tauon 0.1.0"

def helpLine (name : Name) : String :=
  let short := name.short?.elim "    " fun c => "-" ++ String.singleton c ++ ", "
  let shown := "  " ++ short ++ name.shown
  String.ofList (shown.toList.rightpad 41 ' ') ++ name.about ++ "\n"

def helpText : String :=
  "Tauon - sequential HTTP scenario runner\n\nUsage: tauon [OPTIONS]\n\nOptions:\n" ++
    String.join (Name.all.map helpLine)

def failureText (failure : Failure) : String :=
  let numbered := failure.causes.zipIdx.map fun (cause, i) => s!"    {i}: {cause}"
  let causes := match failure.causes with
    | [] => []
    | [cause] => ["", "Caused by:", "    " ++ cause]
    | _ => ["", "Caused by:"] ++ numbered
  "Error: " ++ "\n".intercalate (failure.message :: causes)

namespace Ending

def ofStop : Stop → Ending
  | .help => ⟨0, helpText, "", none⟩
  | .version => ⟨0, versionText ++ "\n", "", none⟩
  | stop => ⟨2, "", s!"error: {stop.message}\n\nFor more information, try '--help'.\n", none⟩

def ofVerdict : Except Failure Tally → Ending
  | .ok tally => ⟨if tally.failed = 0 then 0 else 1, "", "", some tally⟩
  | .error failure => ⟨1, "", failureText failure ++ "\n", none⟩

end Ending

def execute (s : Surroundings m) (options : Options) : m Ending := do
  match ← loadScenarios s options.path with
  | .error failure => return .ofVerdict (.error failure)
  | .ok scenarios => return .ofVerdict (← runAll s options scenarios)

/-- The command line as a whole. The surroundings may depend on how much is to be told. -/
def run (surroundings : Options → Surroundings m) (environment : String → Option String)
    (arguments : List String) : m Ending :=
  match parse environment arguments with
  | .error stop => return .ofStop stop
  | .ok options => execute (surroundings options) options

end HttpScenario.CommandLine
