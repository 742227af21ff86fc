import HttpScenario.Files
import HttpScenario.Registry
import HttpScenario.Report.Format

/-! Reporters: one writes reports into the log, another saves them as files. -/

namespace HttpScenario

namespace Report

def green (text : String) : String := "\x1b[32m" ++ text ++ "\x1b[0m"

def red (text : String) : String := "\x1b[31m" ++ text ++ "\x1b[0m"

def truncated (limit : Nat) (text : String) : String :=
  let cs := text.toList
  if limit < cs.length then String.ofList (cs.take limit) ++ "...(truncated)" else text

def responseLines (response : Response) : List LogLine :=
  [⟨.debug, s!"     Response: {response.status} {response.statusText}"⟩,
   ⟨.debug, "     Response body: " ++ truncated 500 response.data.compact⟩]

def stepLog (verbose : Bool) (result : StepResult) : List LogLine :=
  let mark := if result.success then green "✓" else red "✗"
  ⟨.info, s!"  {result.index}. {mark} {result.step} ({result.duration} ms)"⟩ ::
    (result.error.map fun error => ⟨.error, "     " ++ red ("Error: " ++ error)⟩).toList ++
    (result.diagnostics.map fun d => ⟨.debug, "     " ++ d.text⟩) ++
    (if verbose then (result.response.map responseLines).getD [] else [])

def log (report : Report) (verbose : Bool) : List LogLine :=
  let status := if report.success then green "PASS" else red "FAIL"
  let summary := report.summary
  let counts :=
    s!"total: {summary.total}, successful: {summary.successful}, failed: {summary.failed}"
  ⟨.info, s!"{status} scenario: {report.scenarioName} ({report.duration} ms)"⟩ ::
    report.results.flatMap (stepLog verbose) ++ [⟨.info, "  " ++ counts⟩]

end Report

namespace Reporter

variable {m : Type → Type} [Monad m]

def logAll (log : LogLine → m Unit) : List LogLine → m Unit
  | [] => return ()
  | line :: rest => do
    log line
    logAll log rest

def logging (log : LogLine → m Unit) (verbose : Bool) : Reporter m := fun report => do
  logAll log (report.log verbose)
  return .ok ()

def save (files : Files m) (now : m Nat) (directory : String) (format : ReportFormat)
    (report : Report) : m (Except Failure String) := do
  match ← files.makeDirectory directory with
  | .error error => return .error (.ofText error.message)
  | .ok () =>
    let path := FilePath.join directory (report.fileName format (← now))
    return (← files.write path (report.content format)).map (fun _ => path)
      |>.mapError fun error => .ofText error.message

def saving (files : Files m) (now : m Nat) (log : LogLine → m Unit) (directory : String)
    (format : ReportFormat) : Reporter m := fun report => do
  match ← save files now directory format report with
  | .error failure => return .error failure
  | .ok path =>
    log ⟨.info, "Report saved: " ++ path⟩
    return .ok ()

end Reporter

end HttpScenario
