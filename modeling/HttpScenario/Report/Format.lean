import HttpScenario.Json.Printer
import HttpScenario.Report
import HttpScenario.Yaml.Printer

/-! Reports as the text of files: JSON, YAML, or lines to be read by people. -/

namespace HttpScenario

inductive ReportFormat
  | json
  | yaml
  | text
deriving DecidableEq

namespace ReportFormat

def all : List ReportFormat := [json, yaml, text]

def name : ReportFormat → String
  | json => "json"
  | yaml => "yaml"
  | text => "text"

def extension : ReportFormat → String
  | json => "json"
  | yaml => "yaml"
  | text => "txt"

def ofName? (text : String) : Option ReportFormat := all.find? fun format => format.name == text

theorem ofName?_name (format : ReportFormat) : ofName? format.name = some format := by
  cases format <;> decide

end ReportFormat

namespace Report

def verdict (success : Bool) : String := if success then "PASS" else "FAIL"

def errorLines (indent : String) (error : Option String) : List String :=
  (error.map fun message => indent ++ "Error: " ++ message).toList

def stepLines (result : StepResult) : List String :=
  s!"  {result.index}. {result.step} ({verdict result.success})" ::
    errorLines "     " result.error ++ [s!"     Duration: {result.duration} ms"]

def lines (report : Report) : List String :=
  let summary := report.summary
  [s!"Scenario: {report.scenarioName}", s!"Status: {verdict report.success}"] ++
    errorLines "" report.error ++
    [s!"Timestamp: {report.timestamp}", s!"Duration: {report.duration} ms",
     s!"Summary: {summary.total} total, {summary.successful} successful, {summary.failed} failed",
     "", "Steps:"] ++ report.results.flatMap stepLines

def content (report : Report) : ReportFormat → String
  | .json => report.toJson.indented
  | .yaml => Yaml.Printer.text report.toJson
  | .text => String.join (report.lines.map (· ++ "\n"))

/-- A name of a file: blanks and slashes become underscores, and the time tells runs apart. -/
def fileName (report : Report) (format : ReportFormat) (millis : Nat) : String :=
  let safe := report.scenarioName.map fun c => if c = ' ' ∨ c = '/' then '_' else c
  s!"{safe}-{millis}.{format.extension}"

end Report

end HttpScenario
