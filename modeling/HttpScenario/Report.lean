import HttpScenario.Diagnostic
import HttpScenario.Placeholder
import HttpScenario.Response

/-! What is known of a run once it has ended. -/

namespace HttpScenario

structure StepResult where
  step : String
  /-- The place in the scenario; the first step has number 1. -/
  index : Nat
  success : Bool
  response : Option Response
  error : Option String
  extracted : Context
  diagnostics : List Diagnostic
  /-- Milliseconds the step took. -/
  duration : Nat

namespace StepResult

def toJson (result : StepResult) : Json :=
  .object
    [("step", .string result.step), ("index", .nat result.index), ("success", .bool result.success),
     ("response", result.response.elim .null Response.toJson),
     ("error", result.error.elim .null .string), ("extracted", .object result.extracted),
     ("diagnostics", .array (result.diagnostics.map Diagnostic.toJson)),
     ("durationMs", .nat result.duration)]

end StepResult

structure Summary where
  total : Nat
  successful : Nat
  failed : Nat
deriving DecidableEq

namespace Summary

def ofResults (results : List StepResult) : Summary :=
  let successful := results.countP StepResult.success
  ⟨results.length, successful, results.length - successful⟩

def toJson (summary : Summary) : Json :=
  .object
    [("total", .nat summary.total), ("successful", .nat summary.successful),
     ("failed", .nat summary.failed)]

end Summary

structure Report where
  scenarioName : String
  success : Bool
  error : Option String
  results : List StepResult
  context : Context
  timestamp : String
  summary : Summary
  /-- Milliseconds the run took. -/
  duration : Nat

namespace Report

def toJson (report : Report) : Json :=
  .object
    [("scenarioName", .string report.scenarioName), ("success", .bool report.success),
     ("error", report.error.elim .null .string),
     ("results", .array (report.results.map StepResult.toJson)),
     ("context", .object report.context), ("timestamp", .string report.timestamp),
     ("summary", report.summary.toJson), ("durationMs", .nat report.duration)]

end Report

end HttpScenario
