import HttpScenario.Json.Basic

/-! Problems that end nothing: diagnostics, which belong to a key and are part of results, and log
lines. -/

namespace HttpScenario

structure Diagnostic where
  key : String
  message : String
deriving DecidableEq

namespace Diagnostic

def text (d : Diagnostic) : String := s!"{d.key}: {d.message}"

def toJson (d : Diagnostic) : Json :=
  .object [("key", .string d.key), ("message", .string d.message)]

end Diagnostic

inductive LogLevel
  | error
  | warn
  | info
  | debug
deriving DecidableEq

def LogLevel.name : LogLevel → String
  | error => "ERROR"
  | warn => "WARN"
  | info => "INFO"
  | debug => "DEBUG"

structure LogLine where
  level : LogLevel
  message : String
deriving DecidableEq

namespace LogLine

def text (line : LogLine) : String := s!"{line.level.name} {line.message}"

def warning (message : String) : LogLine := ⟨.warn, message⟩

end LogLine

end HttpScenario
