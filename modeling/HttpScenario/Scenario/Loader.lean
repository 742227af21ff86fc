import HttpScenario.Diagnostic
import HttpScenario.Failure
import HttpScenario.Files
import HttpScenario.Scenario.Form

/-! Loading scenarios from files and directories. -/

namespace HttpScenario

structure Loader (m : Type → Type) where
  files : Files m
  log : LogLine → m Unit
  directories : List String

namespace Loader

variable {m : Type → Type}

def new (files : Files m) (log : LogLine → m Unit) : Loader m := ⟨files, log, ["tests/scenarios"]⟩

def withDirectory (loader : Loader m) (directory : String) : Loader m :=
  { loader with directories := loader.directories ++ [directory] }

def formatOf (path : String) : SourceFormat :=
  if FilePath.extension? path = some "json" then .json else .yaml

def isScenarioFile (path : String) : Bool :=
  (FilePath.extension? path).any fun extension => ["yaml", "yml", "json"].contains extension

variable [Monad m]

def loadFile (loader : Loader m) (path : String) : m (Except Failure (Scenario m)) := do
  loader.log ⟨.info, "Loading scenario from " ++ path⟩
  match ← loader.files.read path with
  | .error error => return .error ⟨"Failed to read scenario file: " ++ path, [error.message]⟩
  | .ok text =>
    match Scenario.parse (formatOf path) text with
    | .error error => return .error ⟨"Invalid scenario in " ++ path, [error.message]⟩
    | .ok scenario =>
      loader.log ⟨.debug, "Successfully loaded scenario: " ++ scenario.name⟩
      return .ok scenario

def scenarioFiles (loader : Loader m) : List String → m (List String)
  | [] => return []
  | path :: rest => do
    let kind ← loader.files.kind? path
    let others ← scenarioFiles loader rest
    return if kind = some .file ∧ isScenarioFile path then path :: others else others

def loadEach (loader : Loader m) : List String → m (List (Scenario m))
  | [] => return []
  | path :: rest => do
    match ← loader.loadFile path with
    | .ok scenario => return scenario :: (← loadEach loader rest)
    | .error failure =>
      loader.log (.warning s!"Skipping {path}: {failure.fullText}")
      loadEach loader rest

def loadDirectory (loader : Loader m) (directory : String) :
    m (Except Failure (List (Scenario m))) := do
  loader.log ⟨.info, "Loading scenarios from directory: " ++ directory⟩
  match ← loader.files.list directory with
  | .error error => return .error ⟨"Failed to read directory: " ++ directory, [error.message]⟩
  | .ok names =>
    let sorted := names.mergeSort fun a b => a ≤ b
    let paths ← loader.scenarioFiles (sorted.map (FilePath.join directory))
    let scenarios ← loader.loadEach paths
    loader.log ⟨.info, s!"Loaded {scenarios.length} scenarios from {directory}"⟩
    return .ok scenarios

/-- Loads what a directory holds, which is nothing if it is none or cannot be listed. -/
def loadPresent (loader : Loader m) (directory : String) : m (List (Scenario m)) := do
  if (← loader.files.kind? directory) = some .directory then
    match ← loader.loadDirectory directory with
    | .ok scenarios => return scenarios
    | .error failure =>
      loader.log ⟨.debug, s!"Failed to load scenarios from {directory}: {failure.message}"⟩
      return []
  else return []

def loadFrom (loader : Loader m) : List String → m (List (Scenario m))
  | [] => return []
  | directory :: rest => do
    let scenarios ← loader.loadPresent directory
    return scenarios ++ (← loadFrom loader rest)

def loadAll (loader : Loader m) : m (List (Scenario m)) := do
  let scenarios ← loader.loadFrom loader.directories
  loader.log ⟨.info, s!"Loaded {scenarios.length} scenarios in total"⟩
  return scenarios

end Loader

end HttpScenario
