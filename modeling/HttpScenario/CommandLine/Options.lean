import HttpScenario.Config
import HttpScenario.Report.Format
import HttpScenario.Text.Part

/-! What the command line can ask for, and which scenarios and settings that comes to. -/

namespace HttpScenario.CommandLine

inductive Name
  | path
  | filter
  | var
  | baseUrl
  | timeout
  | dryRun
  | verbose
  | delay
  | retries
  | reportDirectory
  | reportFormat
  | help
  | version
deriving DecidableEq

namespace Name

def all : List Name :=
  [path, filter, var, baseUrl, timeout, dryRun, verbose, delay, retries, reportDirectory,
   reportFormat, help, version]

def long : Name → String
  | path => "path"
  | filter => "filter"
  | var => "var"
  | baseUrl => "base-url"
  | timeout => "timeout"
  | dryRun => "dry-run"
  | verbose => "verbose"
  | delay => "delay-ms"
  | retries => "retries"
  | reportDirectory => "report-dir"
  | reportFormat => "report-format"
  | help => "help"
  | version => "version"

def short? : Name → Option Char
  | path => some 'p'
  | filter => some 'f'
  | baseUrl => some 'b'
  | timeout => some 't'
  | verbose => some 'v'
  | reportDirectory => some 'r'
  | help => some 'h'
  | version => some 'V'
  | _ => none

def placeholder? : Name → Option String
  | path => some "SCENARIO_PATH"
  | filter => some "FILTER"
  | var => some "KEY=VALUE"
  | baseUrl => some "BASE_URL"
  | timeout => some "TIMEOUT"
  | delay => some "DELAY_MS"
  | retries => some "RETRIES"
  | reportDirectory => some "REPORT_DIR"
  | reportFormat => some "REPORT_FORMAT"
  | _ => none

def fallback? : Name → Option String
  | baseUrl => some "TAUON_BASE_URL"
  | timeout => some "TAUON_TIMEOUT"
  | retries => some "TAUON_RETRIES"
  | _ => none

def repeats (name : Name) : Bool := name = var

def shown (name : Name) : String :=
  "--" ++ name.long ++ (name.placeholder?.elim "" fun value => " <" ++ value ++ ">")

def about : Name → String
  | path => "Scenario file or directory path"
  | filter => "Filter scenarios by name (partial match)"
  | var => "Initial variable, repeatable. Values are parsed as JSON when possible"
  | baseUrl => "Base URL override for all scenarios"
  | timeout => "Timeout in seconds per request"
  | dryRun => "Simulate responses instead of sending requests"
  | verbose => "Enable verbose logging"
  | delay => "Delay between steps in milliseconds"
  | retries => "Retries on network errors and 5xx responses"
  | reportDirectory => "Directory to save report files"
  | reportFormat => "Report output format [default: json] [possible values: json, yaml, text]"
  | help => "Print help"
  | version => "Print version"

end Name

structure Options where
  /-- A file or a directory; without one the usual directories are searched. -/
  path : Option String
  filter : Option String
  vars : List (String × Json)
  baseUrl : Option String
  timeout : Option Nat
  dryRun : Bool
  verbose : Bool
  delay : Option Nat
  retries : Option Nat
  reportDirectory : Option String
  reportFormat : ReportFormat

namespace Options

def default : Options := ⟨none, none, [], none, none, false, false, none, none, none, .json⟩

def override (options : Options) (config : Config) : Config :=
  { config with
    baseUrl := options.baseUrl.or config.baseUrl
    timeout := options.timeout.getD config.timeout
    delay := options.delay.getD config.delay
    retries := options.retries.getD config.retries
    dryRun := config.dryRun || options.dryRun
    verbose := config.verbose || options.verbose }

/-- The variables of a run: of those with one name, the last. -/
def given (options : Options) : Fields Json := Fields.ofList options.vars

def selects (options : Options) (name : String) : Bool :=
  options.filter.all fun part => Text.holds (Text.toLower name) (Text.toLower part)

end Options

end HttpScenario.CommandLine
