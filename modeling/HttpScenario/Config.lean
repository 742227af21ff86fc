import HttpScenario.Response

/-! Settings that all steps of a run share. -/

namespace HttpScenario

structure Config where
  baseUrl : Option String
  /-- Seconds that a request may take. -/
  timeout : Nat
  /-- Sent with every request, unless the step has a header of the same name. -/
  headers : Fields String
  dryRun : Bool
  verbose : Bool
  /-- Milliseconds between two steps. -/
  delay : Nat
  /-- Further attempts after a network error or an answer with a status from 500 on. -/
  retries : Nat
  /-- Milliseconds before the first further attempt; the second waits twice as long, and so on. -/
  retryDelay : Nat
  failOnErrorStatus : Bool
deriving DecidableEq

namespace Config

def default : Config := ⟨none, 30, [], false, false, 0, 0, 1000, true⟩

instance : Inhabited Config := ⟨default⟩

def withBaseUrl (config : Config) (url : String) : Config := { config with baseUrl := some url }

def withHeader (config : Config) (name value : String) : Config :=
  { config with headers := config.headers.insert name value }

def withDryRun (config : Config) (enabled : Bool) : Config := { config with dryRun := enabled }

def timeoutMillis (config : Config) : Nat := 1000 * config.timeout

def retryDelayBefore (config : Config) (attempt : Nat) : Nat := config.retryDelay * attempt

def fieldNames : List String :=
  ["base_url", "timeout", "headers", "dry_run", "verbose", "delay_ms", "retries",
   "retry_delay_ms", "fail_on_error_status"]

def toJson (config : Config) : Json :=
  .object
    [("base_url", config.baseUrl.elim .null .string), ("timeout", .nat config.timeout),
     ("headers", Response.headersJson config.headers), ("dry_run", .bool config.dryRun),
     ("verbose", .bool config.verbose), ("delay_ms", .nat config.delay),
     ("retries", .nat config.retries), ("retry_delay_ms", .nat config.retryDelay),
     ("fail_on_error_status", .bool config.failOnErrorStatus)]

def spellings : List (String × String) :=
  [("baseUrl", "base_url"), ("dryRun", "dry_run"), ("delayMs", "delay_ms"),
   ("retryDelayMs", "retry_delay_ms"), ("failOnErrorStatus", "fail_on_error_status")]

def ofDocument? (doc : Document) : Option Config := do
  let fields ← doc.record? fieldNames spellings
  let word := Document.nat? (Nat.pow 2 64)
  let baseUrl ← Document.withDefault fields "base_url" none (Document.optional Document.text?)
  let timeout ← Document.withDefault fields "timeout" default.timeout word
  let headers ← Document.withDefault fields "headers" [] Document.textFields?
  let dryRun ← Document.withDefault fields "dry_run" false Document.bool?
  let verbose ← Document.withDefault fields "verbose" false Document.bool?
  let delay ← Document.withDefault fields "delay_ms" default.delay word
  let retries ← Document.withDefault fields "retries" default.retries (Document.nat? (Nat.pow 2 32))
  let retryDelay ← Document.withDefault fields "retry_delay_ms" default.retryDelay word
  let failOnErrorStatus ← Document.withDefault fields "fail_on_error_status" true Document.bool?
  return ⟨baseUrl, timeout, headers, dryRun, verbose, delay, retries, retryDelay,
    failOnErrorStatus⟩

end Config

end HttpScenario
