import HttpScenario.Config
import HttpScenario.Diagnostic
import HttpScenario.Transport.Address
import HttpScenario.Transport.Answer

/-! Sending requests, with further attempts after network errors and server errors. -/

namespace HttpScenario

structure Link (m : Type → Type) where
  exchange : Transport.Outgoing → m (Except String Transport.Answer)
  wait : Nat → m Unit
  log : LogLine → m Unit

namespace Transport

variable {m : Type → Type} [Monad m]

def isRetryable : Outcome → Bool
  | .ok response => 500 ≤ response.status
  | .error (.network _) => true
  | .error (.status code _ _) => 500 ≤ code
  | .error (.setup _) => false

def waitText (millis : Nat) : String :=
  let fraction := (toString (1000 + millis % 1000)).toList.drop 1
  let shown := (fraction.reverse.dropWhile (· = '0')).reverse
  if millis = 0 then "0ns"
  else if millis < 1000 then s!"{millis}ms"
  else if shown.isEmpty then s!"{millis / 1000}s"
  else s!"{millis / 1000}.{String.ofList shown}s"

def retryMessage (outcome : Outcome) (wait : Nat) : String :=
  (if outcome.isOk then "server error" else "request failed") ++ ", retrying in " ++ waitText wait

def attempt (link : Link m) (strict : Bool) (address : String) (request : Request) : m Outcome := do
  match Outgoing.build address request with
  | .error cause => return .error (.setup cause.message)
  | .ok outgoing =>
    match (← link.exchange outgoing).bind (Answer.read request.method) with
    | .error message => return .error (.network message)
    | .ok answer => return answer.outcome strict

/-- Tries until an outcome is final, or no further attempt is left. The attempts so far have the
numbers below `number`. -/
def attempts (link : Link m) (config : Config) (once : m Outcome) (number : Nat) :
    Nat → m Outcome
  | 0 => once
  | left + 1 => do
    let outcome ← once
    if isRetryable outcome then
      let wait := config.retryDelayBefore number
      link.log (.warning (retryMessage outcome wait))
      link.wait wait
      attempts link config once (number + 1) left
    else return outcome

def send (link : Link m) (config : Config) (request : Request) : m Outcome :=
  match resolve config.baseUrl request.url with
  | .error cause => return .error (.setup cause.message)
  | .ok address =>
    attempts link config (attempt link config.failOnErrorStatus address request) 1 config.retries

end Transport

end HttpScenario
