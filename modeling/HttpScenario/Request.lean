import HttpScenario.Json.Basic
import HttpScenario.Method

/-! Requests with all placeholders filled, and why one may come to no response. -/

namespace HttpScenario

structure Request where
  method : Method
  url : String
  headers : Fields String
  body : Option Json

inductive TransportError
  | status (code : Nat) (reason body : String)
  | network (message : String)
  | setup (message : String)
deriving DecidableEq

def TransportError.message : TransportError → String
  | status code reason body => s!"server responded with {code} {reason}: {body}"
  | network message => s!"network error: {message}"
  | setup message => s!"invalid request: {message}"

end HttpScenario
