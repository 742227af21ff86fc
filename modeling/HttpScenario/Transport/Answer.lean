import HttpScenario.Json.Parser
import HttpScenario.Request
import HttpScenario.Response
import HttpScenario.Text.Blank
import HttpScenario.Transport.Outgoing

/-! Answers in the form in which they come in, and what they mean for a request. -/

namespace HttpScenario.Transport

structure Answer where
  status : Nat
  /-- Names are in any spelling and may repeat. -/
  headers : List (String × String)
  body : String
  /-- How many bytes of the body were announced and did not come. -/
  missing : Nat

abbrev Outcome := Except TransportError Response

/-- The data in a body: JSON if it can be read so, else the text itself, and null if it is blank. -/
def decodeBody (body : String) : Json :=
  if Text.trim body = "" then .null else (Json.parse? body).getD (.string body)

namespace Answer

def hasBody (method : Method) (status : Nat) : Bool :=
  !(method = .head ∨ status = 101 ∨ status = 204 ∨ status = 304)

def isValid (answer : Answer) : Bool :=
  (answer.status = 101 ∨ (200 ≤ answer.status ∧ answer.status < 1000)) ∧
    answer.headers.all fun entry => Outgoing.isHeaderName entry.1 && Outgoing.isHeaderValue entry.2

def read (method : Method) (answer : Answer) : Except String Answer :=
  if ¬ answer.isValid then .error "error sending request"
  else if ¬ hasBody method answer.status then .ok { answer with body := "", missing := 0 }
  else if 0 < answer.missing then .error "request or response body error"
  else .ok answer

/-- Headers of one name count as one, with the last value. -/
def toResponse (answer : Answer) : Response :=
  let trimmed (value : String) : String :=
    let edge (c : Char) : Bool := c = ' ' ∨ c = '\t'
    String.ofList ((value.toList.dropWhile edge).reverse.dropWhile edge).reverse
  { status := answer.status
    statusText := Status.reason answer.status
    headers := Fields.ofList (answer.headers.map fun (n, v) => (Text.asciiLower n, trimmed v))
    data := decodeBody answer.body }

def outcome (strict : Bool) (answer : Answer) : Outcome :=
  if strict ∧ ¬ Status.isSuccess answer.status then
    .error (.status answer.status (Status.reason answer.status) answer.body)
  else .ok answer.toResponse

end Answer

end HttpScenario.Transport
