import HttpScenario.Json.Printer
import HttpScenario.Request
import HttpScenario.Text.Base64
import HttpScenario.Text.Case
import HttpScenario.Url.Parser

/-! Requests in the form in which they go out. -/

namespace HttpScenario.Transport

structure Outgoing where
  method : Method
  url : Url
  headers : List (String × String)
  body : Option String

namespace Outgoing

inductive Error
  | address (cause : Url.Error)
  | scheme
  | host
  | header (name : String)
deriving DecidableEq

def Error.message : Error → String
  | address cause => "builder error: " ++ cause.message
  | scheme => "builder error: URL scheme is not allowed"
  | host => "builder error: URL host is not allowed"
  | header name => "builder error: invalid header " ++ name

def isTokenChar (c : Char) : Bool := c.isAlphanum ∨ "!#$%&'*+-.^_\x60|~".toList.contains c

def isHeaderName (name : String) : Bool := name ≠ "" ∧ name.toList.all isTokenChar

def isHeaderValue (value : String) : Bool :=
  value.toList.all fun c => c = '\t' ∨ (0x20 ≤ c.toNat ∧ c.toNat ≠ 0x7F)

def isHostChar (c : Char) : Bool := c.isAlphanum ∨ "!$&'()*+,-.:;=[]_~".toList.contains c

def contentType : String × String := ("content-type", "application/json")

def named (headers : List (String × String)) (name : String) : Bool :=
  headers.any fun entry => entry.1 == name

def authorization (url : Url) : List (String × String) :=
  match Url.Percent.decode? url.username.toList with
  | none => []
  | some name =>
    let password := (Url.Percent.decode? url.password.toList).getD ""
    if url.username = "" ∧ password = "" then []
    else [("authorization", "Basic " ++ Text.Base64.ofText (name ++ ":" ++ password))]

def checkedHeaders (headers : Fields String) : Except Error (List (String × String)) :=
  headers.mapM fun (name, value) =>
    if isHeaderName name ∧ isHeaderValue value then .ok (Text.asciiLower name, value)
    else .error (.header name)

/-- A body is written as JSON, and says so unless the request says something else. -/
def build (address : String) (request : Request) : Except Error Outgoing :=
  match Url.parse none address with
  | .error cause => .error (.address cause)
  | .ok url => do
    let headers ← checkedHeaders request.headers
    let headers := authorization url ++ headers
    if url.scheme ≠ "http" ∧ url.scheme ≠ "https" then throw .scheme
    if ¬ url.authority.toList.all isHostChar then throw .host
    let body := request.body.map Json.compact
    let untyped := body.isSome ∧ ¬ named headers contentType.1
    return {
      method := request.method
      url := url.forServer
      headers := if untyped then headers ++ [contentType] else headers
      body := body }

def secured? (outgoing : Outgoing) : Option String :=
  if outgoing.url.scheme = "https" then
    some (Url.marked "" Url.Host.text outgoing.url.host ++ ":" ++
      toString (outgoing.url.port.getD 443))
  else none

end Outgoing

end HttpScenario.Transport
