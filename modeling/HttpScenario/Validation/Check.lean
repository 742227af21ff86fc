import HttpScenario.Condition
import HttpScenario.Schema.Check
import HttpScenario.Text.Part

/-! The checks of a response that take parameters. -/

namespace HttpScenario.Validation

inductive Check
  | status (code : Nat)
  | statusIn (codes : List Nat)
  | statusRange (low high : Nat)
  | contentType (expected : String)
  | hasField (path : String)
  | fieldEquals (path : String) (expected : Json)
  | fieldMatches (path : String) (pattern : Pattern)
  | arrayLength (path : String) (expected : Nat)
  | arrayNotEmpty (path : String)
  | hasHeader (name : String)
  | headerEquals (name expected : String)
  | schema (demands : Schema)

namespace Check

inductive Failure
  | status (expected actual : Nat)
  | statusIn (expected : List Nat) (actual : Nat)
  | statusRange (low high actual : Nat)
  | contentType (expected actual : String)
  | missingField (path : String)
  | fieldDiffers (path : String) (actual expected : Json)
  | noMatch (path : String) (actual : Json) (source : String)
  | length (path : String) (actual expected : Nat)
  | emptyArray (path : String)
  | notArray (path : String)
  | missingHeader (name : String)
  | headerDiffers (name actual expected : String)
  | schema (violation : Schema.Violation)

def Failure.message : Failure → String
  | status expected actual => s!"expected status {expected}, got {actual}"
  | statusIn expected actual =>
    let codes := String.intercalate ", " (expected.map toString)
    s!"expected status in [{codes}], got {actual}"
  | statusRange low high actual => s!"expected status {low}..={high}, got {actual}"
  | contentType expected actual => s!"expected content-type '{expected}', got '{actual}'"
  | missingField path => s!"field '{path}' is missing"
  | fieldDiffers path actual expected =>
    s!"field '{path}' is {actual.compact}, expected {expected.compact}"
  | noMatch path actual source => s!"field '{path}' ({actual.compact}) does not match /{source}/"
  | length path actual expected => s!"'{path}' has {actual} items, expected {expected}"
  | emptyArray path => s!"'{path}' is empty"
  | notArray path => s!"'{path}' is not an array"
  | missingHeader name => s!"header '{name}' is missing"
  | headerDiffers name actual expected => s!"header '{name}' is '{actual}', expected '{expected}'"
  | schema violation => violation.text

def ensure (met : Bool) (failure : Failure) : Except Failure Unit :=
  if met then .ok () else .error failure

def run (check : Check) (response : Response) : Except Failure Unit :=
  match check with
  | status code => ensure (response.status == code) (.status code response.status)
  | statusIn codes =>
    ensure (codes.contains response.status) (.statusIn codes response.status)
  | statusRange low high =>
    ensure (low ≤ response.status && response.status ≤ high)
      (.statusRange low high response.status)
  | contentType expected =>
    let actual := (response.header? "content-type").getD ""
    ensure (Text.holds (Text.asciiLower actual) (Text.asciiLower expected))
      (.contentType expected actual)
  | hasField path => ensure (Path.resolve? path response).isSome (.missingField path)
  | fieldEquals path expected =>
    match Path.resolve? path response with
    | some actual => ensure (actual.looselyEqual expected) (.fieldDiffers path actual expected)
    | none => .error (.missingField path)
  | fieldMatches path pattern =>
    match Path.resolve? path response with
    | some actual =>
      ensure (pattern.isMatch actual.plainText) (.noMatch path actual pattern.source)
    | none => .error (.missingField path)
  | arrayLength path expected =>
    match Path.resolve? path response with
    | some (.array items) => ensure (items.length == expected) (.length path items.length expected)
    | _ => .error (.notArray path)
  | arrayNotEmpty path =>
    match Path.resolve? path response with
    | some (.array items) => ensure (!items.isEmpty) (.emptyArray path)
    | _ => .error (.notArray path)
  | hasHeader name => ensure (response.header? name).isSome (.missingHeader name)
  | headerEquals name expected =>
    match response.header? name with
    | some actual => ensure (actual == expected) (.headerDiffers name actual expected)
    | none => .error (.missingHeader name)
  | schema demands => (Schema.checkNode demands response.data).mapError .schema

end Check

end HttpScenario.Validation
