import HttpScenario.Json.Printer
import HttpScenario.Path
import HttpScenario.Pattern

/-! Conditions on responses. Evaluating a condition can fail, which is not the same as its being
false. -/

namespace HttpScenario

namespace Json

/-- Equality under which a whole number and a double of the same value are one: two numbers are
compared as doubles, all else as JSON values. -/
def looselyEqual : Json → Json → Bool
  | number a, number b => a.toDouble.sameValue b.toDouble
  | a, b => a.same b

def isTruthy : Json → Bool
  | null => false
  | bool b => b
  | number n => !n.toDouble.isZero
  | string s => s != ""
  | array _ | object _ => true

end Json

inductive Condition
  | custom (test : Response → Except String Bool)
  | equals (path : String) (value : Json)
  | notEquals (path : String) (value : Json)
  | matchesPattern (path : String) (source : String)
  | hasValue (path : String) (expected : Bool)
  | status (code : Nat)
  | statusRange (low high : Nat)

namespace Condition

inductive Error
  | raised (message : String)
  | pattern (source : String) (cause : Pattern.Error)

def Error.message : Error → String
  | raised message => message
  | pattern source cause => s!"invalid pattern /{source}/: {cause.message}"

def resolvesTo (path : String) (response : Response) (test : Json → Bool) : Bool :=
  (Path.resolve? path response).any test

def evaluate (condition : Condition) (response : Response) : Except Error Bool :=
  match condition with
  | custom test => (test response).mapError .raised
  | equals path value => .ok (resolvesTo path response fun v => v.looselyEqual value)
  | notEquals path value => .ok (!resolvesTo path response fun v => v.looselyEqual value)
  | matchesPattern path source =>
    match Pattern.ofText source with
    | .error cause => .error (.pattern source cause)
    | .ok pattern => .ok (resolvesTo path response fun v => pattern.isMatch v.plainText)
  | hasValue path expected => .ok (resolvesTo path response (fun v => !v.isNull) == expected)
  | status code => .ok (response.status == code)
  | statusRange low high => .ok (low ≤ response.status && response.status ≤ high)

inductive FormError
  | notMapping (value : Json)
  | range
  | status (value : Json)
  | path (value : Json)
  | matchesNotText
  | existsNotBool
  | unsupported (value : Json)

def FormError.message : FormError → String
  | notMapping value => s!"condition must be a mapping, got {value.compact}"
  | range => "statusRange must be [min, max]"
  | status value => s!"invalid status code: {value.compact}"
  | path value => s!"condition needs a 'path': {value.compact}"
  | matchesNotText => "'matches' must be a string"
  | existsNotBool => "'exists' must be a boolean"
  | unsupported value => s!"unsupported condition: {value.compact}"

def statusCode? (value : Json) : Option Nat :=
  value.asNat64?.bind fun n => if n < Nat.pow 2 16 then some n else none

def statusCode (value : Json) : Except FormError Nat :=
  match statusCode? value with
  | some n => .ok n
  | none => .error (.status value)

def ofPath (value : Json) (path : String) : Except FormError Condition :=
  match value.field? "equals" with
  | some expected => .ok (equals path expected)
  | none =>
  match value.field? "notEquals" with
  | some expected => .ok (notEquals path expected)
  | none =>
  match value.field? "matches" with
  | some (.string source) => .ok (matchesPattern path source)
  | some _ => .error .matchesNotText
  | none =>
  match value.field? "exists" with
  | some (.bool expected) => .ok (hasValue path expected)
  | some _ => .error .existsNotBool
  | none => .error (.unsupported value)

/-- The condition of an object. A status or a range of them comes before all tests at paths. -/
def ofObject (value : Json) : Except FormError Condition :=
  match value.field? "status" with
  | some code => (statusCode code).map status
  | none =>
  match value.field? "statusRange" with
  | some (.array [low, high]) => do
    let low ← statusCode low
    let high ← statusCode high
    return statusRange low high
  | some _ => .error .range
  | none =>
  match value.field? "path" with
  | some (.string path) => ofPath value path
  | _ => .error (.path value)

def ofJson (value : Json) : Except FormError Condition :=
  match value with
  | .object _ => ofObject value
  | _ => .error (.notMapping value)

def describe : Condition → String
  | custom _ => "Custom(<fn>)"
  | equals path value => s!"Equals({path} == {value.compact})"
  | notEquals path value => s!"NotEquals({path} != {value.compact})"
  | matchesPattern path source => s!"Matches({path} =~ /{source}/)"
  | hasValue path expected => s!"Exists({path}: {expected})"
  | status code => s!"Status({code})"
  | statusRange low high => s!"StatusRange({low}..={high})"

end Condition

end HttpScenario
