import HttpScenario.Condition
import HttpScenario.Json.Parser
import HttpScenario.Text.Blank
import HttpScenario.Text.Escaped

/-! Transforms of extracted values: the named ones, and functions of the value and its response. -/

namespace HttpScenario.Extraction

inductive Transform
  | named (name : String)
  | custom (apply : Json → Response → Except String Json)

namespace Transform

inductive Error
  | raised (message : String)
  | unfit (name : String) (value : Json)
  | unreadable
  | unknown (name : String)

def Error.message : Error → String
  | raised message => message
  | unfit name value => s!"cannot apply '{name}' to {value.compact}"
  | unreadable => "invalid JSON: not a JSON text"
  | unknown name => s!"unknown transform '{name}'"

/-- Numbers stand for themselves, truth values are 0 and 1, and a text between blanks is read as an
integer of 64 bits or else as a double. -/
def number (value : Json) : Except Error Number :=
  match value with
  | .number n => .ok n
  | .bool b => .ok (.int (if b then 1 else 0))
  | .string s =>
    let cs := Text.trimList s.toList
    match Integer.intOfList? cs with
    | some n => .ok (.int n)
    | none =>
      match Double.ofText? (String.ofList cs) with
      | some x => .ok (.double x)
      | none => .error (.unfit "number" value)
  | _ => .error (.unfit "number" value)

/-- A number that is no integer of 64 bits goes by way of the double to the nearest one. -/
def integer (n : Number) : Int :=
  match n.toInt64? with
  | some i => i
  | none => Integer.clamp n.toDouble.truncate

def text (name : String) (value : Json) : Except Error String :=
  match value with
  | .string s => .ok s
  | _ => .error (.unfit name value)

def items (name : String) (value : Json) : Except Error (List Json) :=
  match value with
  | .array items => .ok items
  | _ => .error (.unfit name value)

def length (value : Json) : Except Error Nat :=
  match value with
  | .string s => .ok s.length
  | .array items => .ok items.length
  | .object fields => .ok fields.length
  | _ => .error (.unfit "length" value)

def applyNamed (name : String) (value : Json) : Except Error Json :=
  match name with
  | "number" => (number value).map .number
  | "integer" => (number value).map fun n => .int (integer n)
  | "string" => .ok (.string value.plainText)
  | "boolean" => .ok (.bool value.isTruthy)
  | "uppercase" => (text name value).map fun s => .string (Text.toUpper s)
  | "lowercase" => (text name value).map fun s => .string (Text.toLower s)
  | "trim" => (text name value).map fun s => .string (Text.trim s)
  | "length" => (length value).map .nat
  | "json" => do
    match Json.parse? (← text name value) with
    | some parsed => .ok parsed
    | none => .error .unreadable
  | "first" => (items name value).map fun items => items.head?.getD .null
  | "last" => (items name value).map fun items => items.getLast?.getD .null
  | _ => .error (.unknown name)

def apply (transform : Transform) (value : Json) (response : Response) : Except Error Json :=
  match transform with
  | custom f => (f value response).mapError .raised
  | named name => applyNamed name value

def describe : Transform → String
  | named name => s!"Named({Text.escaped name})"
  | custom _ => "Custom(<fn>)"

end Transform

end HttpScenario.Extraction
