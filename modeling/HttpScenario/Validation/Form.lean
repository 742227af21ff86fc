import HttpScenario.Schema.Form
import HttpScenario.Validation.Evaluation

/-! Reading validations from data. A text names a registered specification; an object with a keyword
as its only field is that check or combination; every other object lists entries that all have to
pass. -/

namespace HttpScenario.Validation

inductive FormError
  | form (value : Json)
  | entry (name : String) (cause : FormError)
  | notText (keyword wanted : String) (value : Json)
  | needs (keyword name : String)
  | status (value : Json)
  | range
  | notList (keyword : String)
  | argumentNotText (name : String)
  | lengthNotNumber
  | pattern (cause : Pattern.Error)
  | schema

def FormError.message : FormError → String
  | form value => s!"validate must be a validator name or mapping, got {value.compact}"
  | entry name cause => s!"validate '{name}': {cause.message}"
  | notText keyword wanted value => s!"'{keyword}' expects {wanted}, got {value.compact}"
  | needs keyword name => s!"'{keyword}' needs '{name}'"
  | status value => s!"invalid status code: {value.compact}"
  | range => "statusRange must be [min, max]"
  | notList keyword => s!"'{keyword}' expects a list"
  | argumentNotText name => s!"'{name}' must be a string"
  | lengthNotNumber => "'length' must be a number"
  | pattern cause => s!"invalid pattern: {cause.message}"
  | schema => "invalid schema: not a schema"

def statusOf (value : Json) : Except FormError Nat :=
  match Condition.statusCode? value with
  | some n => .ok n
  | none => .error (.status value)

def textOf (keyword wanted : String) (value : Json) : Except FormError String :=
  match value with
  | .string s => .ok s
  | _ => .error (.notText keyword wanted value)

def fieldOf (keyword name : String) (argument : Json) : Except FormError Json :=
  match argument.field? name with
  | some value => .ok value
  | none => .error (.needs keyword name)

def argumentText (name : String) (value : Json) : Except FormError String :=
  match value with
  | .string s => .ok s
  | _ => .error (.argumentNotText name)

def statusCheck (argument : Json) : Except FormError Check :=
  match argument with
  | .array codes => (codes.mapM statusOf).map .statusIn
  | _ => (statusOf argument).map .status

def rangeCheck (argument : Json) : Except FormError Check :=
  match argument with
  | .array [low, high] => do return .statusRange (← statusOf low) (← statusOf high)
  | _ => .error .range

def fieldEqualsCheck (argument : Json) : Except FormError Check := do
  let path ← argumentText "path" (← fieldOf "fieldEquals" "path" argument)
  return .fieldEquals path (← fieldOf "fieldEquals" "value" argument)

def fieldMatchesCheck (argument : Json) : Except FormError Check := do
  let path ← fieldOf "fieldMatches" "path" argument
  let source ← argumentText "pattern" (← fieldOf "fieldMatches" "pattern" argument)
  let pattern ← (Pattern.ofText source).mapError .pattern
  return .fieldMatches (← argumentText "path" path) pattern

def arrayLengthCheck (argument : Json) : Except FormError Check := do
  let path ← fieldOf "arrayLength" "path" argument
  let length ← fieldOf "arrayLength" "length" argument
  let path ← argumentText "path" path
  match length.asNat64? with
  | some n => return .arrayLength path n
  | none => throw .lengthNotNumber

def headerEqualsCheck (argument : Json) : Except FormError Check := do
  let name ← fieldOf "headerEquals" "name" argument
  let value ← fieldOf "headerEquals" "value" argument
  return .headerEquals (← argumentText "name" name) value.plainText

def schemaCheck (argument : Json) : Except FormError Check :=
  match Schema.ofJson? argument with
  | some schema => .ok (.schema schema)
  | none => .error .schema

def checkOf? (keyword : String) (argument : Json) : Option (Except FormError Check) :=
  match keyword with
  | "status" => some (statusCheck argument)
  | "statusRange" => some (rangeCheck argument)
  | "contentType" => some ((textOf keyword "a string" argument).map .contentType)
  | "hasField" => some ((textOf keyword "a path" argument).map .hasField)
  | "fieldEquals" => some (fieldEqualsCheck argument)
  | "fieldMatches" => some (fieldMatchesCheck argument)
  | "arrayLength" => some (arrayLengthCheck argument)
  | "arrayNotEmpty" => some ((textOf keyword "a path" argument).map .arrayNotEmpty)
  | "hasHeader" => some ((textOf keyword "a header name" argument).map .hasHeader)
  | "headerEquals" => some (headerEqualsCheck argument)
  | "schema" => some (schemaCheck argument)
  | _ => none

mutual

def specOf (value : Json) : Except FormError Spec :=
  match value with
  | .string name => .ok (.named name)
  | .object [(name, argument)] => soleFieldOf name argument
  | .object fields => (entriesOf fields).map .all
  | other => .error (.form other)
termination_by sizeOf value

def soleFieldOf (name : String) (argument : Json) : Except FormError Spec :=
  match checkOf? name argument with
  | some check => check.map .check
  | none =>
    match name with
    | "and" => (listOf name argument).map .and
    | "or" => (listOf name argument).map .or
    | "not" => (specOf argument).map .not
    | _ => ((specOf argument).mapError (.entry name)).map fun spec => .all [(name, spec)]
termination_by sizeOf argument + 2

def listOf (keyword : String) (value : Json) : Except FormError (List Spec) :=
  match value with
  | .array values => specsOf values
  | _ => .error (.notList keyword)
termination_by sizeOf value + 1

def entriesOf (fields : List (String × Json)) : Except FormError (List (String × Spec)) :=
  match fields with
  | [] => .ok []
  | (name, value) :: rest => do
    let spec ← (specOf value).mapError (.entry name)
    let others ← entriesOf rest
    return (name, spec) :: others
termination_by sizeOf fields

def specsOf (values : List Json) : Except FormError (List Spec) :=
  match values with
  | [] => .ok []
  | value :: rest => do
    let spec ← specOf value
    let others ← specsOf rest
    return spec :: others
termination_by sizeOf values

end

end HttpScenario.Validation
