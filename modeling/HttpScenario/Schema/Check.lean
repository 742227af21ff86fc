import HttpScenario.Json.Printer
import HttpScenario.Pattern
import HttpScenario.Schema.Basic
import HttpScenario.Text.Escaped

/-! Checking data against a schema. The demands of a node are looked at in a fixed order, before
those of the nodes below it in the case of kind and allowed values; the first one that is not met
is reported with its place. -/

namespace HttpScenario.Schema

inductive Step
  | property (name : String)
  | item (i : Nat)
deriving DecidableEq

def Step.text : Step → String
  | property name => "." ++ name
  | item i => s!"[{i}]"

def placeText (steps : List Step) : String := "$" ++ String.join (steps.map Step.text)

inductive Breach
  | kind (expected : Kind) (found : Json)
  | allowed (found : Json) (values : List Json)
  | missing (name : String)
  | fewItems (least found : Nat)
  | manyItems (most found : Nat)
  | short (least found : Nat)
  | long (most found : Nat)
  | pattern (found source : String)
  | badPattern (cause : Pattern.Error)
  | below (least found : Double)
  | above (most found : Double)
  | check

def kindName : Kind → String
  | .string => "String"
  | .number => "Number"
  | .integer => "Integer"
  | .boolean => "Boolean"
  | .object => "Object"
  | .array => "Array"
  | .null => "Null"

def valueKind : Json → String
  | .null => "null"
  | .bool _ => "boolean"
  | .number _ => "number"
  | .string _ => "string"
  | .array _ => "array"
  | .object _ => "object"

mutual

def labelled : Json → String
  | .null => "Null"
  | .bool b => s!"Bool({b})"
  | .number n => s!"Number({n.text})"
  | .string s => s!"String({Text.escaped s})"
  | .array items => "Array [" ++ labelledItems items ++ "]"
  | .object fields => "Object \x7b" ++ labelledFields fields ++ "\x7d"

def labelledItems : List Json → String
  | [] => ""
  | [item] => labelled item
  | item :: rest => labelled item ++ ", " ++ labelledItems rest

def labelledFields : List (String × Json) → String
  | [] => ""
  | [(name, value)] => Text.escaped name ++ ": " ++ labelled value
  | (name, value) :: rest =>
    Text.escaped name ++ ": " ++ labelled value ++ ", " ++ labelledFields rest

end

def Breach.message : Breach → String
  | kind expected found => s!"expected {kindName expected}, got {valueKind found}"
  | allowed found values => s!"{found.compact} is not one of [{labelledItems values}]"
  | missing name => s!"missing required field '{name}'"
  | fewItems least found => s!"expected at least {least} items, got {found}"
  | manyItems most found => s!"expected at most {most} items, got {found}"
  | short least found => s!"length {found} is below minimum {least}"
  | long most found => s!"length {found} exceeds maximum {most}"
  | pattern found source => s!"'{found}' does not match /{source}/"
  | badPattern cause => s!"invalid pattern: {cause.message}"
  | below least found => s!"{found.text .plain} is below minimum {least.text .plain}"
  | above most found => s!"{found.text .plain} exceeds maximum {most.text .plain}"
  | check => "custom validation failed"

structure Violation where
  place : List Step
  breach : Breach

namespace Violation

def path (v : Violation) : String := placeText v.place

def message (v : Violation) : String := v.breach.message

def text (v : Violation) : String := s!"{v.path}: {v.message}"

def under (step : Step) (v : Violation) : Violation := { v with place := step :: v.place }

end Violation

def demand (met : Bool) (breach : Breach) : Except Violation Unit :=
  if met then .ok () else .error ⟨[], breach⟩

def checkKind (own : Demands) (data : Json) : Except Violation Unit :=
  match own.kind with
  | some kind => demand (kind.holds data) (.kind kind data)
  | none => .ok ()

def checkAllowed (own : Demands) (data : Json) : Except Violation Unit :=
  match own.allowed with
  | some values => demand (values.any fun v => v.same data) (.allowed data values)
  | none => .ok ()

def checkRequired (fields : Fields Json) : List String → Except Violation Unit
  | [] => .ok ()
  | name :: rest => do
    demand (fields.contains name) (.missing name)
    checkRequired fields rest

def checkAtLeast {α : Type} (least : Option α) (met : α → Bool) (breach : α → Breach) :
    Except Violation Unit :=
  match least with
  | some bound => demand (met bound) (breach bound)
  | none => .ok ()

def checkPattern (own : Demands) (s : String) : Except Violation Unit :=
  match own.pattern with
  | none => .ok ()
  | some source =>
    match Pattern.ofText source with
    | .error cause => .error ⟨[], .badPattern cause⟩
    | .ok pattern => demand (pattern.isMatch s) (.pattern s source)

def checkText (own : Demands) (s : String) : Except Violation Unit := do
  let n := s.length
  checkAtLeast own.minLength (fun least => least ≤ n) (fun least => .short least n)
  checkAtLeast own.maxLength (fun most => n ≤ most) (fun most => .long most n)
  checkPattern own s

def checkNumber (own : Demands) (x : Double) : Except Violation Unit := do
  checkAtLeast own.minimum (fun least => !decide (x < least)) (fun least => .below least x)
  checkAtLeast own.maximum (fun most => !decide (most < x)) (fun most => .above most x)

def checkCount (own : Demands) (items : List Json) : Except Violation Unit := do
  let n := items.length
  checkAtLeast own.minItems (fun least => least ≤ n) (fun least => .fewItems least n)
  checkAtLeast own.maxItems (fun most => n ≤ most) (fun most => .manyItems most n)

def checkCustom (own : Demands) (data : Json) : Except Violation Unit :=
  match own.check with
  | some accepts => demand (accepts data) .check
  | none => .ok ()

def checkItems (check : Json → Except Violation Unit) (i : Nat) :
    List Json → Except Violation Unit
  | [] => .ok ()
  | item :: rest => do
    (check item).mapError (Violation.under (.item i))
    checkItems check (i + 1) rest

mutual

def checkNode : Schema → Json → Except Violation Unit
  | ⟨own, properties, items⟩, data => do
    checkKind own data
    checkAllowed own data
    match data with
    | .object fields =>
      checkRequired fields own.required
      checkProperties properties fields
    | .array elements =>
      checkCount own elements
      checkElements items elements
    | .string s => checkText own s
    | .number n => checkNumber own n.toDouble
    | _ => .ok ()
    checkCustom own data

def checkElements : Option Schema → List Json → Except Violation Unit
  | some inner, elements => checkItems (fun item => checkNode inner item) 0 elements
  | none, _ => .ok ()

def checkProperties : List (String × Schema) → Fields Json → Except Violation Unit
  | [], _ => .ok ()
  | (name, inner) :: rest, fields => do
    match fields.get? name with
    | some value => (checkNode inner value).mapError (Violation.under (.property name))
    | none => .ok ()
    checkProperties rest fields

end

end HttpScenario.Schema
