import HttpScenario.Json.Basic

/-! Schemas of JSON data. -/

namespace HttpScenario

/-- The kinds of values that a schema can ask for. A whole number is an integer, however it is
written. -/
inductive Schema.Kind
  | string
  | number
  | integer
  | boolean
  | object
  | array
  | null
deriving DecidableEq

namespace Schema.Kind

def holds : Kind → Json → Bool
  | string, .string _ => true
  | number, .number _ => true
  | integer, .number (.int _) => true
  | integer, .number (.double x) => x.isInteger
  | boolean, .bool _ => true
  | object, .object _ => true
  | array, .array _ => true
  | null, .null => true
  | _, _ => false

def name : Kind → String
  | string => "string"
  | number => "number"
  | integer => "integer"
  | boolean => "boolean"
  | object => "object"
  | array => "array"
  | null => "null"

def all : List Kind := [string, number, integer, boolean, object, array, null]

def ofName? (s : String) : Option Kind := all.find? fun kind => kind.name == s

end Schema.Kind

/-- What a schema demands of one node. A demand on lists, texts, objects or numbers says nothing
about other values. -/
structure Schema.Demands where
  kind : Option Schema.Kind
  allowed : Option (List Json)
  required : List String
  minItems : Option Nat
  maxItems : Option Nat
  minLength : Option Nat
  maxLength : Option Nat
  pattern : Option String
  minimum : Option Double
  maximum : Option Double
  check : Option (Json → Bool)

structure Schema where
  own : Schema.Demands
  properties : List (String × Schema)
  items : Option Schema

namespace Schema

def any : Schema := ⟨⟨none, none, [], none, none, none, none, none, none, none, none⟩, [], none⟩

/-- Properties are looked at by name; of a repeated name the last schema counts. -/
def sortedProperties (properties : List (String × Schema)) : List (String × Schema) :=
  (Fields.ofList properties).mergeSort fun a b => a.1 ≤ b.1

end Schema

end HttpScenario
