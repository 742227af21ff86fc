import HttpScenario.Json.Basic

/-! Documents before they are given a type. A scalar offers the readings that its notation allows:
a JSON number is no text, while an unquoted YAML scalar is a number where a value of any kind is
wanted and its own text where text is. Maps keep repeated keys, so that a record can refuse them. -/

namespace HttpScenario

structure Scalar where
  value : Option Json
  text : Option String
  truth : Option Bool
  natural : Option Nat
  choice : Option String
  absent : Bool
  blank : Bool

inductive Document
  | scalar (s : Scalar)
  /-- A list; in some formats one may stand for a record, its items for the fields in order. -/
  | list (items : List Document) (positional : Bool)
  | map (entries : List (Document × Document)) (choice : Option String)
  | tagged (inner : Document)

namespace Scalar

def unreadable : Scalar := ⟨none, none, none, none, none, false, false⟩

def null : Scalar := { unreadable with value := some .null, absent := true }

def ofText (s : String) : Scalar :=
  { unreadable with value := some (.string s), text := some s, choice := some s }

def ofValue (v : Json) : Scalar :=
  { unreadable with value := some v, truth := v.asBool?, natural := v.asNat64? }

end Scalar

namespace Document

instance : Inhabited Document := ⟨scalar .unreadable⟩

def text? : Document → Option String
  | scalar s => s.text
  | tagged inner => inner.text?
  | _ => none

def isAbsent : Document → Bool
  | scalar s => s.absent
  | tagged inner => inner.isAbsent
  | _ => false

def items? : Document → Option (List Document)
  | list items _ => some items
  | scalar s => if s.blank then some [] else none
  | tagged inner => inner.items?
  | map _ _ => none

def entries? : Document → Option (List (Document × Document))
  | map entries _ => some entries
  | scalar s => if s.blank then some [] else none
  | tagged inner => inner.entries?
  | list _ _ => none

mutual

def toJson? : Document → Option Json
  | scalar s => s.value
  | list items _ => (itemsToJson? items).map .array
  | map entries _ => (entriesToJson? entries).map fun fields => .object (Fields.ofList fields)
  | tagged _ => none

def itemsToJson? : List Document → Option (List Json)
  | [] => some []
  | item :: rest => do
    let value ← item.toJson?
    let values ← itemsToJson? rest
    return value :: values

def entriesToJson? : List (Document × Document) → Option (List (String × Json))
  | [] => some []
  | (key, item) :: rest => do
    let name ← key.text?
    let value ← item.toJson?
    let fields ← entriesToJson? rest
    return (name, value) :: fields

end

mutual

def ofJson : Json → Document
  | .null => scalar .null
  | .string s => scalar (.ofText s)
  | .array items => list (ofItems items) true
  | .object fields => map (ofFields fields) (soleName fields)
  | value => scalar (.ofValue value)

def ofItems : List Json → List Document
  | [] => []
  | item :: rest => ofJson item :: ofItems rest

def ofFields : List (String × Json) → List (Document × Document)
  | [] => []
  | (name, value) :: rest => (scalar (.ofText name), ofJson value) :: ofFields rest

def soleName : List (String × Json) → Option String
  | [(name, .null)] => some name
  | _ => none

end

/-- Fields of a record by name: `spellings` pairs every accepted spelling with the field's name.
Unknown entries are skipped, a repeated field is refused. -/
def entriesOfRecord? (spellings : List (String × String)) :
    List (Document × Document) → Option (Fields Document)
  | [] => some []
  | (key, item) :: rest => do
    let spelling ← key.text?
    let fields ← entriesOfRecord? spellings rest
    match spellings.lookup spelling with
    | none => return fields
    | some name => if fields.contains name then none else return (name, item) :: fields

/-- The fields of a record, written as a map or, in the order of the names, as a list. -/
def record? (names : List String) (aliases : List (String × String)) (doc : Document) :
    Option (Fields Document) :=
  match doc.entries? with
  | some entries => entriesOfRecord? (names.map (fun name => (name, name)) ++ aliases) entries
  | none =>
    match doc with
    | list items true => if items.length ≤ names.length then some (names.zip items) else none
    | _ => none

def need {α : Type} (fields : Fields Document) (name : String) (read : Document → Option α) :
    Option α :=
  (fields.get? name).bind read

def withDefault {α : Type} (fields : Fields Document) (name : String) (default : α)
    (read : Document → Option α) : Option α :=
  match fields.get? name with
  | none => some default
  | some doc => read doc

def optional {α : Type} (read : Document → Option α) (doc : Document) : Option (Option α) :=
  if doc.isAbsent then some none else (read doc).map some

def nat? (limit : Nat) : Document → Option Nat
  | scalar s => s.natural.filter fun n => n < limit
  | _ => none

def bool? : Document → Option Bool
  | scalar s => s.truth
  | _ => none

def texts? (doc : Document) : Option (List String) := doc.items?.bind fun items => items.mapM text?

def textFields? (doc : Document) : Option (Fields String) := do
  let entries ← doc.entries?
  let fields ← entries.mapM fun (key, item) => do return (← key.text?, ← item.text?)
  return Fields.ofList fields

def valueFields? (doc : Document) : Option (Fields Json) := do
  let entries ← doc.entries?
  let fields ← entries.mapM fun (key, item) => do return (← key.text?, ← item.toJson?)
  return Fields.ofList fields

def choice? : Document → Option String
  | scalar s => s.choice
  | map _ choice => choice
  | _ => none

end Document

end HttpScenario
