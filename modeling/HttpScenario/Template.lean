import HttpScenario.Generator
import HttpScenario.Placeholder
import HttpScenario.Text.Escaped

/-! Templates of request bodies: values whose texts hold placeholders and in which a generator may
stand for a value. -/

namespace HttpScenario

inductive Template.Source (m : Type → Type)
  | named (name : String)
  | function (make : Generator m)

def Template.Source.describe {m : Type → Type} : Template.Source m → String
  | named name => s!"Named({Text.escaped name})"
  | function _ => "Func(<fn>)"

inductive Template (m : Type → Type)
  | literal (value : Json)
  | text (s : String)
  | array (items : List (Template m))
  | object (fields : List (String × Template m))
  | generator (source : Template.Source m) (params : List Json)

namespace Template

variable {m : Type → Type}

instance : Inhabited (Template m) := ⟨literal .null⟩

/-- An object calls a generator if it names one under `func` and has nothing but parameters
besides; a parameter that is no list counts as a list of one. -/
def call? (fields : Fields Json) : Option (String × List Json) := do
  let name ← (fields.get? "func").bind Json.asString?
  if fields.any fun entry => entry.1 != "func" && entry.1 != "params" then none
  else
    let params := match fields.get? "params" with
      | none | some .null => []
      | some (.array items) => items
      | some other => [other]
    some (name, params)

mutual

def ofJson : Json → Template m
  | .string s => text s
  | .array items => array (ofItems items)
  | .object fields =>
    match call? fields with
    | some (name, params) => generator (.named name) params
    | none => object (ofFields fields)
  | value => literal value

def ofItems : List Json → List (Template m)
  | [] => []
  | item :: rest => ofJson item :: ofItems rest

def ofFields : List (String × Json) → List (String × Template m)
  | [] => []
  | (name, value) :: rest => (name, ofJson value) :: ofFields rest

end

structure Environment (m : Type → Type) where
  generators : Fields (Generator m)
  warn : String → m Unit

variable [Monad m]

def generate (env : Environment m) (source : Source m) (params : List Json) : m Json :=
  match source with
  | .function make => make params
  | .named name =>
    match env.generators.get? name with
    | some make => make params
    | none => do
      env.warn s!"unknown generator '{name}', using null"
      return .null

mutual

def render (env : Environment m) (context : Context) : Template m → m Json
  | literal value => return value
  | text s => return .string (Placeholder.substitute context s)
  | array items => return .array (← renderItems env context items)
  | object fields => return .object (Fields.ofList (← renderFields env context fields))
  | generator source params =>
    generate env source (Placeholder.substituteItems context params)

def renderItems (env : Environment m) (context : Context) : List (Template m) → m (List Json)
  | [] => return []
  | item :: rest => do
    let value ← item.render env context
    return value :: (← renderItems env context rest)

def renderFields (env : Environment m) (context : Context) :
    List (String × Template m) → m (List (String × Json))
  | [] => return []
  | (name, item) :: rest => do
    let value ← item.render env context
    return (name, value) :: (← renderFields env context rest)

end

end Template

end HttpScenario
