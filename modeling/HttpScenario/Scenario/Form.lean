import HttpScenario.Extraction.Form
import HttpScenario.Json.Parser
import HttpScenario.Scenario
import HttpScenario.Validation.Form
import HttpScenario.Yaml.Document

/-! Reading scenarios from text. -/

namespace HttpScenario

inductive SourceFormat
  | json
  | yaml
deriving DecidableEq

def Document.parse? (format : SourceFormat) (text : String) : Option Document :=
  match format with
  | .json => Json.parseDocument? text
  | .yaml => Yaml.parseDocument? text

def Method.ofDocument? (doc : Document) : Option Method := doc.choice?.bind Method.ofName?

namespace Step

variable {m : Type → Type}

def fieldNames : List String :=
  ["name", "type", "method", "url", "body", "headers", "validate", "extract"]

def optionalField {α : Type} (fields : Fields Document) (name : String)
    (read : Document → Option α) : Option (Option α) :=
  Document.withDefault fields name none (Document.optional read)

def ofDocument? (doc : Document) : Option (Step m) := do
  let fields ← doc.record? fieldNames []
  let name ← Document.need fields "name" Document.text?
  let kind ← optionalField fields "type" Document.text?
  let method ← optionalField fields "method" Method.ofDocument?
  let url ← optionalField fields "url" Document.text?
  let body ← optionalField fields "body" fun doc => doc.toJson?.map Template.ofJson
  let headers ← Document.withDefault fields "headers" [] Document.textFields?
  let validate ← optionalField fields "validate" fun doc =>
    doc.toJson?.bind fun value => (Validation.specOf value).toOption
  let extract ← optionalField fields "extract" fun doc =>
    doc.toJson?.bind fun value => (Extraction.specOf value).toOption
  return ⟨name, kind, method, url, body, headers, validate, extract, none⟩

end Step

namespace Scenario

variable {m : Type → Type}

def fieldNames : List String := ["name", "description", "tags", "vars", "config", "steps"]

def ofDocument? (doc : Document) : Option (Scenario m) := do
  let fields ← doc.record? fieldNames []
  let name ← Document.need fields "name" Document.text?
  let description ← Step.optionalField fields "description" Document.text?
  let tags ← Document.withDefault fields "tags" [] Document.texts?
  let vars ← Document.withDefault fields "vars" [] Document.valueFields?
  let config ← Document.withDefault fields "config" .default Config.ofDocument?
  let steps ← Document.need fields "steps" fun doc =>
    doc.items?.bind fun items => items.mapM Step.ofDocument?
  return ⟨name, description, tags, vars, config, steps⟩

def parse (format : SourceFormat) (text : String) : Except Error (Scenario m) :=
  match (Document.parse? format text).bind ofDocument? with
  | none => .error .unreadable
  | some scenario => scenario.check.map fun _ => scenario

end Scenario

end HttpScenario
