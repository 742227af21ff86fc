import HttpScenario.Document
import HttpScenario.Schema.Basic

/-! Reading schemas from data: an object with the keywords of a schema, or a list of their arguments
in a fixed order. Null stands for a keyword that is not there, where it has no default of its
own. -/

namespace HttpScenario.Schema

def keywords : List String :=
  ["type", "enum", "required", "properties", "items", "minItems", "maxItems", "minLength",
   "maxLength", "pattern", "minimum", "maximum"]

def double? (doc : Document) : Option Double := doc.toJson?.bind Json.asDouble?

def kind? (doc : Document) : Option Kind := doc.choice?.bind Kind.ofName?

def values? (doc : Document) : Option (List Json) :=
  doc.items?.bind fun items => items.mapM (·.toJson?)

def argument? {α : Type} (fields : Fields Document) (name : String)
    (read : Document → Option α) : Option (Option α) :=
  Document.withDefault fields name none (Document.optional read)

mutual

def depth : Json → Nat
  | .array items => depthOfItems items + 1
  | .object fields => depthOfFields fields + 1
  | _ => 1

def depthOfItems : List Json → Nat
  | [] => 0
  | item :: rest => max (depth item) (depthOfItems rest)

def depthOfFields : List (String × Json) → Nat
  | [] => 0
  | (_, value) :: rest => max (depth value) (depthOfFields rest)

end

def ofDocument? : Nat → Document → Option Schema
  | 0, _ => none
  | levels + 1, doc => do
    let fields ← doc.record? keywords []
    let kind ← argument? fields "type" kind?
    let allowed ← argument? fields "enum" values?
    let required ← Document.withDefault fields "required" [] Document.texts?
    let properties ← Document.withDefault fields "properties" [] fun doc => do
      let entries ← doc.entries?
      entries.mapM fun (key, inner) => do
        return (← key.text?, ← ofDocument? levels inner)
    let items ← argument? fields "items" (ofDocument? levels)
    let minItems ← argument? fields "minItems" (Document.nat? (Nat.pow 2 64))
    let maxItems ← argument? fields "maxItems" (Document.nat? (Nat.pow 2 64))
    let minLength ← argument? fields "minLength" (Document.nat? (Nat.pow 2 64))
    let maxLength ← argument? fields "maxLength" (Document.nat? (Nat.pow 2 64))
    let pattern ← argument? fields "pattern" Document.text?
    let minimum ← argument? fields "minimum" double?
    let maximum ← argument? fields "maximum" double?
    let own : Demands :=
      ⟨kind, allowed, required, minItems, maxItems, minLength, maxLength, pattern, minimum, maximum,
        none⟩
    return ⟨own, sortedProperties properties, items⟩

def ofJson? (value : Json) : Option Schema := ofDocument? (depth value + 1) (Document.ofJson value)

end HttpScenario.Schema
