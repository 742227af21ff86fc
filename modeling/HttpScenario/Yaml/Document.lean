import HttpScenario.Document
import HttpScenario.Yaml.Node
import HttpScenario.Yaml.Plain

/-! YAML text as a document. A scalar can be read as its text whatever its tag; as a value of any
kind, plain scalars go by their spelling and the others are text, unless a tag decides. -/

namespace HttpScenario.Yaml

def coreTag (name : String) : String := "tag:yaml.org,2002:" ++ name

def isLocalTag (tag : String) : Bool := tag.toList.head? = some '!'

def localName (tag : String) : String :=
  if tag = "!" then tag else String.ofList (tag.toList.drop 1)

def taggedValue? (tag text : String) : Option Json :=
  if isLocalTag tag then none
  else if tag = coreTag "bool" then (Plain.truth? text).map .bool
  else if tag = coreTag "int" then (Plain.integer? text).join
  else if tag = coreTag "float" then Plain.fraction? text
  else if tag = coreTag "null" then (if Plain.isNull text then some .null else none)
  else some (.string text)

def scalarOf (style : ScalarStyle) (tag : Option String) (text : String) : Scalar :=
  let isPlain := style = .plain
  let isNothing := text = "" ∨ Plain.isNull text
  let literally (name : String) := isPlain ∨ (style = .literal ∧ tag = some (coreTag name))
  { value :=
      match tag with
      | some tag => taggedValue? tag text
      | none => if isPlain then Plain.value? text else some (.string text)
    text := some text
    truth := if literally "bool" then Plain.truth? text else none
    natural :=
      if literally "int" then (Plain.natural? text).filter fun n => n < Nat.pow 2 64 else none
    choice :=
      match tag with
      | some tag =>
        if !isLocalTag tag then some text
        else if isPlain ∧ isNothing then some (localName tag) else none
      | none => some text
    absent := isPlain ∧ (if tag = some (coreTag "null") then Plain.isNull text
      else tag.isNone ∧ isNothing)
    blank := isPlain ∧ text = "" }

def underTag (tag : Option String) (doc : Document) : Document :=
  if tag.any isLocalTag then .tagged doc else doc

namespace Node

mutual

/-- A node as a document, of which so many levels can be read. -/
def toDocument (levels : Nat) : Node → Document
  | scalar style tag text => .scalar (scalarOf style tag text)
  | list tag items =>
    if levels = 0 then .scalar .unreadable
    else underTag tag (.list (itemsToDocuments (levels - 1) items) false)
  | map tag entries =>
    if levels = 0 then .scalar .unreadable
    else underTag tag (.map (entriesToDocuments (levels - 1) entries) none)
  | endless => .scalar .unreadable

def itemsToDocuments (levels : Nat) : List Node → List Document
  | [] => []
  | item :: rest => item.toDocument levels :: itemsToDocuments levels rest

def entriesToDocuments (levels : Nat) : List (Node × Node) → List (Document × Document)
  | [] => []
  | (key, value) :: rest =>
    (key.toDocument levels, value.toDocument levels) :: entriesToDocuments levels rest

end

end Node

def emptyDocument : Document :=
  .scalar { Scalar.null with blank := true }

def levelLimit : Nat := 128

def parseDocument? (text : String) : Option Document :=
  (Node.ofText? text).map fun root => root.elim emptyDocument (Node.toDocument levelLimit)

end HttpScenario.Yaml
