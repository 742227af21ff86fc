import HttpScenario.Json.Basic
import HttpScenario.Number.Integer

/-! What the text of a plain scalar means. Null, truth values and numbers are recognised by their
spelling; every other text stands for itself. -/

namespace HttpScenario.Yaml.Plain

def isNull (text : String) : Bool := ["null", "Null", "NULL", "~"].contains text

def truth? (text : String) : Option Bool :=
  if ["true", "True", "TRUE"].contains text then some true
  else if ["false", "False", "FALSE"].contains text then some false
  else none

def magnitude? (cs : List Char) : Option Nat :=
  match cs with
  | '0' :: 'x' :: ds => Integer.valueIn? 16 ds
  | '0' :: 'o' :: ds => Integer.valueIn? 8 ds
  | '0' :: 'b' :: ds => Integer.valueIn? 2 ds
  | '0' :: _ :: _ => none
  | _ => Integer.valueIn? 10 cs

def natural? (text : String) : Option Nat :=
  match text.toList with
  | '+' :: cs | cs => magnitude? cs

def negative? (text : String) : Option Nat :=
  match text.toList with
  | '-' :: cs => magnitude? cs
  | _ => none

/-- An integer. Those beyond 64 bits have no value, and those beyond 128 bits are no integers. -/
def integer? (text : String) : Option (Option Json) :=
  match natural? text, negative? text with
  | some n, _ =>
    if n < Nat.pow 2 64 then some (some (.nat n)) else if n < Nat.pow 2 128 then some none else none
  | none, some n =>
    if n ≤ Nat.pow 2 63 then some (some (.int (-(n : Int))))
    else if n ≤ Nat.pow 2 127 then some none
    else none
  | none, none => none

/-- Digits that are no number because they start with a zero. -/
def isPadded (text : String) : Bool :=
  let cs := text.toList
  let ds := if cs.head?.any fun c => c = '-' ∨ c = '+' then cs.drop 1 else cs
  1 < ds.length ∧ ds.head? = some '0' ∧ ds.all Char.isDigit

def unsigned (text : String) : String :=
  match text.toList with
  | '+' :: cs => String.ofList cs
  | _ => text

/-- A number with a fraction or an exponent. What is infinite or no number at all counts as null. -/
def fraction? (text : String) : Option Json :=
  let plus := text.toList.head? = some '+'
  let body := unsigned text
  if plus ∧ body.toList.head?.any (fun c => c = '+' ∨ c = '-') then none
  else if [".inf", ".Inf", ".INF"].contains body ∨ ["-.inf", "-.Inf", "-.INF"].contains text ∨
      [".nan", ".NaN", ".NAN"].contains text then some .null
  else (Double.ofText? body).map fun x => .number (.double x)

def value? (text : String) : Option Json :=
  if text = "" ∨ isNull text then some .null
  else
    match truth? text, integer? text with
    | some b, _ => some (.bool b)
    | none, some found => found
    | none, none =>
      if isPadded text then some (.string text) else (fraction? text).or (some (.string text))

end HttpScenario.Yaml.Plain
