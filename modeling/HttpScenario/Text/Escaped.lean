import HttpScenario.Text.Letter

/-! Text between double quotes with everything that cannot be shown escaped. -/

namespace HttpScenario.Text

/-- Characters with a shape of their own; of the blanks only the space. -/
def isShown (c : Char) : Bool :=
  if c.toNat < 127 then 32 ≤ c.toNat
  else
    match category c with
    | .control | .format | .surrogate | .privateUse | .unassigned => false
    | .lineSeparator | .paragraphSeparator | .spaceSeparator => false
    | _ => !graphemeExtendTable.holds c

def escapedChar (c : Char) : String :=
  if c = '"' then "\\\""
  else if c = '\\' then "\\\\"
  else if c = '\n' then "\\n"
  else if c = '\r' then "\\r"
  else if c = '\t' then "\\t"
  else if c.toNat = 0 then "\\0"
  else if isShown c then c.toString
  else "\\u\x7b" ++ String.ofList (Nat.toDigits 16 c.toNat) ++ "\x7d"

def escaped (s : String) : String :=
  "\"" ++ String.join (s.toList.map escapedChar) ++ "\""

end HttpScenario.Text
