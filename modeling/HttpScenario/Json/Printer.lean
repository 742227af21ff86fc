import HttpScenario.Json.Basic

/-! JSON text: compact, without blanks, and indented by two blanks a level. -/

namespace HttpScenario.Json

def hexDigit (n : Nat) : Char := (Nat.toDigits 16 (n % 16)).headD '0'

def quotedChar (c : Char) : List Char :=
  if c = '"' then ['\\', '"']
  else if c = '\\' then ['\\', '\\']
  else if c = '\n' then ['\\', 'n']
  else if c = '\r' then ['\\', 'r']
  else if c = '\t' then ['\\', 't']
  else if c = '\x08' then ['\\', 'b']
  else if c = '\x0c' then ['\\', 'f']
  else if c.toNat < 32 then ['\\', 'u', '0', '0', hexDigit (c.toNat / 16), hexDigit c.toNat]
  else [c]

def quoted (s : String) : String :=
  String.ofList ('"' :: s.toList.flatMap quotedChar ++ ['"'])

mutual

def compact : Json → String
  | null => "null"
  | bool true => "true"
  | bool false => "false"
  | number n => n.text
  | string s => quoted s
  | array items => "[" ++ compactItems items ++ "]"
  | object fields => "\x7b" ++ compactFields fields ++ "\x7d"

def compactItems : List Json → String
  | [] => ""
  | [item] => item.compact
  | item :: rest => item.compact ++ "," ++ compactItems rest

def compactFields : List (String × Json) → String
  | [] => ""
  | [(name, value)] => quoted name ++ ":" ++ value.compact
  | (name, value) :: rest => quoted name ++ ":" ++ value.compact ++ "," ++ compactFields rest

end

def lineBreak (depth : Nat) : String := "\n" ++ String.ofList (List.replicate (2 * depth) ' ')

mutual

def indentedAt (depth : Nat) : Json → String
  | array [] => "[]"
  | object [] => "\x7b\x7d"
  | array (item :: rest) =>
    "[" ++ lineBreak (depth + 1) ++ item.indentedAt (depth + 1) ++ indentedItems depth rest ++ "]"
  | object ((name, value) :: rest) =>
    "\x7b" ++ lineBreak (depth + 1) ++ quoted name ++ ": " ++ value.indentedAt (depth + 1) ++
      indentedFields depth rest ++ "\x7d"
  | value => value.compact

def indentedItems (depth : Nat) : List Json → String
  | [] => lineBreak depth
  | item :: rest =>
    "," ++ lineBreak (depth + 1) ++ item.indentedAt (depth + 1) ++ indentedItems depth rest

def indentedFields (depth : Nat) : List (String × Json) → String
  | [] => lineBreak depth
  | (name, value) :: rest =>
    "," ++ lineBreak (depth + 1) ++ quoted name ++ ": " ++ value.indentedAt (depth + 1) ++
      indentedFields depth rest

end

def indented (value : Json) : String := value.indentedAt 0

def plainText : Json → String
  | string s => s
  | value => value.compact

end HttpScenario.Json
