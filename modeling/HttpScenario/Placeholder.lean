import HttpScenario.Json.Printer

/-! Placeholders in text: a name between braces stands for the variable of that name. A name that
is not in the context is left as it stands, and inserted text is not looked at again. -/

namespace HttpScenario

abbrev Context := Fields Json

namespace Placeholder

inductive Piece
  | char (c : Char)
  | name (cs : List Char)
deriving DecidableEq

def isNameChar (c : Char) : Bool := c.isAlphanum ∨ c = '_' ∨ c = '.' ∨ c = '-'

/-- What stands after an opening brace: a name, its closing brace, and the rest. -/
def afterBrace? (cs : List Char) : Option (List Char × List Char) :=
  let name := cs.takeWhile isNameChar
  match cs.dropWhile isNameChar with
  | c :: rest => if c = '}' ∧ name ≠ [] then some (name, rest) else none
  | [] => none

theorem afterBrace?_length {cs name rest : List Char} (h : afterBrace? cs = some (name, rest)) :
    rest.length < cs.length := by
  have hdrop : (cs.dropWhile isNameChar).length ≤ cs.length :=
    (List.dropWhile_sublist isNameChar).length_le
  rw [afterBrace?] at h
  split at h
  · rename_i c tail heq
    rw [heq] at hdrop
    split at h
    · simp only [Option.some.injEq, Prod.mk.injEq] at h
      rw [List.length_cons, h.2] at hdrop
      exact hdrop
    · exact absurd h (by simp)
  · exact absurd h (by simp)

def pieces (cs : List Char) : List Piece :=
  match cs with
  | [] => []
  | c :: cs =>
    if c = '{' then
      match _h : afterBrace? cs with
      | some (name, rest) => .name name :: pieces rest
      | none => .char c :: pieces cs
    else .char c :: pieces cs
termination_by cs.length
decreasing_by
  · exact Nat.lt_succ_of_lt (afterBrace?_length _h)
  · exact Nat.lt_succ_self _
  · exact Nat.lt_succ_self _

namespace Piece

def source : Piece → List Char
  | char c => [c]
  | name cs => '{' :: cs ++ ['}']

def fill (context : Context) : Piece → List Char
  | char c => [c]
  | name cs =>
    match context.get? (String.ofList cs) with
    | some value => value.plainText.toList
    | none => source (name cs)

end Piece

def substituteList (context : Context) (cs : List Char) : List Char :=
  (pieces cs).flatMap (Piece.fill context)

def substitute (context : Context) (text : String) : String :=
  String.ofList (substituteList context text.toList)

mutual

def substituteValue (context : Context) : Json → Json
  | .string s => .string (substitute context s)
  | .array items => .array (substituteItems context items)
  | .object fields => .object (substituteFields context fields)
  | value => value

def substituteItems (context : Context) : List Json → List Json
  | [] => []
  | item :: rest => substituteValue context item :: substituteItems context rest

def substituteFields (context : Context) : List (String × Json) → List (String × Json)
  | [] => []
  | (name, value) :: rest =>
    (name, substituteValue context value) :: substituteFields context rest

end

end Placeholder

end HttpScenario
