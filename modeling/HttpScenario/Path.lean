import HttpScenario.Number.Integer
import HttpScenario.Response
import HttpScenario.Text.Blank

/-! Paths into values. The text of a path is a list of steps: segments between dots, each a name
with indices in brackets. Resolution follows the steps; a text that is no path and a path that
leads nowhere both resolve to nothing. So an index may be of any size: one of more than 64 bits, at
which no list has an item, leads nowhere. -/

namespace HttpScenario.Path

/-- One step down: by a name, which on a list has to be an index, or by an index. -/
inductive Step
  | named (name : String)
  | index (i : Nat)
deriving DecidableEq

namespace Step

def descend? (step : Step) (value : Json) : Option Json :=
  match step, value with
  | named name, .object fields => Fields.get? fields name
  | named name, .array items => (Integer.unboundedOfList? name.toList).bind fun i => items[i]?
  | index i, .array items => items[i]?
  | _, _ => none

end Step

def follow? : List Step → Json → Option Json
  | [], value => some value
  | step :: rest, value => (step.descend? value).bind (follow? rest)

def splitDots : List Char → List (List Char)
  | [] => [[]]
  | c :: cs =>
    if c = '.' then [] :: splitDots cs
    else
      match splitDots cs with
      | part :: parts => (c :: part) :: parts
      | [] => [[c]]

def untilClose : List Char → Option (List Char × List Char)
  | [] => none
  | c :: cs => if c = ']' then some ([], cs) else (untilClose cs).map fun (a, b) => (c :: a, b)

theorem untilClose_length {cs inner rest : List Char} (h : untilClose cs = some (inner, rest)) :
    rest.length < cs.length := by
  induction cs generalizing inner rest with
  | nil => simp [untilClose] at h
  | cons c cs ih =>
    rw [untilClose] at h
    split at h
    · simp_all
    · obtain ⟨⟨a, b⟩, hab, he⟩ := Option.map_eq_some_iff.mp h
      have hb := ih hab
      simp_all
      omega

def indices? (cs : List Char) : Option (List Step) :=
  match cs with
  | [] => some []
  | c :: cs =>
    if c = '[' then
      match _h : untilClose cs with
      | none => none
      | some (inner, rest) => do
        let i ← Integer.unboundedOfList? (Text.trimList inner)
        let steps ← indices? rest
        return .index i :: steps
    else none
termination_by cs.length
decreasing_by
  have := untilClose_length _h
  simp
  omega

def segment? (cs : List Char) : Option (List Step) :=
  let name := cs.takeWhile (· ≠ '[')
  let steps := indices? (cs.dropWhile (· ≠ '['))
  if name.isEmpty then steps else steps.map (.named (String.ofList name) :: ·)

/-- The steps that a text stands for; empty segments are skipped. -/
def steps? (cs : List Char) : Option (List Step) :=
  (((splitDots cs).filter fun part => !part.isEmpty).mapM segment?).map List.flatten

def resolveIn? (path : String) (value : Json) : Option Json :=
  (steps? path.toList).bind fun steps => follow? steps value

/-- The path within the data of a response: a leading `data` segment is optional. -/
def withinData (path : List Char) : List Char :=
  if path = "data".toList then []
  else
    match "data.".toList.isPrefixOf? path with
    | some rest => rest
    | none => if "data[".toList.isPrefixOf path then path.drop 4 else path

def resolve? (path : String) (response : Response) : Option Json :=
  if path = "status" then some (.nat response.status)
  else if path = "statusText" then some (.string response.statusText)
  else
    match "headers.".toList.isPrefixOf? path.toList with
    | some name => (response.header? (String.ofList name)).map .string
    | none => resolveIn? (String.ofList (withinData path.toList)) response.data

end HttpScenario.Path
