import HttpScenario.Number.Integer

/-! Tables of code points. A table for all of them lists runs with a value in common, each by the
code of the value and, if it is longer than one, its length. A table for few of them lists ranges in
hexadecimal. -/

namespace HttpScenario.Text

def hexNumber (cs : List Char) : Nat := (Integer.valueIn? 16 cs).getD 0

def rangesOf (text : String) : List (Nat × Nat) :=
  (text.splitOn " ").map fun range =>
    match (range.splitOn "-").map fun part => hexNumber part.toList with
    | [first, last] => (first, last)
    | numbers => (numbers.headD 0, numbers.headD 0)

def entriesOf (text : String) : List (String × String) :=
  (text.splitOn " ").filterMap fun entry =>
    match entry.splitOn ":" with
    | [key, value] => some (key, value)
    | _ => none

/-- Entries that give a text to a code point and to each of those behind it, with the code points of
the texts. -/
def sequencesOf (text : String) : List (Nat × List Char) :=
  (entriesOf text).flatMap fun (first, texts) =>
    (texts.splitOn ",").mapIdx fun i codes =>
      let characters := (codes.splitOn ".").map fun code => Char.ofNat (hexNumber code.toList)
      (hexNumber first.toList + i, characters)

abbrev Runs (α : Type) := Array (Nat × α)

namespace Runs

variable {α : Type}

/-- Codes start with a capital and go on in small letters. -/
def decode (value : String → α) (start : Nat) : List Char → List (Nat × α)
  | [] => []
  | c :: cs =>
    let code := cs.takeWhile Char.isLower
    let behind := cs.dropWhile Char.isLower
    let length := (Integer.digitsValue? (behind.takeWhile Char.isDigit)).getD 1
    (start, value (String.ofList (c :: code))) ::
      decode value (start + length) (behind.dropWhile Char.isDigit)
termination_by cs => cs.length
decreasing_by
  have hcode := (List.dropWhile_suffix Char.isLower (l := cs)).length_le
  have hdigits := (List.dropWhile_suffix Char.isDigit (l := cs.dropWhile Char.isLower)).length_le
  simp only [List.length_cons]
  omega

def ofLines (value : String → α) (lines : List String) : Runs α :=
  (decode value 0 (String.join lines).toList).toArray

/-- The value of the last run that starts at or before `code`, by halving the part of the table from
`low` on of length `size`. -/
def search (table : Runs α) (code low size : Nat) : Option α :=
  if size ≤ 1 then table[low]?.map Prod.snd
  else
    let half := size / 2
    match table[low + half]? with
    | some (start, _) =>
      if start ≤ code then search table code (low + half) (size - half)
      else search table code low half
    | none => none
termination_by size

def at? (table : Runs α) (code : Nat) : Option α := table.search code 0 table.size

def ranges (table : Runs α) (p : α → Bool) : List (Nat × Nat) :=
  let ends := (table.toList.drop 1).map Prod.fst ++ [0x110000]
  (table.toList.zip ends).filterMap fun ((start, value), stop) =>
    if p value then some (start, stop - 1) else none

end Runs

end HttpScenario.Text
