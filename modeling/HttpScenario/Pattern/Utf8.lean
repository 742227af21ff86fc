/-! Ranges of characters as ranges of bytes. The UTF-8 forms of all characters of a range are those
sequences of which each byte lies in a range by itself, once the range is cut into parts whose forms
differ in their last bytes alone. -/

namespace HttpScenario.Pattern.Utf8

abbrev ByteRange := Nat × Nat

def bytes (code : Nat) : List Nat := (String.utf8EncodeChar (Char.ofNat code)).map UInt8.toNat

/-- The last code of the first part, if the range has to be cut where `count` more bytes follow. -/
def cutAt? (first last count : Nat) : Option Nat :=
  let size := Nat.pow 64 count
  if first / size = last / size then none
  else if first % size ≠ 0 then some (first / size * size + size - 1)
  else if last % size ≠ size - 1 then some (last / size * size - 1)
  else none

/-- Forms of different lengths have nothing in common. -/
def cut? (first last : Nat) : Option Nat :=
  match [0x7F, 0x7FF, 0xFFFF].find? fun most => first ≤ most ∧ most < last with
  | some most => some most
  | none => if last ≤ 0x7F then none else [1, 2, 3].findSome? (cutAt? first last)

def sequences (first last : Nat) : List (List ByteRange) :=
  if last < first then []
  else
    match cut? first last with
    | some most =>
      if first ≤ most ∧ most < last then sequences first most ++ sequences (most + 1) last else []
    | none => [(bytes first).zip (bytes last)]
termination_by last + 1 - first

def sequencesOf (ranges : List (Nat × Nat)) : List (List ByteRange) :=
  ranges.flatMap fun (first, last) => sequences first last

end HttpScenario.Pattern.Utf8
