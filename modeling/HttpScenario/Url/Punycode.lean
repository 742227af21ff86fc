/-! The spelling of text in ASCII that domain names use. The ASCII characters come first; behind the
last hyphen, numbers to a changing base tell which other characters stand where. -/

namespace HttpScenario.Url.Punycode

def digitChar (d : Nat) : Char := if d < 26 then Char.ofNat (97 + d) else Char.ofNat (22 + d)

def digitValue? (c : Char) : Option Nat :=
  if c.isDigit then some (c.toNat - 22)
  else if c.isAlpha then some (c.toLower.toNat - 97)
  else none

def threshold (place bias : Nat) : Nat := max 1 (min 26 (36 * (place + 1) - bias))

theorem threshold_pos (place bias : Nat) : 0 < threshold place bias := by
  unfold threshold
  omega

def shrink (n : Nat) : Nat × Nat :=
  if 455 < n then
    let (times, left) := shrink (n / 35)
    (times + 1, left)
  else (0, n)
termination_by n

def adapt (delta count : Nat) (first : Bool) : Nat :=
  let halved := if first then delta / 700 else delta / 2
  let (times, left) := shrink (halved + halved / count)
  36 * times + 36 * left / (left + 38)

def digits (bias place n : Nat) : List Char :=
  let t := threshold place bias
  if n < t then [digitChar n]
  else digitChar (t + (n - t) % (36 - t)) :: digits bias (place + 1) ((n - t) / (36 - t))
termination_by n
decreasing_by
  have hpos := threshold_pos place bias
  exact Nat.lt_of_le_of_lt (Nat.div_le_self _ _) (by omega)

structure Progress where
  written : List Char
  delta : Nat
  bias : Nat
  count : Nat

def Progress.pass (start code : Nat) (state : Progress) (c : Char) : Progress :=
  if c.toNat < code then { state with delta := state.delta + 1 }
  else if c.toNat = code then
    { written := state.written ++ digits state.bias 0 state.delta
      delta := 0
      bias := adapt state.delta (state.count + 1) (state.count = start)
      count := state.count + 1 }
  else state

/-- Places the characters with the numbers `codes`, which rise; those below `next` are placed. -/
def place (cs : List Char) (start next : Nat) (state : Progress) : List Nat → Progress
  | [] => state
  | code :: rest =>
    let skipped := { state with delta := state.delta + (code - next) * (state.count + 1) }
    let passed := cs.foldl (Progress.pass start code) skipped
    place cs start (code + 1) { passed with delta := passed.delta + 1 } rest

def isAscii (c : Char) : Bool := c.toNat < 128

def encode (cs : List Char) : List Char :=
  let plain := cs.filter isAscii
  let codes := ((cs.filter fun c => !isAscii c).map Char.toNat).mergeSort
  let state := place cs plain.length 128 ⟨[], 0, 72, plain.length⟩ codes.eraseDups
  plain ++ (if plain.isEmpty then [] else ['-']) ++ state.written

/-- Longer texts would take too long to encode. -/
def encode? (cs : List Char) : Option (List Char) :=
  if 1000 < cs.length then none else some (encode cs)

def number? (bias place weight : Nat) : List Char → Option (Nat × List Char)
  | [] => none
  | c :: rest => do
    let d ← digitValue? c
    let t := threshold place bias
    if d < t then return (d * weight, rest)
    let (n, rest) ← number? bias (place + 1) (weight * (36 - t)) rest
    return (d * weight + n, rest)

/-- Inserts the characters that the digits tell of; `fuel` bounds their number, and the first of
them is the one before which `start` characters are known. -/
def insertAll (start fuel bias code index : Nat) (known : List Char) (cs : List Char) :
    Option (List Char) :=
  match fuel, cs with
  | _, [] => some known
  | 0, _ => none
  | fuel + 1, cs => do
    let (n, rest) ← number? bias 0 1 cs
    let count := known.length + 1
    let code := code + (index + n) / count
    let index := (index + n) % count
    if ¬ code.isValidChar then none
    else
      insertAll start fuel (adapt n count (known.length = start)) code (index + 1)
        (known.insertIdx index (Char.ofNat code)) rest

def decode? (cs : List Char) : Option (List Char) :=
  let (behind, before) := (cs.reverse.takeWhile (· ≠ '-'), cs.reverse.dropWhile (· ≠ '-'))
  let known := (before.drop 1).reverse
  if cs.length ≤ 2000 ∧ cs.all isAscii then
    insertAll known.length cs.length 72 128 0 known behind.reverse
  else none

end HttpScenario.Url.Punycode
