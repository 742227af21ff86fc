import HttpScenario.Number.Integer
import HttpScenario.Url.Domain
import HttpScenario.Url.Percent

/-! Hosts of URLs: domain names, and addresses of both versions in any of their spellings. -/

namespace HttpScenario.Url

inductive Host
  | domain (name : String)
  | ipv4 (address : Nat)
  | ipv6 (pieces : List Nat)
  | plain (name : String)
deriving DecidableEq

namespace Ipv4

def number? (cs : List Char) : Option Nat :=
  match cs with
  | ['0', 'x'] | ['0', 'X'] => some 0
  | '0' :: 'x' :: ds | '0' :: 'X' :: ds => Integer.valueIn? 16 ds
  | '0' :: d :: ds => Integer.valueIn? 8 (d :: ds)
  | _ => Integer.valueIn? 10 cs

def parts (cs : List Char) : List (List Char) :=
  let all := cs.splitOn '.'
  if 1 < all.length ∧ all.getLast? = some [] then all.dropLast else all

/-- A name whose last part is a number is meant as an address. -/
def endsInNumber (cs : List Char) : Bool :=
  match (parts cs).getLast? with
  | some part => (!part.isEmpty && part.all Char.isDigit) || (number? part).isSome
  | none => false

/-- The last number fills all bytes that the ones before it leave. -/
def ofList? (cs : List Char) : Option Nat := do
  let numbers ← (parts cs).mapM number?
  let last ← numbers.getLast?
  let first := numbers.dropLast
  if 3 < first.length ∨ first.any (255 < ·) ∨ Nat.pow 256 (4 - first.length) ≤ last then none
  else some (first.zipIdx.foldl (fun n (part, i) => n + part * Nat.pow 256 (3 - i)) last)

def text (address : Nat) : String :=
  ".".intercalate ([3, 2, 1, 0].map fun i => toString (address / Nat.pow 256 i % 256))

end Ipv4

namespace Ipv6

def dotted? (cs : List Char) : Option (List Nat) := do
  let bytes ← (cs.splitOn '.').mapM fun part =>
    if part.all Char.isDigit ∧ (part.length = 1 ∨ part.head? ≠ some '0') then
      (Integer.valueIn? 10 part).filter (· < 256)
    else none
  match bytes with
  | [a, b, c, d] => some [256 * a + b, 256 * c + d]
  | _ => none

def piece? (cs : List Char) : Option Nat := if cs.length ≤ 4 then Integer.valueIn? 16 cs else none

def pieces? : List (List Char) → Option (List Nat)
  | [] => some []
  | [last] => if last.contains '.' then dotted? last else (piece? last).map fun n => [n]
  | part :: rest => do
    let n ← piece? part
    return n :: (← pieces? rest)

def splitAtGap : List Char → Option (List Char × List Char)
  | ':' :: ':' :: rest => some ([], rest)
  | c :: rest => (splitAtGap rest).map fun (before, behind) => (c :: before, behind)
  | [] => none

def group? (cs : List Char) : Option (List Nat) :=
  if cs.isEmpty then some [] else pieces? (cs.splitOn ':')

/-- Eight pieces, or fewer and a gap for the others, which are zero. -/
def ofList? (cs : List Char) : Option (List Nat) :=
  match splitAtGap cs with
  | none => (group? cs).filter fun pieces => pieces.length = 8
  | some (before, behind) => do
    if before.contains '.' then none
    else
      let left ← group? before
      let right ← group? behind
      if 7 < left.length + right.length then none
      else some (left ++ List.replicate (8 - left.length - right.length) 0 ++ right)

def longestGap (pieces : List Nat) : Nat × Nat :=
  let runs := (List.range pieces.length).map fun i =>
    (i, ((pieces.drop i).takeWhile (· == 0)).length)
  runs.foldl (fun best run => if best.2 < run.2 then run else best) (0, 0)

def hex (n : Nat) : String := String.ofList (Nat.toDigits 16 n)

def text (pieces : List Nat) : String :=
  let joined (part : List Nat) : String := ":".intercalate (part.map hex)
  let (start, size) := longestGap pieces
  if size < 2 then joined pieces
  else joined (pieces.take start) ++ "::" ++ joined (pieces.drop (start + size))

end Ipv6

namespace Host

def text : Host → String
  | domain name | plain name => name
  | ipv4 address => Ipv4.text address
  | ipv6 pieces => "[" ++ Ipv6.text pieces ++ "]"

def ofDomain (cs : List Char) : Except Error Host :=
  match Percent.decode? cs with
  | none => .error .internationalName
  | some name => do
    let ascii ← Domain.toAscii name.toList
    if ascii.isEmpty then .error .emptyHost
    else if Ipv4.endsInNumber ascii then
      (Ipv4.ofList? ascii).elim (.error .invalidIpv4) fun address => .ok (ipv4 address)
    else .ok (domain (String.ofList ascii))

def ofList (special : Bool) (cs : List Char) : Except Error Host :=
  match cs with
  | '[' :: rest =>
    if rest.getLast? = some ']' then
      (Ipv6.ofList? rest.dropLast).elim (.error .invalidIpv6) fun pieces => .ok (ipv6 pieces)
    else .error .invalidIpv6
  | _ =>
    if special then ofDomain cs
    else if cs.any Domain.isForbiddenInHost then .error .invalidHostCharacter
    else .ok (plain (String.ofList (Percent.encode Percent.isControl cs)))

end Host

end HttpScenario.Url
