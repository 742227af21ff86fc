import HttpScenario.Pattern.Syntax

/-! Patterns put more simply, without a change of what they match. Characters in a row make one
literal, alternatives of one character make a set, and what alternatives begin with in common is
written once. -/

namespace HttpScenario.Pattern

open Text (CharSet)

inductive Shape
  | empty
  | literal (text : List Char)
  | set (s : CharSet)
  | look (l : Look)
  | repeated (part : Shape) (least : Nat) (most : Option Nat) (greedy : Bool)
  | group (index : Nat) (part : Shape)
  | concat (parts : List Shape)
  | choice (parts : List Shape)

namespace Shape

mutual

def same : Shape → Shape → Bool
  | empty, empty => true
  | literal a, literal b => a == b
  | set s, set t => s.bounds == t.bounds
  | look l, look k => l == k
  | repeated a least most greedy, repeated b least' most' greedy' =>
    same a b && least == least' && most == most' && greedy == greedy'
  | group i a, group j b => i == j && same a b
  | concat as, concat bs => sameAll as bs
  | choice as, choice bs => sameAll as bs
  | _, _ => false

def sameAll : List Shape → List Shape → Bool
  | [], [] => true
  | a :: as, b :: bs => same a b && sameAll as bs
  | _, _ => false

end

def sum? (lengths : List (Option Nat)) : Option Nat :=
  (lengths.mapM id).map fun lengths => lengths.foldl Nat.add 0

mutual

/-- The fewest bytes of a match. A set without members has none, and so no number either. -/
def least? : Shape → Option Nat
  | empty | look _ => some 0
  | literal text => some (String.ofList text).utf8ByteSize
  | set s => s.ranges.head?.map fun range => (Char.ofNat range.1).utf8Size
  | repeated part least _ _ => (least? part).map (least * ·)
  | group _ part => least? part
  | concat parts => sum? (leasts parts)
  | choice parts => ((leasts parts).mapM id).bind List.min?

def leasts : List Shape → List (Option Nat)
  | [] => []
  | part :: rest => least? part :: leasts rest

end

mutual

/-- The most bytes of a match, if there is a bound. -/
def most? : Shape → Option Nat
  | empty | look _ => some 0
  | literal text => some (String.ofList text).utf8ByteSize
  | set s => s.ranges.getLast?.map fun range => (Char.ofNat range.2).utf8Size
  | repeated part _ most _ => most.bind fun n => (most? part).map (n * ·)
  | group _ part => most? part
  | concat parts => sum? (mosts parts)
  | choice parts => ((mosts parts).mapM id).bind List.max?

def mosts : List Shape → List (Option Nat)
  | [] => []
  | part :: rest => most? part :: mosts rest

end

def ofSet (s : CharSet) : Shape :=
  match s.ranges with
  | [(first, last)] => if first = last then literal [Char.ofNat first] else set s
  | _ => set s

/-- What matches no text at all is there once or not. -/
def repetition (part : Shape) (least : Nat) (most : Option Nat) (greedy : Bool) : Shape :=
  let (least, most) :=
    if most? part = some 0 then (min least 1, some ((most.map (min · 1)).getD 1)) else (least, most)
  if most = some 0 then empty
  else if least = 1 ∧ most = some 1 then part
  else repeated part least most greedy

def members : Shape → List Shape
  | empty => []
  | concat parts => parts
  | part => [part]

def joined : Shape → List Shape → List Shape
  | literal a, literal b :: rest => literal (a ++ b) :: rest
  | part, rest => part :: rest

def sequence (parts : List Shape) : Shape :=
  match (parts.flatMap members).foldr joined [] with
  | [] => empty
  | [part] => part
  | parts => concat parts

def alternatives : Shape → List Shape
  | choice parts => parts
  | part => [part]

def character? : Shape → Option Char
  | literal [c] => some c
  | _ => none

def class? : Shape → Option CharSet
  | set s => some s
  | _ => none

def commonPrefix : List Shape → List Shape → List Shape
  | a :: as, b :: bs => if same a b then a :: commonPrefix as bs else []
  | _, _ => []

/-- What all alternatives begin with, if there are two or more and each is a sequence. -/
def sharedBeginning (parts : List Shape) : List Shape :=
  match parts.mapM fun part => if part matches concat _ then some (members part) else none with
  | some (first :: rest@(_ :: _)) => rest.foldl commonPrefix first
  | _ => []

/-- Alternatives, where what they begin with can be written once so many times. -/
def alternation (times : Nat) (parts : List Shape) : Shape :=
  let parts := parts.flatMap alternatives
  match parts, parts.mapM character?, parts.mapM class? with
  | [], _, _ => set .empty
  | [part], _, _ => part
  | _, some cs, _ => ofSet (.ofCodes (cs.map Char.toNat))
  | _, _, some sets => ofSet (sets.foldl (· ∪ ·) .empty)
  | _, _, _ =>
    match times, sharedBeginning parts with
    | times + 1, beginning@(_ :: _) =>
      let ends := parts.map fun part => sequence ((members part).drop beginning.length)
      sequence (beginning ++ [alternation times ends])
    | _, _ => choice parts

mutual

def ofNode : Node → Shape
  | .empty => empty
  | .set s => ofSet s
  | .look l => look l
  | .concat parts => sequence (ofNodes parts)
  | .choice parts =>
    let parts := ofNodes parts
    alternation (parts.map fun part => (members part).length).sum parts
  | .repeated part least most greedy => repetition (ofNode part) least most greedy
  | .group i part => group i (ofNode part)

def ofNodes : List Node → List Shape
  | [] => []
  | part :: rest => ofNode part :: ofNodes rest

end

end Shape

end HttpScenario.Pattern
