import HttpScenario.Pattern.Shape
import HttpScenario.Pattern.Utf8

/-! The size of a pattern once it is compiled. A pattern is compiled to two automata that read
bytes, one for each direction, and each of them may take up to a limit of bytes; so what counts is
how many states there are, and how many transitions these have. States have numbers in the order in
which they are made. -/

namespace HttpScenario.Pattern.Size

open Text (CharSet)

def limit : Nat := 10 * Nat.pow 2 20

/-- The states made so far, and the bytes they take beyond those that every state takes. -/
structure Tally where
  states : Nat
  extra : Nat

def Tally.exceeds (tally : Tally) : Bool := limit < 32 * tally.states + tally.extra

def Tally.add (tally : Tally) (extra : Nat) : Tally := ⟨tally.states + 1, tally.extra + extra⟩

def Tally.addUnion (tally : Tally) (count : Nat) : Tally := tally.add (4 * count)

def Tally.addSparse (tally : Tally) (count : Nat) : Tally := tally.add (8 * count)

structure Edge where
  range : Utf8.ByteRange
  target : Nat
deriving BEq, Inhabited

def hash (numbers : List Nat) : UInt64 :=
  numbers.foldl (fun h n => (h ^^^ UInt64.ofNat n) * 1099511628211) 14695981039346656037

/-- States that can be used again, by a slot which a later state may take over. -/
abbrev Cache (κ : Type) := Array (Option (κ × Nat))

def Cache.find? {κ : Type} [BEq κ] (cache : Cache κ) (slot : Nat) (key : κ) : Option Nat :=
  match cache[slot]? with
  | some (some (other, state)) => if other == key then some state else none
  | _ => none

section Forward

/-- A state that may get more edges; the target of its latest one is open. -/
structure Unfinished where
  edges : List Edge
  open? : Option Utf8.ByteRange

structure Progress where
  tally : Tally
  cache : Cache (List Edge)
  /-- From the innermost to the root. -/
  path : List Unfinished

def Unfinished.closed (state : Unfinished) (target : Nat) : List Edge :=
  state.edges ++ (state.open?.map fun range => ⟨range, target⟩).toList

def slots : Nat := 10000

def finish (progress : Progress) (edges : List Edge) : Progress × Nat :=
  let key := edges.flatMap fun edge => [edge.range.1, edge.range.2, edge.target]
  let slot := (hash key).toNat % slots
  match progress.cache.find? slot edges with
  | some state => (progress, state)
  | none =>
    let state := progress.tally.states
    ({ progress with
        tally := progress.tally.addSparse edges.length
        cache := progress.cache.set! slot (some (edges, state)) }, state)

def finishBehind (progress : Progress) (target : Nat) : Nat → Progress
  | 0 =>
    match progress.path with
    | state :: rest => { progress with path := ⟨state.closed target, none⟩ :: rest }
    | [] => progress
  | n + 1 =>
    match progress.path with
    | state :: rest =>
      let (progress, target) := finish { progress with path := rest } (state.closed target)
      finishBehind progress target n
    | [] => progress

def sharedLength : List Unfinished → List Utf8.ByteRange → Nat
  | state :: states, range :: ranges =>
    if state.open? == some range then sharedLength states ranges + 1 else 0
  | _, _ => 0

def insert (target : Nat) (progress : Progress) (sequence : List Utf8.ByteRange) : Progress :=
  let shared := sharedLength progress.path.reverse sequence
  let progress := finishBehind progress target (progress.path.length - 1 - shared)
  match progress.path, sequence.drop shared with
  | state :: rest, range :: ranges =>
    let path := { state with open? := some range } :: rest
    { progress with path := ranges.foldl (fun path range => ⟨[], some range⟩ :: path) path }
  | _, _ => progress

def forwardSet (sequences : List (List Utf8.ByteRange)) (tally : Tally) : Tally :=
  let target := tally.states
  let start : Progress := ⟨tally.add 0, Array.replicate slots none, [⟨[], none⟩]⟩
  let progress := sequences.foldl (insert target) start
  let progress := finishBehind progress target (progress.path.length - 1)
  match progress.path with
  | root :: _ => (finish progress root.edges).1.tally
  | [] => progress.tally

end Forward

section Backward

def suffixSlots : Nat := 1000

/-- States that lead to a state by a byte in a range. -/
abbrev Suffixes := Cache (Nat × Utf8.ByteRange)

def backwardStep (progress : Tally × Suffixes × Nat) (range : Utf8.ByteRange) :
    Tally × Suffixes × Nat :=
  let (tally, cache, target) := progress
  let slot := (hash [target, range.1, range.2]).toNat % suffixSlots
  match cache.find? slot (target, range) with
  | some state => (tally, cache, state)
  | none => (tally.add 0, cache.set! slot (some ((target, range), tally.states)), tally.states)

def backwardSet (sequences : List (List Utf8.ByteRange)) (tally : Tally) : Tally :=
  let tally := tally.addUnion sequences.length
  let target := tally.states
  let start : Tally × Suffixes := (tally.add 0, Array.replicate suffixSlots none)
  (sequences.foldl (fun (tally, cache) sequence =>
    let (tally, cache, _) := sequence.foldl backwardStep (tally, cache, target)
    (tally, cache)) start).1

end Backward

def set (backward : Bool) (s : CharSet) (tally : Tally) : Tally :=
  let ranges := s.ranges
  if ranges.all fun range => range.2 ≤ 0x7F then (tally.add 0).addSparse ranges.length
  else if backward then backwardSet (Utf8.sequencesOf ranges) tally
  else forwardSet (Utf8.sequencesOf ranges) tally

/-- Literals that begin alike share states. A literal that goes on where another ends starts a new
group of edges, so that the order of preference is kept. -/
inductive Trie
  | node (groups : List (List (Nat × Trie)))

namespace Trie

def leaf : Trie := node [[]]

def step? (byte : Nat) : List (Nat × Trie) → Option Trie := List.lookup byte

def replace (byte : Nat) (below : Trie) : List (Nat × Trie) → List (Nat × Trie)
  | [] => [(byte, below)]
  | edge :: rest => if edge.1 = byte then (byte, below) :: rest else edge :: replace byte below rest

def insert : List Nat → Trie → Trie
  | [], node groups =>
    if groups.all List.isEmpty && 1 < groups.length then node groups else node ([] :: groups)
  | byte :: rest, node (edges :: groups) =>
    let below := insert rest ((step? byte edges).getD leaf)
    node (replace byte below edges :: groups)
  | bytes, node [] => node [bytes.map fun byte => (byte, leaf)]

mutual

/-- States come after those below them. -/
def count : Trie → Tally → Tally
  | node groups, tally =>
    if groups.all List.isEmpty then tally
    else
      let tally := countGroups groups tally
      tally.addUnion ((groups.filter fun edges => !edges.isEmpty).length + groups.length - 1)

def countGroups : List (List (Nat × Trie)) → Tally → Tally
  | [], tally => tally
  | edges :: earlier, tally =>
    let tally := countEdges edges (countGroups earlier tally)
    match edges with
    | [] => tally
    | [_] => tally.add 0
    | _ => tally.addSparse edges.length

def countEdges : List (Nat × Trie) → Tally → Tally
  | [], tally => tally
  | (_, below) :: rest, tally => countEdges rest (count below tally)

end

end Trie

def bytesOf (backward : Bool) (text : List Char) : List Nat :=
  let bytes := text.flatMap fun c => Utf8.bytes c.toNat
  if backward then bytes.reverse else bytes

def literals? (parts : List Shape) : Option (List (List Char)) :=
  parts.mapM fun part => match part with
    | .literal text => some text
    | _ => none

def literalChoice (backward : Bool) (texts : List (List Char)) (tally : Tally) : Tally :=
  let trie := texts.foldl (fun trie text => trie.insert (bytesOf backward text)) Trie.leaf
  trie.count (tally.add 0)

/-- Makes states so many times, or until there are too many. -/
def copies (make : Tally → Tally) : Nat → Tally → Tally
  | 0, tally => tally
  | n + 1, tally => if tally.exceeds then tally else copies make n (make tally)

def exactly (make : Tally → Tally) (n : Nat) (tally : Tally) : Tally :=
  if n = 0 then tally.add 0 else copies make n tally

/-- A part that can match nothing gets a choice of its own to pass it by. -/
def atLeast (make : Tally → Tally) (consumes : Bool) (n : Nat) (tally : Tally) : Tally :=
  if n = 0 then
    if consumes then make (tally.addUnion 2) else (((make tally).addUnion 2).addUnion 2).add 0
  else if n = 1 then (make tally).addUnion 2
  else (make (exactly make (n - 1) tally)).addUnion 2

def upTo (make : Tally → Tally) (least most : Nat) (tally : Tally) : Tally :=
  if least = 0 ∧ most = 1 then (make (tally.addUnion 2)).add 0
  else if least = most then exactly make least tally
  else
    copies (fun tally => make (tally.addUnion 2)) (most - least) ((exactly make least tally).add 0)

mutual

/-- The states for a pattern. Groups only count where matches are read forward. -/
def states (backward : Bool) : Shape → Tally → Tally
  | .empty, tally => tally.add 0
  | .literal text, tally => copies (·.add 0) (bytesOf backward text).length tally
  | .set s, tally => set backward s tally
  | .look _, tally => tally.add 0
  | .repeated part least most _, tally =>
    let make := states backward part
    match most with
    | none => atLeast make (0 < part.least?.getD 0) least tally
    | some most => upTo make least most tally
  | .group _ part, tally =>
    if backward then states backward part tally else (states backward part (tally.add 0)).add 0
  | .concat parts, tally => allStates backward parts tally
  | .choice parts, tally =>
    match literals? parts with
    | some texts => literalChoice backward texts tally
    | none => choiceStates backward parts tally

def allStates (backward : Bool) : List Shape → Tally → Tally
  | [], tally => tally
  | part :: rest, tally =>
    if backward then states backward part (allStates backward rest tally)
    else allStates backward rest (states backward part tally)

/-- The states in common come behind those of the first two alternatives. -/
def choiceStates (backward : Bool) : List Shape → Tally → Tally
  | first :: second :: rest, tally =>
    let tally := states backward second (states backward first tally)
    allInOrder backward rest ((tally.addUnion (rest.length + 2)).add 0)
  | [part], tally => states backward part tally
  | [], tally => (tally.add 0).addSparse 0

def allInOrder (backward : Bool) : List Shape → Tally → Tally
  | [], tally => tally
  | part :: rest, tally => allInOrder backward rest (states backward part tally)

end

mutual

/-- A match can only begin at the beginning of a text, or only end at its end. -/
def isAnchored (backward : Bool) : Shape → Bool
  | .look l => l == (if backward then .textEnd else .textStart)
  | .repeated part least _ _ => 0 < least && isAnchored backward part
  | .group _ part => isAnchored backward part
  | .concat parts => anyAnchored backward parts
  | .choice parts => allAnchored backward parts
  | _ => false

/-- Only what stands between an anchor and the end of a sequence that it is for can hide it. -/
def anyAnchored (backward : Bool) : List Shape → Bool
  | [] => false
  | part :: rest =>
    if backward then
      anyAnchored backward rest || (rest.all (·.most? == some 0) && isAnchored backward part)
    else isAnchored backward part || (part.most? == some 0 && anyAnchored backward rest)

def allAnchored (backward : Bool) : List Shape → Bool
  | [] => true
  | part :: rest => isAnchored backward part && allAnchored backward rest

end

/-- A search that can begin anywhere gets states that pass over the text before a match. -/
def ofShape (backward : Bool) (shape : Shape) : Tally :=
  let start : Tally := ⟨0, 0⟩
  let start := if isAnchored backward shape then start.add 0
    else ((start.addUnion 2).add 0).addSparse 1
  (states backward (.group 0 shape) start).add 0

/-- Very many literals to choose from are searched for in another way, without a limit. -/
def isTooLarge (shape : Shape) : Bool :=
  let searched := match shape with
    | .choice parts => (literals? parts).any fun texts => 3000 ≤ texts.length
    | _ => false
  !searched && ((ofShape false shape).exceeds || (ofShape true shape).exceeds)

end HttpScenario.Pattern.Size
