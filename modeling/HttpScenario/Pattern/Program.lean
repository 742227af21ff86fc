import HttpScenario.Pattern.Syntax

/-! Programs that recognise patterns. A program runs as a set of threads in order of preference;
a fork prefers its first branch. -/

namespace HttpScenario.Pattern

inductive Instruction
  | read (table : Text.CharSet.Table)
  | look (l : Look)
  | note (slot : Nat)
  | fork (first second : Nat)
  | jump (target : Nat)
  | accept

namespace Program

def fork (greedy : Bool) (into past : Nat) : Instruction :=
  if greedy then .fork into past else .fork past into

def inSequence (blocks : List (Nat → List Instruction)) (start : Nat) : List Instruction :=
  match blocks with
  | [] => []
  | block :: rest =>
    let code := block start
    code ++ inSequence rest (start + code.length)

def oneOrMore (greedy : Bool) (block : Nat → List Instruction) (start : Nat) :
    List Instruction :=
  let code := block start
  let back := start + code.length
  code ++ [fork greedy start (back + 1)]

/-- Any number of passes. A block that can match nothing is entered at most once without progress,
so its loop stands behind the choice to enter it. -/
def anyNumber (greedy canBeEmpty : Bool) (block : Nat → List Instruction) (start : Nat) :
    List Instruction :=
  if canBeEmpty then
    let code := oneOrMore greedy block (start + 1)
    fork greedy (start + 1) (start + 1 + code.length) :: code
  else
    let code := block (start + 1)
    fork greedy (start + 1) (start + code.length + 2) :: code ++ [.jump start]

def upTo (count : Nat) (greedy : Bool) (block : Nat → List Instruction) (size start : Nat) :
    List Instruction :=
  let past := start + count * (size + 1)
  let pass (address : Nat) := fork greedy (address + 1) past :: block (address + 1)
  inSequence (List.replicate count pass) start

def alternatives (blocks : List (Nat → List Instruction)) (start : Nat) : List Instruction :=
  match blocks with
  | [] => []
  | [block] => block start
  | block :: rest =>
    let code := block (start + 1)
    let next := start + code.length + 2
    let others := alternatives rest next
    .fork (start + 1) next :: code ++ .jump (next + others.length) :: others

mutual

/-- The code of a node at an address; it ends at the address behind it. -/
def code : Node → Nat → List Instruction
  | .empty, _ => []
  | .set s, _ => [.read s.table]
  | .look l, _ => [.look l]
  | .concat parts, start => inSequence (codes parts) start
  | .choice parts, start => alternatives (codes parts) start
  | .group i part, start =>
    .note (2 * i) :: code part (start + 1) ++ [.note (2 * i + 1)]
  | .repeated part least most greedy, start =>
    let block := code part
    match most with
    | none =>
      if least = 0 then anyNumber greedy part.canBeEmpty block start
      else inSequence (List.replicate (least - 1) block ++ [oneOrMore greedy block]) start
    | some m =>
      inSequence
        (List.replicate least block ++ [upTo (m - least) greedy block (block 0).length]) start

def codes : List Node → List (Nat → List Instruction)
  | [] => []
  | part :: rest => code part :: codes rest

end

def ofNode (node : Node) : Array Instruction :=
  (code (.group 0 node) 0 ++ [Instruction.accept]).toArray

end Program

end HttpScenario.Pattern
