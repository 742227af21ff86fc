import HttpScenario.Pattern.Program

/-! Searching a text. All threads advance together, one character at a time, and two threads at
the same place of the program count as the preferred one of them; so a search takes time in
proportion to text and program. The leftmost match wins, and of several there the preferred one. -/

namespace HttpScenario.Pattern.Search

structure Thread where
  address : Nat
  notes : List (Nat × Nat)

/-- Threads that wait for a character, latest first, and the places of the program they and their
forerunners have been at. -/
structure Frontier where
  seen : Array Bool
  waiting : List Thread

def Frontier.none (program : Array Instruction) : Frontier :=
  ⟨Array.replicate program.size false, []⟩

/-- Follows threads, first the top of the stack, until each waits for a character or accepts. -/
def advance (program : Array Instruction) (place : Nat) (before after : Option Char) :
    Nat → List Thread → Frontier → Frontier
  | 0, _, frontier => frontier
  | _, [], frontier => frontier
  | fuel + 1, thread :: stack, frontier =>
    if frontier.seen.getD thread.address true then
      advance program place before after fuel stack frontier
    else
      let frontier := { frontier with seen := frontier.seen.set! thread.address true }
      let next := thread.address + 1
      match program[thread.address]? with
      | some (.look l) =>
        if l.holds before after then
          let thread := { thread with address := next }
          advance program place before after fuel (thread :: stack) frontier
        else advance program place before after fuel stack frontier
      | some (.note slot) =>
        let thread := ⟨next, (slot, place) :: thread.notes⟩
        advance program place before after fuel (thread :: stack) frontier
      | some (.fork first second) =>
        let stack := { thread with address := first } :: { thread with address := second } :: stack
        advance program place before after fuel stack frontier
      | some (.jump target) =>
        let thread := { thread with address := target }
        advance program place before after fuel (thread :: stack) frontier
      | _ =>
        let frontier := { frontier with waiting := thread :: frontier.waiting }
        advance program place before after fuel stack frontier

def enter (program : Array Instruction) (place : Nat) (before after : Option Char)
    (thread : Thread) (frontier : Frontier) : Frontier :=
  advance program place before after (2 * program.size + 2) [thread] frontier

def consume (program : Array Instruction) (place : Nat) (c : Char) (after : Option Char) :
    List Thread → Frontier → Option Thread → Frontier × Option Thread
  | [], frontier, best => (frontier, best)
  | thread :: rest, frontier, best =>
    match program[thread.address]? with
    | some .accept => (frontier, some thread)
    | some (.read table) =>
      let next := { thread with address := thread.address + 1 }
      let frontier := if table.holds c then
          enter program (place + 1) (some c) after next frontier
        else frontier
      consume program place c after rest frontier best
    | _ => consume program place c after rest frontier best

def accepted? (program : Array Instruction) (threads : List Thread) : Option Thread :=
  threads.find? fun thread =>
    match program[thread.address]? with
    | some .accept => true
    | _ => false

/-- Runs from `place` on. A new thread starts at every place until one has accepted. -/
def run (program : Array Instruction) (place : Nat) (before : Option Char) (frontier : Frontier)
    (best : Option Thread) (text : List Char) : Option Thread :=
  let frontier := if best.isNone then
      enter program place before text.head? ⟨0, []⟩ frontier
    else frontier
  let threads := frontier.waiting.reverse
  match text with
  | [] => (accepted? program threads).or best
  | c :: rest =>
    if threads.isEmpty && best.isSome then best
    else
      let (next, best) :=
        consume program place c rest.head? threads (Frontier.none program) best
      run program (place + 1) (some c) next best rest

def find? (program : Array Instruction) (text : List Char) : Option (List (Nat × Nat)) :=
  (run program 0 none (Frontier.none program) none text).map Thread.notes

end HttpScenario.Pattern.Search
