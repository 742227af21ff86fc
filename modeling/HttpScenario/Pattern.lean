import HttpScenario.Pattern.Parser
import HttpScenario.Pattern.Search
import HttpScenario.Pattern.Size

/-! Patterns that texts are searched for. A pattern is read once; a text that is none, or one that
would be too large, is refused with a message. -/

namespace HttpScenario

structure Pattern where
  source : String
  names : List (String × Nat)
  program : Array Pattern.Instruction

namespace Pattern

inductive Error
  | unreadable (source : String)
  | tooLarge
deriving DecidableEq

def Error.message : Error → String
  | unreadable source => s!"regex parse error:\n    {source}\nerror: not a pattern"
  | tooLarge => "Compiled regex exceeds size limit of 10485760 bytes."

def ofText (source : String) : Except Error Pattern :=
  match parse? source with
  | none => .error (.unreadable source)
  | some (node, names) =>
    if Size.isTooLarge (.ofNode node) then .error .tooLarge
    else .ok ⟨source, names, Program.ofNode node⟩

def isMatch (pattern : Pattern) (text : String) : Bool :=
  (Search.find? pattern.program text.toList).isSome

inductive Group
  | index (i : Nat)
  | name (s : String)
deriving DecidableEq

def slice (text : List Char) (start stop : Nat) : String :=
  String.ofList ((text.drop start).take (stop - start))

def capture? (pattern : Pattern) (group : Group) (text : String) : Option String := do
  let notes ← Search.find? pattern.program text.toList
  let i ← match group with
    | .index i => some i
    | .name s => pattern.names.lookup s
  let start ← notes.lookup (2 * i)
  let stop ← notes.lookup (2 * i + 1)
  return slice text.toList start stop

end Pattern

end HttpScenario
