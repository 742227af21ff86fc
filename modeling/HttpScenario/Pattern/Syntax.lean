import HttpScenario.Pattern.ClassName

/-! Patterns as trees. -/

namespace HttpScenario.Pattern

open Text (CharSet)

inductive Look
  | textStart
  | textEnd
  | lineStart (crlf : Bool)
  | lineEnd (crlf : Bool)
  | boundary (unicode : Bool)
  | noBoundary (unicode : Bool)
  | wordStart (unicode : Bool)
  | wordEnd (unicode : Bool)
  /-- No word character before. -/
  | wordStartHalf (unicode : Bool)
  /-- No word character after. -/
  | wordEndHalf (unicode : Bool)
deriving DecidableEq

namespace Look

def holds (look : Look) (before after : Option Char) : Bool :=
  let word (unicode : Bool) (c : Option Char) : Bool :=
    c.any (if unicode then Text.wordTable.holds else ClassName.asciiWords.holds)
  match look with
  | textStart => before.isNone
  | textEnd => after.isNone
  | lineStart crlf =>
    if crlf then
      before.isNone || before == some '\n' || (before == some '\r' && after != some '\n')
    else before.isNone || before == some '\n'
  | lineEnd crlf =>
    if crlf then
      after.isNone || after == some '\r' || (after == some '\n' && before != some '\r')
    else after.isNone || after == some '\n'
  | boundary unicode => word unicode before != word unicode after
  | noBoundary unicode => word unicode before == word unicode after
  | wordStart unicode => !word unicode before && word unicode after
  | wordEnd unicode => word unicode before && !word unicode after
  | wordStartHalf unicode => !word unicode before
  | wordEndHalf unicode => !word unicode after

end Look

inductive Node
  | empty
  | set (s : CharSet)
  | look (l : Look)
  | concat (parts : List Node)
  /-- The first alternative that leads to a match is preferred. -/
  | choice (parts : List Node)
  | repeated (part : Node) (least : Nat) (most : Option Nat) (greedy : Bool)
  | group (index : Nat) (part : Node)

namespace Node

mutual

def canBeEmpty : Node → Bool
  | empty => true
  | set _ => false
  | look _ => true
  | concat parts => allCanBeEmpty parts
  | choice parts => anyCanBeEmpty parts
  | repeated part least _ _ => least == 0 || part.canBeEmpty
  | group _ part => part.canBeEmpty

def allCanBeEmpty : List Node → Bool
  | [] => true
  | part :: rest => part.canBeEmpty && allCanBeEmpty rest

def anyCanBeEmpty : List Node → Bool
  | [] => false
  | part :: rest => part.canBeEmpty || anyCanBeEmpty rest

end

end Node

end HttpScenario.Pattern
