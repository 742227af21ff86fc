import HttpScenario.Number.Integer

/-! Tokens of YAML text, and the places in a text at which they are read. -/

namespace HttpScenario.Yaml

inductive ScalarStyle
  | plain
  | singleQuoted
  | doubleQuoted
  | literal
  | folded
deriving DecidableEq

/-- Indentation opens and closes the block tokens, as brackets do the flow tokens. -/
inductive Token
  | version (major minor : Nat)
  | tagShorthand (handle expansion : String)
  | documentStart
  | documentEnd
  | blockSequenceStart
  | blockMappingStart
  | blockEnd
  | flowSequenceStart
  | flowSequenceEnd
  | flowMappingStart
  | flowMappingEnd
  | blockEntry
  | flowEntry
  | key
  | value
  | alias (name : String)
  | anchor (name : String)
  | tag (handle suffix : String)
  | scalar (style : ScalarStyle) (text : String)
deriving DecidableEq

structure Cursor where
  rest : List Char
  line : Nat
  column : Nat

def isBreak (c : Char) : Bool := c = '\n' ∨ c = '\u2028' ∨ c = '\u2029'

def isBlank (c : Char) : Bool := c = ' ' ∨ c = '\t'

def atBlank : List Char → Bool
  | [] => true
  | c :: _ => isBlank c ∨ isBreak c

def isWordChar (c : Char) : Bool := c.isAlphanum ∨ c = '-' ∨ c = '_'

/-- A marker between documents: three hyphens or three dots, alone or before a blank. -/
def atMarker : List Char → Bool
  | '-' :: '-' :: '-' :: rest => atBlank rest
  | '.' :: '.' :: '.' :: rest => atBlank rest
  | _ => false

namespace Cursor

def ofList (cs : List Char) : Cursor := ⟨cs, 0, 0⟩

def next (c : Cursor) : Cursor :=
  match c.rest with
  | [] => c
  | x :: rest => if isBreak x then ⟨rest, c.line + 1, 0⟩ else ⟨rest, c.line, c.column + 1⟩

def skip (p : Char → Bool) (c : Cursor) : Cursor :=
  ⟨c.rest.dropWhile p, c.line, c.column + (c.rest.takeWhile p).length⟩

def skipBlanks (c : Cursor) : Cursor := c.skip isBlank

def skipComment (c : Cursor) : Cursor :=
  if c.rest.head? = some '#' then c.skip fun x => !isBreak x else c

def endLine? (c : Cursor) : Option Cursor :=
  let c := c.skipBlanks.skipComment
  match c.rest with
  | [] => some c
  | x :: _ => if isBreak x then some c.next else none

end Cursor

def isAllowed (c : Char) : Bool :=
  let n := c.toNat
  n = 9 ∨ n = 10 ∨ n = 13 ∨ (32 ≤ n ∧ n ≤ 126) ∨ n = 0x85 ∨ (0xA0 ≤ n ∧ n ≤ 0xFFFD) ∨ 0x10000 ≤ n

/-- Every line break but the two separators becomes a line feed. -/
def unifyBreaks : List Char → List Char
  | [] => []
  | '\r' :: '\n' :: rest => '\n' :: unifyBreaks rest
  | c :: rest => (if c = '\r' ∨ c = '\u0085' then '\n' else c) :: unifyBreaks rest

end HttpScenario.Yaml
