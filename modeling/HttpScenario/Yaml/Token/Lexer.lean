import HttpScenario.Yaml.Token.Scalar

/-! Reading tokens. Only the colon behind a key tells that it was one, so every place where a key may
start leaves a slot among the tokens, which the colon fills. -/

namespace HttpScenario.Yaml

structure KeyStart where
  slot : Nat
  line : Nat
  column : Nat
  required : Bool

structure Lexer where
  cursor : Cursor
  /-- The indentation of the innermost block, -1 outside all blocks. -/
  indent : Int
  outer : List Int
  /-- The last place for a key at every level of brackets, the innermost first. -/
  keys : List (Option KeyStart)
  keyAllowed : Bool
  /-- Tokens in order, in groups of which any but the slots has one. -/
  groups : Array (List Token)

namespace Lexer

def start (cs : List Char) : Lexer := ⟨.ofList cs, -1, [], [none], true, #[]⟩

def inFlow (s : Lexer) : Bool := 1 < s.keys.length

def push (s : Lexer) (token : Token) : Lexer := { s with groups := s.groups.push [token] }

def advance (s : Lexer) : Lexer := { s with cursor := s.cursor.next }

/-- Tabs separate tokens, but where a key may start they are no indentation. -/
def skipSpaces (s : Lexer) : Cursor :=
  s.cursor.skip fun c => c = ' ' ∨ ((s.inFlow ∨ !s.keyAllowed) ∧ c = '\t')

def skipToToken (fuel : Nat) (s : Lexer) : Lexer :=
  match fuel with
  | 0 => s
  | fuel + 1 =>
    let cursor := s.skipSpaces.skipComment
    match cursor.rest with
    | c :: _ =>
      if isBreak c then
        skipToToken fuel { s with cursor := cursor.next, keyAllowed := s.keyAllowed ∨ !s.inFlow }
      else { s with cursor := cursor }
    | [] => { s with cursor := cursor }

def unroll (s : Lexer) (column : Int) : Lexer :=
  if s.inFlow then s
  else
    let all := s.indent :: s.outer
    let closed := all.takeWhile fun indent => column < indent
    match all.dropWhile fun indent => column < indent with
    | indent :: outer =>
      let groups := closed.foldl (fun groups _ => groups.push [Token.blockEnd]) s.groups
      { s with indent := indent, outer := outer, groups := groups }
    | [] => s

def roll (s : Lexer) (column : Nat) : Bool × Lexer :=
  if s.inFlow ∨ (column : Int) ≤ s.indent then (false, s)
  else (true, { s with indent := column, outer := s.indent :: s.outer })

def openBlock (s : Lexer) (token : Token) : Lexer :=
  match s.roll s.cursor.column with
  | (true, s) => s.push token
  | (false, s) => s

/-- Gives up the last place for a key, which must not have been required. -/
def dropKey (s : Lexer) : Option Lexer :=
  match s.keys with
  | some key :: rest => if key.required then none else some { s with keys := none :: rest }
  | _ => some s

def noteKey (s : Lexer) : Option Lexer :=
  if s.keyAllowed then do
    let s ← s.dropKey
    let required := !s.inFlow ∧ s.indent = s.cursor.column
    let key : KeyStart := ⟨s.groups.size, s.cursor.line, s.cursor.column, required⟩
    return { s with keys := some key :: s.keys.drop 1, groups := s.groups.push [] }
  else some s

/-- The place where a key must have started if a colon stands here: on the same line and at most
1024 characters before. -/
def keyHere (s : Lexer) : Option (Option KeyStart) :=
  match s.keys with
  | some key :: _ =>
    if key.line < s.cursor.line ∨ key.column + 1024 < s.cursor.column then
      if key.required then none else some none
    else some (some key)
  | _ => some none

def leaveBlocks (s : Lexer) : Option Lexer := do
  let s ← (s.unroll (-1)).dropKey
  return { s with keyAllowed := false }

def marker (s : Lexer) (token : Token) : Option Lexer := do
  let s ← s.leaveBlocks
  return s.advance.advance.advance.push token

def openFlow (s : Lexer) (token : Token) : Option Lexer := do
  let s ← s.noteKey
  return { s.advance.push token with keys := none :: s.keys, keyAllowed := true }

def closeFlow (s : Lexer) (token : Token) : Option Lexer := do
  let s ← s.dropKey
  let keys := if s.inFlow then s.keys.drop 1 else s.keys
  return { s.advance.push token with keys := keys, keyAllowed := false }

def flowEntry (s : Lexer) : Option Lexer := do
  let s ← s.dropKey
  return { s.advance.push .flowEntry with keyAllowed := true }

def blockEntry (s : Lexer) : Option Lexer := do
  if !s.inFlow ∧ !s.keyAllowed then none
  else
    let s ← (s.openBlock .blockSequenceStart).dropKey
    return { s.advance.push .blockEntry with keyAllowed := true }

def explicitKey (s : Lexer) : Option Lexer := do
  if !s.inFlow ∧ !s.keyAllowed then none
  else
    let s ← (s.openBlock .blockMappingStart).dropKey
    return { s.advance.push .key with keyAllowed := !s.inFlow }

def value (s : Lexer) : Option Lexer := do
  match ← s.keyHere with
  | some key =>
    let (opened, s) := s.roll key.column
    let found := if opened then [Token.blockMappingStart, .key] else [.key]
    let s := { s with
      groups := s.groups.setIfInBounds key.slot found
      keys := none :: s.keys.drop 1
      keyAllowed := false }
    return s.advance.push .value
  | none =>
    if !s.inFlow ∧ !s.keyAllowed then none
    else
      let s := s.openBlock .blockMappingStart
      return { s.advance.push .value with keyAllowed := !s.inFlow }

def anchor (s : Lexer) (token : String → Token) : Option Lexer := do
  let s ← s.noteKey
  let inside := s.cursor.next
  let name := inside.rest.takeWhile isWordChar
  let after := inside.skip isWordChar
  let ends := atBlank after.rest ∨
    after.rest.head?.any fun c => ['?', ':', ',', ']', '}', '%', '@', '\x60'].contains c
  if name.isEmpty ∨ !ends then none
  else return { s with cursor := after, keyAllowed := false }.push (token (String.ofList name))

def octetText? (octets : List Nat) : Option (List Char) :=
  (String.fromUTF8? (ByteArray.mk (octets.map fun n => UInt8.ofNat n).toArray)).map String.toList

def takeOctets : List Char → List Nat × List Char
  | '%' :: a :: b :: rest =>
    match Integer.valueIn? 16 [a, b] with
    | some n => ((n :: (takeOctets rest).1), (takeOctets rest).2)
    | none => ([], '%' :: a :: b :: rest)
  | cs => ([], cs)

def isUriChar (verbatim : Bool) (c : Char) : Bool :=
  isWordChar c ∨ ";/?:@&=+$.!~*'()".toList.contains c ∨ (verbatim ∧ [',', '[', ']'].contains c)

def uriChars (verbatim : Bool) (fuel : Nat) (done : List Char) (c : Cursor) :
    Option (List Char × Cursor) :=
  match fuel, c.rest with
  | fuel + 1, x :: _ =>
    if x = '%' then
      let (octets, rest) := takeOctets c.rest
      match octetText? octets with
      | some (y :: ys) =>
        let width := c.rest.length - rest.length
        uriChars verbatim fuel ((y :: ys).reverse ++ done) ⟨rest, c.line, c.column + width⟩
      | _ => none
    else if isUriChar verbatim x then uriChars verbatim fuel (x :: done) c.next
    else some (done.reverse, c)
  | _, _ => some (done.reverse, c)

def uri (verbatim : Bool) (c : Cursor) : Option (List Char × Cursor) :=
  uriChars verbatim (c.rest.length + 1) [] c

def tagHandle (c : Cursor) : Option (List Char × Cursor) :=
  match c.rest with
  | '!' :: rest =>
    let word := rest.takeWhile isWordChar
    let after := c.next.skip isWordChar
    match after.rest with
    | '!' :: _ => some ('!' :: word ++ ['!'], after.next)
    | _ => some ('!' :: word, after)
  | _ => none

/-- A tag in brackets, with a handle, or local. A mark alone is a tag of its own. -/
def tagToken (c : Cursor) : Option (Token × Cursor) :=
  match c.rest with
  | '!' :: '<' :: _ => do
    let (text, after) ← uri true c.next.next
    if text.isEmpty ∨ after.rest.head? ≠ some '>' then none
    else return (.tag "" (String.ofList text), after.next)
  | _ => do
    let (handle, after) ← tagHandle c
    let (text, rest) ← uri false after
    if handle.length > 1 ∧ handle.getLast? = some '!' then
      if text.isEmpty then none
      else return (.tag (String.ofList handle) (String.ofList text), rest)
    else
      let suffix := handle.drop 1 ++ text
      return (if suffix.isEmpty then .tag "" "!" else .tag "!" (String.ofList suffix), rest)

def tag (s : Lexer) : Option Lexer := do
  let s ← s.noteKey
  let (token, after) ← tagToken s.cursor
  if atBlank after.rest ∨ (s.inFlow ∧ after.rest.head? = some ',') then
    return { s with cursor := after, keyAllowed := false }.push token
  else none

def versionNumber (c : Cursor) : Option (Nat × Cursor) :=
  let digits := c.rest.takeWhile Char.isDigit
  if digits.isEmpty ∨ 9 < digits.length then none
  else (Integer.digitsValue? digits).map fun n => (n, c.skip Char.isDigit)

def directiveToken (name : List Char) (c : Cursor) : Option (Token × Cursor) :=
  if name = "YAML".toList then do
    let (major, c) ← versionNumber c.skipBlanks
    if c.rest.head? ≠ some '.' then none
    else
      let (minor, c) ← versionNumber c.next
      return (.version major minor, c)
  else if name = "TAG".toList then do
    let (handle, c) ← tagHandle c.skipBlanks
    let complete := handle = ['!'] ∨ handle.getLast? = some '!'
    if !complete ∨ !c.rest.head?.any isBlank then none
    else
      let (text, c) ← uri true c.skipBlanks
      if text.isEmpty ∨ !atBlank c.rest then none
      else return (.tagShorthand (String.ofList handle) (String.ofList text), c)
  else none

def directive (s : Lexer) : Option Lexer := do
  let s ← s.leaveBlocks
  let inside := s.cursor.next
  let name := inside.rest.takeWhile isWordChar
  let after := inside.skip isWordChar
  if name.isEmpty ∨ !atBlank after.rest then none
  else
    let (token, c) ← directiveToken name after
    let c ← c.endLine?
    return { s with cursor := c }.push token

def scalar (s : Lexer) (style : ScalarStyle) (found : Option ScannedText) : Option Lexer := do
  let scanned ← found
  return { s with
    cursor := scanned.after
    keyAllowed := scanned.endsLine }.push (.scalar style scanned.text)

def blockScalar (s : Lexer) (folded : Bool) : Option Lexer := do
  let s ← s.dropKey
  s.scalar (if folded then .folded else .literal) (block folded s.indent s.cursor)

def quotedScalar (s : Lexer) (single : Bool) : Option Lexer := do
  let s ← s.noteKey
  s.scalar (if single then .singleQuoted else .doubleQuoted) (quoted single s.cursor)

def plainScalar (s : Lexer) : Option Lexer := do
  let s ← s.noteKey
  s.scalar .plain (plain s.inFlow (s.indent + 1).toNat s.cursor)

/-- A plain scalar cannot start with an indicator, save for three that a character follows. -/
def startsPlain (inFlow : Bool) (c : Char) (rest : List Char) : Bool :=
  if c = '-' then !rest.head?.any isBlank
  else if c = '?' ∨ c = ':' then !inFlow ∧ !atBlank rest
  else !("-?:,[]\x7b\x7d#&*!|>'\"%@\x60".toList.contains c ∨ isBlank c)

def token (s : Lexer) (c : Char) (rest : List Char) : Option Lexer :=
  let starts := s.cursor.column = 0
  if starts ∧ c = '%' then s.directive
  else if starts ∧ atMarker (c :: rest) then
    s.marker (if c = '-' then .documentStart else .documentEnd)
  else if c = '[' then s.openFlow .flowSequenceStart
  else if c = '{' then s.openFlow .flowMappingStart
  else if c = ']' then s.closeFlow .flowSequenceEnd
  else if c = '}' then s.closeFlow .flowMappingEnd
  else if c = ',' then s.flowEntry
  else if c = '-' ∧ atBlank rest then s.blockEntry
  else if c = '?' ∧ (s.inFlow ∨ atBlank rest) then s.explicitKey
  else if c = ':' ∧ (s.inFlow ∨ atBlank rest) then s.value
  else if c = '*' then s.anchor .alias
  else if c = '&' then s.anchor .anchor
  else if c = '!' then s.tag
  else if c = '|' ∧ !s.inFlow then s.blockScalar false
  else if c = '>' ∧ !s.inFlow then s.blockScalar true
  else if c = '\'' then s.quotedScalar true
  else if c = '"' then s.quotedScalar false
  else if startsPlain s.inFlow c rest then s.plainScalar
  else none

def run (fuel : Nat) (s : Lexer) : Option Lexer :=
  match fuel with
  | 0 => none
  | fuel + 1 =>
    let s := s.skipToToken (s.cursor.rest.length + 1)
    let s := s.unroll s.cursor.column
    match s.cursor.rest with
    | [] => s.leaveBlocks
    | c :: rest => (s.token c rest).bind (run fuel)

end Lexer

def Token.ofText? (text : String) : Option (List Token) :=
  let cs := match text.toList with
    | '\ufeff' :: rest => rest
    | cs => cs
  if cs.all isAllowed then
    let cs := unifyBreaks cs
    ((Lexer.start cs).run (cs.length + 1)).map fun s => s.groups.toList.flatten
  else none

end HttpScenario.Yaml
