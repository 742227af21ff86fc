import HttpScenario.Yaml.Plain
import HttpScenario.Yaml.Token

/-! JSON values as YAML text in block style. A string is written plain where it reads back as
itself, as a literal block if it has several lines, and in quotes otherwise. -/

namespace HttpScenario.Yaml.Printer

def endsLine (c : Char) : Bool :=
  c = '\n' ∨ c = '\r' ∨ c = '\x85' ∨ c = '\u2028' ∨ c = '\u2029'

def isGap (c : Char) : Bool := isBlank c ∨ endsLine c ∨ c = '\x00'

def isPrintable (c : Char) : Bool :=
  let n := c.toNat
  n = 10 ∨ (0x20 ≤ n ∧ n ≤ 0x7E) ∨ (0xA0 ≤ n ∧ n ≠ 0xFEFF ∧ n ≠ 0xFFFE ∧ n ≠ 0xFFFF)

def startsWithGap (cs : List Char) : Bool := cs.head?.all isGap

def opensMarked (cs : List Char) : Bool :=
  match cs with
  | [] => false
  | c :: rest =>
    ['#', ',', '[', ']', '{', '}', '&', '*', '!', '|', '>', '\'', '"', '%', '@',
      '\x60'].contains c ||
      (['?', ':', '-'].contains c && startsWithGap rest) ||
      ['-', '-', '-'].isPrefixOf cs || ['.', '.', '.'].isPrefixOf cs

/-- A colon before a gap or a number sign behind one, which would end a plain scalar. -/
def holdsMark (behindGap : Bool) : List Char → Bool
  | [] => false
  | c :: rest =>
    (c = ':' && startsWithGap rest) || (c = '#' && behindGap) || holdsMark (isGap c) rest

def holdsPair (first second : Char → Bool) (cs : List Char) : Bool :=
  (cs.zip (cs.drop 1)).any fun (a, b) => first a && second b

def isSpace (c : Char) : Bool := c = ' '

def needsEscapes (cs : List Char) : Bool :=
  cs.any (fun c => !isPrintable c) || holdsPair isSpace endsLine cs

def allowsSingleQuotes (cs : List Char) : Bool :=
  !needsEscapes cs && !holdsPair endsLine isSpace cs

def allowsPlain (cs : List Char) : Bool :=
  !needsEscapes cs && !cs.any endsLine && !opensMarked cs && !holdsMark true cs &&
    !cs.head?.any isSpace && !cs.getLast?.any isSpace

def allowsLiteral (cs : List Char) : Bool := !needsEscapes cs && !cs.getLast?.any isSpace

def readsOtherwise (text : String) : Bool :=
  text = "" || Plain.isNull text || (Plain.truth? text).isSome || (Plain.integer? text).isSome ||
    Plain.isPadded text || (Plain.fraction? text).isSome

def style (text : String) : ScalarStyle :=
  let cs := text.toList
  if cs.contains '\n' then (if allowsLiteral cs then .literal else .doubleQuoted)
  else if allowsPlain cs && !readsOtherwise text then .plain
  else if allowsSingleQuotes cs then .singleQuoted
  else .doubleQuoted

def hex (width n : Nat) : List Char :=
  let ds := (Nat.toDigits 16 n).map Char.toUpper
  List.replicate (width - ds.length) '0' ++ ds

def escapes : List (Nat × Char) :=
  [(0, '0'), (7, 'a'), (8, 'b'), (9, 't'), (10, 'n'), (11, 'v'), (12, 'f'), (13, 'r'), (27, 'e'),
   (34, '"'), (92, '\\'), (0x85, 'N'), (0xA0, '_'), (0x2028, 'L'), (0x2029, 'P')]

def escapedChar (c : Char) : List Char :=
  if isPrintable c ∧ ¬ endsLine c ∧ c ≠ '"' ∧ c ≠ '\\' then [c]
  else
    match escapes.lookup c.toNat with
    | some letter => ['\\', letter]
    | none =>
      let n := c.toNat
      if n ≤ 0xFF then '\\' :: 'x' :: hex 2 n
      else if n ≤ 0xFFFF then '\\' :: 'u' :: hex 4 n
      else '\\' :: 'U' :: hex 8 n

def pad (column : Nat) : List Char := List.replicate column ' '

def indented (column : Nat) (atStart : Bool) : List Char → List Char
  | [] => []
  | c :: rest =>
    if endsLine c then c :: indented column true rest
    else (if atStart then pad column else []) ++ c :: indented column false rest

/-- What the mark of a literal block tells: indentation if the text starts with a blank or a break,
and how many breaks stand at its end. -/
def literalHints (cs : List Char) : List Char :=
  (if cs.head?.any fun c => isSpace c || endsLine c then ['2'] else []) ++
    match cs.reverse with
    | [] => ['-']
    | [c] => if endsLine c then ['+'] else ['-']
    | c :: d :: _ => if !endsLine c then ['-'] else if endsLine d then ['+'] else []

/-- A string inside a collection at `column`, with the break at the end of its last line. -/
def stringText (column : Nat) (text : String) : String :=
  let cs := text.toList
  let ended : Bool := cs.getLast?.any endsLine
  String.ofList <| match style text with
    | .literal | .folded =>
      '|' :: literalHints cs ++ '\n' :: indented (column + 2) true cs ++
        (if ended then [] else ['\n'])
    | .plain => cs ++ ['\n']
    | .singleQuoted =>
      let doubled (c : Char) : List Char := if c = '\'' then [c, c] else [c]
      '\'' :: (indented (column + 2) false cs).flatMap doubled ++
        (if ended then pad (column + 2) else []) ++ ['\'', '\n']
    | .doubleQuoted => '"' :: cs.flatMap escapedChar ++ ['"', '\n']

def isShortName (name : String) : Bool :=
  !name.toList.any endsLine && name.utf8ByteSize ≤ 128

def padding (column : Nat) : String := String.ofList (pad column)

mutual

/-- A value behind the hyphen of an item, or behind a mark of the same width. -/
def inItem (column : Nat) : Json → String
  | .null => "null\n"
  | .bool b => (if b then "true" else "false") ++ "\n"
  | .number (.int n) => toString n ++ "\n"
  | .number (.double x) => x.text .yaml ++ "\n"
  | .string s => stringText column s
  | .array [] => "[]\n"
  | .object [] => "\x7b\x7d\n"
  | .array (item :: rest) =>
    "- " ++ inItem (column + 2) item ++ items (column + 2) rest
  | .object ((name, value) :: rest) =>
    field (column + 2) name value ++ fields (column + 2) rest

/-- A field at `column`. Lists stand in the same column as the names. -/
def field (column : Nat) (name : String) (value : Json) : String :=
  if isShortName name then
    ((stringText column name).dropEnd 1).toString ++ ":" ++
      match value with
      | .array (item :: rest) =>
        "\n" ++ padding column ++ "- " ++ inItem column item ++ items column rest
      | .object ((name, value) :: rest) =>
        "\n" ++ padding (column + 2) ++ field (column + 2) name value ++ fields (column + 2) rest
      | value => " " ++ inItem column value
  else "? " ++ stringText column name ++ padding column ++ ": " ++ inItem column value

def items (column : Nat) : List Json → String
  | [] => ""
  | item :: rest => padding column ++ "- " ++ inItem column item ++ items column rest

def fields (column : Nat) : List (String × Json) → String
  | [] => ""
  | (name, value) :: rest => padding column ++ field column name value ++ fields column rest

end

def text : Json → String
  | .array (item :: rest) => "- " ++ inItem 0 item ++ items 0 rest
  | .object ((name, value) :: rest) => field 0 name value ++ fields 0 rest
  | value => inItem 0 value

end HttpScenario.Yaml.Printer
