import HttpScenario.Number.Integer
import HttpScenario.Pattern.Syntax
import HttpScenario.Text.Blank

/-! Reading patterns. There are no back references and no looking around; classes nest and combine
by set operations; flags hold to the end of their group. A text that is no pattern is refused. -/

namespace HttpScenario.Pattern

open Text (CharSet)

structure Flags where
  ignoreCase : Bool
  multiLine : Bool
  dotAll : Bool
  swapGreed : Bool
  unicode : Bool
  ignoreBlanks : Bool
  crlf : Bool

namespace Parser

def defaultFlags : Flags := ⟨false, false, false, false, true, false, false⟩

structure Groups where
  count : Nat
  names : List (String × Nat)

def dropComment (cs : List Char) : List Char := (cs.dropWhile (· ≠ '\n'))

def skip (flags : Flags) (cs : List Char) : List Char :=
  if flags.ignoreBlanks then go cs.length cs else cs
where
  go : Nat → List Char → List Char
    | 0, cs => cs
    | _, [] => []
    | fuel + 1, c :: cs =>
      if Text.isBlank c then go fuel cs
      else if c = '#' then go fuel (dropComment cs)
      else c :: cs

/-- Where patterns are not about Unicode, only letters of ASCII have variants. -/
def withVariants (flags : Flags) (s : CharSet) : CharSet :=
  if !flags.ignoreCase then s
  else if flags.unicode then s.folded
  else s.folded ∩ .range 0 0x7F

def literal? (flags : Flags) (c : Char) : Option CharSet :=
  if flags.ignoreCase ∧ !flags.unicode ∧ 128 ≤ c.toNat then none
  else some (withVariants flags (.one c))

def charOf? (n : Nat) : Option Char :=
  if n < 0xD800 ∨ (0xE000 ≤ n ∧ n < 0x110000) then some (Char.ofNat n) else none

inductive Atom
  | char (c : Char)
  | set (s : CharSet)
  | look (l : Look)

def takeChars (flags : Flags) : Nat → List Char → Option (List Char × List Char)
  | 0, cs => some ([], cs)
  | n + 1, cs =>
    match skip flags cs with
    | c :: rest => (takeChars flags n rest).map fun (taken, rest) => (c :: taken, rest)
    | [] => none

def takeBraced (flags : Flags) : Nat → List Char → Option (List Char × List Char)
  | 0, _ => none
  | fuel + 1, cs =>
    match skip flags cs with
    | '}' :: rest => some ([], rest)
    | c :: rest => (takeBraced flags fuel rest).map fun (taken, rest) => (c :: taken, rest)
    | [] => none

/-- A code in hexadecimal: so many digits, or any number of them between braces. Two digits tell a
byte where patterns are not about Unicode, and only those of ASCII make a character. -/
def hexEscape (flags : Flags) (digits : Nat) (cs : List Char) : Option (Atom × List Char) :=
  match skip flags cs with
  | '{' :: rest => do
    let (inner, rest) ← takeBraced flags rest.length rest
    let n ← Integer.valueIn? 16 inner
    return (.char (← charOf? n), rest)
  | cs => do
    let (inner, rest) ← takeChars flags digits cs
    let n ← Integer.valueIn? 16 inner
    if digits = 2 ∧ 128 ≤ n ∧ !flags.unicode then none else return (.char (← charOf? n), rest)

def classOf (flags : Flags) (negated : Bool) (s : CharSet) : CharSet :=
  let s := withVariants flags s
  if negated then s.complement else s

def propertyEscape (flags : Flags) (negated : Bool) (cs : List Char) :
    Option (Atom × List Char) := do
  let (query, rest) ← match skip flags cs with
    | '{' :: rest => takeBraced flags rest.length rest
    | c :: rest => if c = '\\' then none else some ([c], rest)
    | [] => none
  let (s, unequal) ← ClassName.ofQuery? query
  if flags.unicode then return (.set (classOf flags (negated != unequal) s), rest) else none

/-- The special boundaries are written as the letter `b` and a name between braces. What does not
begin like a name is left for a repetition. -/
def boundaryEscape (flags : Flags) (cs : List Char) : Option (Atom × List Char) :=
  let u := flags.unicode
  let plain : Option (Atom × List Char) := some (.look (.boundary u), cs)
  match cs with
  | '{' :: rest =>
    let rest := skip flags rest
    if rest.head?.any fun c => c.isAlpha || c = '-' then
      match rest.span fun c => c.isAlpha || c = '-' with
      | (name, '}' :: rest) =>
        match String.ofList name with
        | "start" => some (.look (.wordStart u), rest)
        | "end" => some (.look (.wordEnd u), rest)
        | "start-half" => some (.look (.wordStartHalf u), rest)
        | "end-half" => some (.look (.wordEndHalf u), rest)
        | _ => none
      | _ => none
    else if rest.isEmpty then none
    else plain
  | _ => plain

def digits : CharSet := Text.ofCategories [.decimalNumber]

def escape (flags : Flags) (cs : List Char) : Option (Atom × List Char) :=
  let u := flags.unicode
  let perl (negated : Bool) (unicode ascii : CharSet) (rest : List Char) :
      Option (Atom × List Char) :=
    if u then some (.set (if negated then unicode.complement else unicode), rest)
    else if negated then none
    else some (.set ascii, rest)
  match cs with
  | [] => none
  | c :: rest =>
    match c with
    | 'd' => perl false digits ClassName.asciiDigits rest
    | 'D' => perl true digits ClassName.asciiDigits rest
    | 's' => perl false Text.blanks ClassName.asciiBlanks rest
    | 'S' => perl true Text.blanks ClassName.asciiBlanks rest
    | 'w' => perl false Text.word ClassName.asciiWords rest
    | 'W' => perl true Text.word ClassName.asciiWords rest
    | 'p' => propertyEscape flags false rest
    | 'P' => propertyEscape flags true rest
    | 'x' => hexEscape flags 2 rest
    | 'u' => hexEscape flags 4 rest
    | 'U' => hexEscape flags 8 rest
    | 'a' => some (.char '\x07', rest)
    | 'f' => some (.char '\x0c', rest)
    | 't' => some (.char '\t', rest)
    | 'n' => some (.char '\n', rest)
    | 'r' => some (.char '\r', rest)
    | 'v' => some (.char '\x0b', rest)
    | 'A' => some (.look .textStart, rest)
    | 'z' => some (.look .textEnd, rest)
    | 'b' => boundaryEscape flags rest
    | 'B' => some (.look (.noBoundary u), rest)
    | '<' => some (.look (.wordStart u), rest)
    | '>' => some (.look (.wordEnd u), rest)
    | _ => if c.toNat < 128 ∧ !c.isAlphanum then some (.char c, rest) else none

def classAtom (flags : Flags) (cs : List Char) : Option (Atom × List Char) :=
  match cs with
  | [] => none
  | '\\' :: rest => escape flags rest
  | c :: rest => some (.char c, rest)

def asciiOnly (flags : Flags) (c : Char) : Option Char :=
  if flags.unicode ∨ c.toNat < 128 then some c else none

/-- A single member or a range. A minus sign before a closing bracket or another minus sign makes
no range. -/
def classRange (flags : Flags) (cs : List Char) : Option (CharSet × List Char) :=
  match classAtom flags cs with
  | none => none
  | some (first, rest) =>
    let rest := skip flags rest
    let single : Option (CharSet × List Char) :=
      match first with
      | .char c => (asciiOnly flags c).map fun c => (.one c, rest)
      | .set s => some (s, rest)
      | .look _ => none
    match rest with
    | [] => none
    | '-' :: more =>
      let more := skip flags more
      match more with
      | [] => none
      | c :: _ =>
        if c = ']' ∨ c = '-' then single
        else
          match classAtom flags more, first with
          | some (.char last, rest), .char first =>
            if first ≤ last then do
              let a ← asciiOnly flags first
              let b ← asciiOnly flags last
              return (.range a.toNat b.toNat, rest)
            else none
          | _, _ => none
    | _ => single

def namedClass? (flags : Flags) (cs : List Char) : Option (CharSet × List Char) :=
  match cs with
  | '[' :: ':' :: rest =>
    let (negated, rest) := match rest with
      | '^' :: more => (true, more)
      | _ => (false, rest)
    match rest.span (· ≠ ':') with
    | (name, ':' :: ']' :: rest) =>
      (ClassName.ascii.find? (String.ofList name)).bind fun s =>
        if negated ∧ !flags.unicode then none else some (classOf flags negated s, rest)
    | _ => none
  | _ => none

inductive Operator
  | intersection
  | difference
  | symmetricDifference

def Operator.apply : Operator → CharSet → CharSet → CharSet
  | intersection, s, t => .intersection s t
  | difference, s, t => .difference s t
  | symmetricDifference, s, t => .symmetricDifference s t

/-- The left operand of a set operation that awaits its right one. -/
abbrev Pending := Option (CharSet × Operator)

def settle (flags : Flags) (pending : Pending) (s : CharSet) : CharSet :=
  match pending with
  | none => s
  | some (left, op) =>
    op.apply (withVariants flags left) (withVariants flags s)

def takeDashes (flags : Flags) : Nat → List Char → Bool × List Char
  | 0, cs => (false, cs)
  | fuel + 1, cs =>
    match cs with
    | '-' :: rest => (true, (takeDashes flags fuel (skip flags rest)).2)
    | _ => (false, cs)

/-- The beginning of a class after its bracket: a negation, minus signs, a closing bracket that
stands for itself. -/
def classOpen (flags : Flags) (cs : List Char) : Option (Bool × CharSet × List Char) :=
  let cs := skip flags cs
  let (negated, cs) := match cs with
    | '^' :: rest => (true, skip flags rest)
    | _ => (false, cs)
  let (dashes, cs) := takeDashes flags cs.length cs
  match cs with
  | [] => none
  | c :: rest =>
    if dashes then some (negated, .one '-', cs)
    else if c = ']' then
      let rest := skip flags rest
      if rest.isEmpty then none else some (negated, .one ']', rest)
    else some (negated, .empty, cs)

def classBody (flags : Flags) : Nat → Bool → Pending → CharSet → List Char →
    Option (CharSet × List Char)
  | 0, _, _, _, _ => none
  | fuel + 1, negated, pending, found, cs =>
    let operator (op : Operator) (rest : List Char) :=
      classBody flags fuel negated (some (settle flags pending found, op)) .empty rest
    match skip flags cs with
    | [] => none
    | ']' :: rest =>
      if negated ∧ !flags.unicode then none
      else some (classOf flags negated (settle flags pending found), rest)
    | '&' :: '&' :: rest => operator .intersection rest
    | '-' :: '-' :: rest => operator .difference rest
    | '~' :: '~' :: rest => operator .symmetricDifference rest
    | '[' :: rest =>
      match namedClass? flags ('[' :: rest) with
      | some (s, rest) => classBody flags fuel negated pending (found ∪ s) rest
      | none =>
        match classOpen flags rest with
        | none => none
        | some (innerNegated, inner, rest) =>
          match classBody flags fuel innerNegated none inner rest with
          | none => none
          | some (s, rest) => classBody flags fuel negated pending (found ∪ s) rest
    | cs =>
      match classRange flags cs with
      | none => none
      | some (s, rest) => classBody flags fuel negated pending (found ∪ s) rest

def bracketed (flags : Flags) (cs : List Char) : Option (CharSet × List Char) :=
  match classOpen flags cs with
  | none => none
  | some (negated, start, rest) => classBody flags (2 * cs.length + 2) negated none start rest

/-- A decimal count between blanks, of 32 bits. The outer option is a count out of range, the inner
one a missing count. -/
def count (cs : List Char) : Option (Option Nat × List Char) :=
  let cs := cs.dropWhile Text.isBlank
  let digits := cs.takeWhile Char.isDigit
  let rest := (cs.dropWhile Char.isDigit).dropWhile Text.isBlank
  if digits.isEmpty then some (none, rest)
  else
    let n := digits.foldl (fun n c => 10 * n + (c.toNat - 48)) 0
    if n < Nat.pow 2 32 then some (some n, rest) else none

def bounds (flags : Flags) (cs : List Char) : Option (Nat × Option Nat × List Char) := do
  let (least, rest) ← count cs
  match rest with
  | ',' :: rest =>
    match skip flags rest with
    | '}' :: rest => return (← least, none, rest)
    | rest =>
      let least ← least
      let (most, rest) ← count rest
      let most ← most
      match rest with
      | '}' :: rest => if least ≤ most then return (least, some most, rest) else none
      | _ => none
  | '}' :: rest => return (← least, some (← least), rest)
  | _ => none

def flagOf? : Char → Option (Bool → Flags → Flags)
  | 'i' => some fun b f => { f with ignoreCase := b }
  | 'm' => some fun b f => { f with multiLine := b }
  | 's' => some fun b f => { f with dotAll := b }
  | 'U' => some fun b f => { f with swapGreed := b }
  | 'u' => some fun b f => { f with unicode := b }
  | 'x' => some fun b f => { f with ignoreBlanks := b }
  | 'R' => some fun b f => { f with crlf := b }
  | _ => none

/-- Flags up to a colon or a closing parenthesis, each at most once, with at most one sign that
turns the later ones off. -/
def flagList (on afterSign : Bool) (used : List Char) (flags : Flags) :
    List Char → Option (Flags × List Char × Bool × List Char)
  | [] => none
  | c :: rest =>
    if c = ':' ∨ c = ')' then
      if afterSign then none else some (flags, used, c == ':', rest)
    else if c = '-' then
      if on then flagList false true ('-' :: used) flags rest else none
    else if used.contains c then none
    else
      match flagOf? c with
      | some change => flagList on false (c :: used) (change on flags) rest
      | none => none

def isNameChar (first : Bool) (c : Char) : Bool :=
  c = '_' ∨ Text.alphabeticTable.holds c ∨
    (!first ∧ (c = '.' ∨ c = '[' ∨ c = ']' ∨ c.isDigit ∨
      [Text.Category.decimalNumber, .letterNumber, .otherNumber].contains (Text.category c)))

def groupName? (cs : List Char) : Option (String × List Char) :=
  match cs.span (· ≠ '>') with
  | (c :: name, _ :: rest) =>
    if isNameChar true c ∧ name.all (isNameChar false) then some (String.ofList (c :: name), rest)
    else none
  | _ => none

abbrev Item := Option Node

def sequence (items : List Item) : Node :=
  match (items.reverse.filterMap id) with
  | [part] => part
  | [] => .empty
  | parts => .concat parts

def choiceOf (branches : List Node) : Node :=
  match branches.reverse with
  | [part] => part
  | parts => .choice parts

def dot (flags : Flags) : Option CharSet :=
  if !flags.unicode then none
  else if flags.dotAll then some .all
  else if flags.crlf then some (.complement (.one '\r' ∪ .one '\n'))
  else some (.complement (.one '\n'))

def atomNode (flags : Flags) : Atom → Option Node
  | .char c => (literal? flags c).map .set
  | .set s => some (.set s)
  | .look l => some (.look l)

/-- Repeats the latest item. There has to be one, and it must not be a setting of flags. -/
def repeatLast (flags : Flags) (least : Nat) (most : Option Nat) (items : List Item)
    (rest : List Char) : Option (List Item × List Char) :=
  match items with
  | some part :: earlier =>
    let (lazy, rest) := match skip flags rest with
      | '?' :: more => (true, more)
      | _ => (false, rest)
    some (some (.repeated part least most ((!lazy) != flags.swapGreed)) :: earlier, rest)
  | _ => none

/-- One alternative after another, up to the end of the text or of the group; `depth` levels of
groups are left. Items and alternatives are gathered backwards. -/
def branches (fuel depth : Nat) (flags : Flags) (groups : Groups) (done : List Node)
    (items : List Item) (cs : List Char) : Option (Node × Groups × List Char) :=
  match fuel with
  | 0 => none
  | fuel + 1 =>
    let push (node : Node) (rest : List Char) :=
      branches fuel depth flags groups done (some node :: items) rest
    let again (r : Option (List Item × List Char)) :=
      r.bind fun (items, rest) => branches fuel depth flags groups done items rest
    let finish (rest : List Char) :=
      some (choiceOf (sequence items :: done), groups, rest)
    match skip flags cs with
    | [] => finish []
    | ')' :: rest => finish (')' :: rest)
    | '|' :: rest => branches fuel depth flags groups (sequence items :: done) [] rest
    | '*' :: rest => again (repeatLast flags 0 none items rest)
    | '+' :: rest => again (repeatLast flags 1 none items rest)
    | '?' :: rest => again (repeatLast flags 0 (some 1) items rest)
    | '{' :: rest =>
      match bounds flags rest with
      | none => none
      | some (least, most, rest) => again (repeatLast flags least most items rest)
    | '[' :: rest =>
      match bracketed flags rest with
      | none => none
      | some (s, rest) => push (.set s) rest
    | '.' :: rest => (dot flags).bind fun s => push (.set s) rest
    | '^' :: rest =>
      push (.look (if flags.multiLine then .lineStart flags.crlf else .textStart)) rest
    | '$' :: rest => push (.look (if flags.multiLine then .lineEnd flags.crlf else .textEnd)) rest
    | '\\' :: rest =>
      match escape flags rest with
      | none => none
      | some (atom, rest) => (atomNode flags atom).bind fun node => push node rest
    | '(' :: rest =>
      let body (index : Option Nat) (inner : Flags) (groups : Groups) (start : List Char) :=
        match depth with
        | 0 => none
        | depth + 1 =>
          match branches fuel depth inner groups [] [] start with
          | some (node, groups, ')' :: rest) =>
            let node := match index with
              | some i => .group i node
              | none => .concat [node]
            branches fuel (depth + 1) flags groups done (some node :: items) rest
          | _ => none
      let captured (name : Option String) (start : List Char) :=
        let i := groups.count + 1
        match name with
        | none => body (some i) flags { groups with count := i } start
        | some name =>
          if groups.names.any fun entry => entry.1 == name then none
          else body (some i) flags ⟨i, (name, i) :: groups.names⟩ start
      match skip flags rest with
      | '?' :: 'P' :: '<' :: start =>
        (groupName? start).bind fun (name, start) => captured (some name) start
      | '?' :: '<' :: start =>
        if start.head? = some '=' ∨ start.head? = some '!' then none
        else (groupName? start).bind fun (name, start) => captured (some name) start
      | '?' :: start =>
        match flagList true false [] flags start with
        | none => none
        | some (inner, _, true, start) => body none inner groups start
        | some (inner, used, false, start) =>
          if used.isEmpty then none
          else branches fuel depth inner groups done (none :: items) start
      | start => captured none start
    | c :: rest => (literal? flags c).bind fun s => push (.set s) rest

def nestingLimit : Nat := 250

end Parser

def parse? (source : String) : Option (Node × List (String × Nat)) :=
  let cs := source.toList
  match Parser.branches (4 * cs.length + 4) Parser.nestingLimit Parser.defaultFlags ⟨0, []⟩ [] [] cs
    with
  | some (node, groups, []) => some (node, groups.names)
  | _ => none

end HttpScenario.Pattern
