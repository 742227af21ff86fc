import HttpScenario.Number.Integer
import HttpScenario.Yaml.Token

/-! The text of scalars. Between two lines of a plain or quoted scalar a single line break counts as
a space, and of several the first is dropped. A block scalar keeps its breaks, or folds those
between lines that do not start with a blank. -/

namespace HttpScenario.Yaml

/-- Blanks and breaks that count only if more text follows them. -/
structure Gap where
  /-- Blanks before the first break, backwards. -/
  blanks : List Char
  broken : Bool
  /-- The first break, unless it was escaped. -/
  first : List Char
  more : List Char

namespace Gap

def none : Gap := ⟨[], false, [], []⟩

def escaped : Gap := ⟨[], true, [], []⟩

def isNone (gap : Gap) : Bool := gap.blanks.isEmpty ∧ !gap.broken

def blank (gap : Gap) (c : Char) : Gap :=
  if gap.broken then gap else { gap with blanks := c :: gap.blanks }

def lineBreak (gap : Gap) (c : Char) : Gap :=
  if gap.broken then { gap with more := c :: gap.more } else ⟨[], true, [c], []⟩

def fold (gap : Gap) : List Char :=
  if gap.broken then
    if gap.first = ['\n'] then (if gap.more.isEmpty then [' '] else gap.more)
    else gap.more ++ gap.first
  else gap.blanks

end Gap

/-- A scalar's text, whether a line was ended behind it, and the place where reading goes on. -/
structure ScannedText where
  text : String
  endsLine : Bool
  after : Cursor

def isFlowIndicator (c : Char) : Bool := [',', '[', ']', '{', '}'].contains c

/-- A plain scalar ends at a colon before a blank and, inside brackets, at their indicators. -/
def endsPlain (inFlow : Bool) (c : Char) (rest : List Char) : Bool :=
  (c = ':' ∧ atBlank rest) ∨ (inFlow ∧ isFlowIndicator c)

/-- Inside brackets a colon cannot stand before an indicator. -/
def isStrayColon (inFlow : Bool) (c : Char) (rest : List Char) : Bool :=
  inFlow ∧ c = ':' ∧ rest.head?.any fun x => isFlowIndicator x ∨ x = '?'

def plainRest (inFlow : Bool) (indent : Nat) (line column : Nat) (gap : Gap) (done : List Char)
    (cs : List Char) : Option ScannedText :=
  let finish : Option ScannedText :=
    some ⟨String.ofList done.reverse, gap.broken, ⟨cs, line, column⟩⟩
  match cs with
  | [] => finish
  | c :: rest =>
    if isBlank c then
      if gap.broken ∧ column < indent ∧ c = '\t' then none
      else plainRest inFlow indent line (column + 1) (gap.blank c) done rest
    else if isBreak c then plainRest inFlow indent (line + 1) 0 (gap.lineBreak c) done rest
    else if !gap.isNone ∧
        (c = '#' ∨ (column = 0 ∧ atMarker cs) ∨ (!inFlow ∧ column < indent)) then finish
    else if isStrayColon inFlow c rest then none
    else if endsPlain inFlow c rest then finish
    else plainRest inFlow indent line (column + 1) .none (c :: (gap.fold ++ done)) rest

def plain (inFlow : Bool) (indent : Nat) (start : Cursor) : Option ScannedText :=
  plainRest inFlow indent start.line start.column .none [] start.rest

/-- The rest of a scalar in single quotes; a doubled quote stands for one. -/
def singleQuotedRest (line column : Nat) (gap : Gap) (done : List Char) (cs : List Char) :
    Option ScannedText :=
  match cs with
  | [] => none
  | c :: rest =>
    if isBlank c then singleQuotedRest line (column + 1) (gap.blank c) done rest
    else if isBreak c then singleQuotedRest (line + 1) 0 (gap.lineBreak c) done rest
    else if column = 0 ∧ atMarker cs then none
    else
      let done := gap.fold ++ done
      if c = '\'' then
        match rest with
        | '\'' :: rest => singleQuotedRest line (column + 2) .none ('\'' :: done) rest
        | _ => some ⟨String.ofList done.reverse, false, ⟨rest, line, column + 1⟩⟩
      else singleQuotedRest line (column + 1) .none (c :: done) rest

def simpleEscape? (c : Char) : Option Char :=
  [('0', '\x00'), ('a', '\x07'), ('b', '\x08'), ('t', '\t'), ('\t', '\t'), ('n', '\n'),
   ('v', '\x0b'), ('f', '\x0c'), ('r', '\r'), ('e', '\x1b'), (' ', ' '), ('"', '"'), ('/', '/'),
   ('\\', '\\'), ('N', '\u0085'), ('_', '\u00a0'), ('L', '\u2028'), ('P', '\u2029')].lookup c

def escapeWidth? (c : Char) : Option Nat := [('x', 2), ('u', 4), ('U', 8)].lookup c

def charOfCode? (n : Nat) : Option Char :=
  if h : n.isValidChar then some (Char.ofNatAux n h) else none

def doubleQuotedRest (fuel : Nat) (line column : Nat) (gap : Gap) (done : List Char)
    (cs : List Char) : Option ScannedText :=
  match fuel, cs with
  | fuel + 1, c :: rest =>
    if isBlank c then doubleQuotedRest fuel line (column + 1) (gap.blank c) done rest
    else if isBreak c then doubleQuotedRest fuel (line + 1) 0 (gap.lineBreak c) done rest
    else if column = 0 ∧ atMarker cs then none
    else
      let done := gap.fold ++ done
      if c = '"' then some ⟨String.ofList done.reverse, false, ⟨rest, line, column + 1⟩⟩
      else if c = '\\' then
        match rest with
        | [] => none
        | e :: rest =>
          if isBreak e then doubleQuotedRest fuel (line + 1) 0 .escaped done rest
          else
            match simpleEscape? e, escapeWidth? e with
            | some x, _ => doubleQuotedRest fuel line (column + 2) .none (x :: done) rest
            | none, none => none
            | none, some width =>
              let digits := rest.take width
              if digits.length < width then none
              else
                match (Integer.valueIn? 16 digits).bind charOfCode? with
                | none => none
                | some x =>
                  doubleQuotedRest fuel line (column + 2 + width) .none (x :: done) (rest.drop width)
      else doubleQuotedRest fuel line (column + 1) .none (c :: done) rest
  | _, _ => none

def quoted (single : Bool) (start : Cursor) : Option ScannedText :=
  let inside := start.next
  if single then singleQuotedRest inside.line inside.column .none [] inside.rest
  else doubleQuotedRest (inside.rest.length + 1) inside.line inside.column .none [] inside.rest

inductive Chomping
  | strip
  | clip
  | keep
deriving DecidableEq

def blockHeader? (c : Cursor) : Option (Chomping × Option Nat × Cursor) :=
  let chomping? (x : Char) : Option Chomping :=
    if x = '+' then some .keep else if x = '-' then some .strip else none
  let increment? (c : Cursor) : Option (Option Nat × Cursor) :=
    match c.rest with
    | x :: _ =>
      if x = '0' then none
      else if x.isDigit then some (some (x.toNat - 48), c.next) else some (none, c)
    | [] => some (none, c)
  match c.rest.head?.bind chomping? with
  | some chomping => (increment? c.next).map fun (increment, c) => (chomping, increment, c)
  | none =>
    match increment? c with
    | none => none
    | some (none, c) => some (.clip, none, c)
    | some (increment, c) =>
      match c.rest.head?.bind chomping? with
      | some chomping => some (chomping, increment, c.next)
      | none => some (.clip, increment, c)

/-- The empty lines before a line of a block scalar: the greatest indentation, the breaks,
backwards, and the place where the line starts. A tab cannot stand in the indentation. -/
def blockBreaks (indent : Option Nat) (line column deepest : Nat) (breaks : List Char)
    (cs : List Char) : Option (Nat × List Char × Cursor) :=
  let inside := indent.all fun n => column < n
  let deepest := max deepest column
  match cs with
  | [] => some (deepest, breaks, ⟨[], line, column⟩)
  | c :: rest =>
    if inside ∧ c = ' ' then blockBreaks indent line (column + 1) deepest breaks rest
    else if inside ∧ c = '\t' then none
    else if isBreak c then blockBreaks indent (line + 1) 0 deepest (c :: breaks) rest
    else some (deepest, breaks, ⟨cs, line, column⟩)

/-- The lines of a block scalar. `held` is the break before the line, `breaks` those of the empty
lines between. -/
def blockLines (folded : Bool) (indent : Nat) (fuel : Nat) (afterBlank : Bool) (done held : List Char)
    (breaks : List Char) (c : Cursor) : Option (List Char × List Char × List Char × Cursor) :=
  match fuel, c.rest with
  | fuel + 1, x :: _ =>
    if c.column ≠ indent then some (done, held, breaks, c)
    else
      let startsBlank := isBlank x
      let joined :=
        if folded ∧ held = ['\n'] ∧ !afterBlank ∧ !startsBlank then
          (if breaks.isEmpty then ' ' :: done else done)
        else held ++ done
      let content := c.rest.takeWhile fun x => !isBreak x
      let ended := c.skip fun x => !isBreak x
      let done := content.reverse ++ (breaks ++ joined)
      let held := (ended.rest.head?).toList
      let start := ended.next
      match blockBreaks (some indent) start.line start.column 0 [] start.rest with
      | none => none
      | some (_, breaks, c) => blockLines folded indent fuel startsBlank done held breaks c
  | _, _ => some (done, held, breaks, c)

/-- A block scalar, from its sign on, inside a block indented by `outer`. Without an indicator its
indentation is that of its first line that is not empty. -/
def block (folded : Bool) (outer : Int) (start : Cursor) : Option ScannedText := do
  let (chomping, increment, c) ← blockHeader? start.next
  let c ← c.endLine?
  let given := increment.map fun n => if 0 ≤ outer then outer.toNat + n else n
  let (deepest, breaks, c) ← blockBreaks given c.line c.column 0 [] c.rest
  let indent := given.getD (max deepest (max 1 (outer + 1).toNat))
  let (done, held, breaks, c) ←
    blockLines folded indent (c.rest.length + 1) false [] [] breaks c
  let final := match chomping with
    | .strip => done
    | .clip => held ++ done
    | .keep => breaks ++ (held ++ done)
  return ⟨String.ofList final.reverse, true, c⟩

end HttpScenario.Yaml
