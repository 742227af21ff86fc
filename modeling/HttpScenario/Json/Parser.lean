import HttpScenario.Document
import HttpScenario.Number.Integer

/-! Reading JSON text. The reader accepts the grammar of JSON and yields a document; what no value
can hold, such as a number out of range, half of a surrogate pair, or nesting beyond the limit,
becomes a part that can be skipped but not read. -/

namespace HttpScenario.Json.Parser

def isBlank (c : Char) : Bool := c = ' ' ∨ c = '\n' ∨ c = '\t' ∨ c = '\r'

def skipBlanks (cs : List Char) : List Char := cs.dropWhile isBlank

/-- Digits taken into a significand of 64 bits. Once the next digit does not fit, it and all
later ones are left over. -/
def takeDigits (significand count : Nat) : List Char → Nat × Nat × List Char
  | [] => (significand, count, [])
  | c :: cs =>
    if c.isDigit then
      let next := 10 * significand + (c.toNat - 48)
      if next < Nat.pow 2 64 then takeDigits next (count + 1) cs else (significand, count, c :: cs)
    else (significand, count, c :: cs)

/-- The double of a significand and a power of ten: one multiplication or division by a rounded
power, after steps of `10 ^ -308` for exponents below that. Nothing beyond the finite numbers. -/
def scaled (x : Double) (exponent : Int) : Nat → Option Double
  | 0 => some x
  | fuel + 1 =>
    if exponent.natAbs ≤ 308 then
      let power := Double.ofInt (Nat.pow 10 exponent.natAbs)
      if 0 ≤ exponent then x.mul power else x.div power
    else if x.isZero then some x
    else if 0 ≤ exponent then none
    else (x.div (Double.ofInt (Nat.pow 10 308))).bind fun y => scaled y (exponent + 308) fuel

def fromParts (negative : Bool) (significand : Nat) (exponent : Int) : Option Double :=
  (scaled (Double.ofInt significand) exponent 5).map fun x => { x with negative := negative }

/-- The exponent part of a number, if one follows. The outer option is a syntax error. -/
def exponentPart (negative : Bool) (significand : Nat) (exponent : Int) (cs : List Char) :
    Option (Option Double × List Char) :=
  let after (rest : List Char) : Option (Option Double × List Char) :=
    let (minus, rest) := match rest with
      | '-' :: more => (true, more)
      | '+' :: more => (false, more)
      | _ => (false, rest)
    let digits := rest.takeWhile Char.isDigit
    let rest := rest.dropWhile Char.isDigit
    if digits.isEmpty then none
    else
      let n := Double.digitsValue digits
      let value :=
        if n < Nat.pow 2 31 then
          fromParts negative significand (exponent + if minus then -(n : Int) else n)
        else if significand ≠ 0 ∧ !minus then none
        else some (Double.zero negative)
      some (value, rest)
  match cs with
  | c :: rest =>
    if c = 'e' ∨ c = 'E' then after rest
    else some (fromParts negative significand exponent, cs)
  | [] => some (fromParts negative significand exponent, [])

def fractionPart (negative : Bool) (significand : Nat) (exponent : Int) (cs : List Char) :
    Option (Option Double × List Char) :=
  match cs with
  | '.' :: c :: rest =>
    if c.isDigit then
      let (significand, count, left) := takeDigits significand 0 (c :: rest)
      exponentPart negative significand (exponent - count) (left.dropWhile Char.isDigit)
    else none
  | ['.'] => none
  | _ => exponentPart negative significand exponent cs

/-- A number whose text starts after the sign. Integers that fit 64 bits are kept as integers;
zero with a minus sign is a double. The inner option is a number out of range. -/
def number (negative : Bool) (cs : List Char) : Option (Option Number × List Char) :=
  let double (r : Option (Option Double × List Char)) : Option (Option Number × List Char) :=
    r.map fun (x, rest) => (x.map .double, rest)
  let short (significand : Nat) (rest : List Char) : Option (Option Number × List Char) :=
    match rest with
    | c :: _ =>
      if c = '.' ∨ c = 'e' ∨ c = 'E' then double (fractionPart negative significand 0 rest)
      else integer significand rest
    | [] => integer significand rest
  match cs with
  | '0' :: rest => if (rest.head?.any Char.isDigit) then none else short 0 rest
  | c :: _ =>
    if c.isDigit then
      let (significand, _, rest) := takeDigits 0 0 cs
      let excess := rest.takeWhile Char.isDigit
      if excess.isEmpty then short significand rest
      else double (fractionPart negative significand excess.length (rest.dropWhile Char.isDigit))
    else none
  | [] => none
where
  integer (significand : Nat) (rest : List Char) : Option (Option Number × List Char) :=
    let value : Number :=
      if !negative then .int significand
      else if 0 < significand ∧ significand ≤ Nat.pow 2 63 then .int (-(significand : Int))
      else .double (Double.ofInt significand).neg
    some (some value, rest)

def hexUnit : List Char → Option (Nat × List Char)
  | a :: b :: c :: d :: rest => (Integer.valueIn? 16 [a, b, c, d]).map fun unit => (unit, rest)
  | _ => none

def simpleEscape (c : Char) : Option Char :=
  if c = '"' ∨ c = '\\' ∨ c = '/' then some c
  else if c = 'b' then some '\x08'
  else if c = 'f' then some '\x0c'
  else if c = 'n' then some '\n'
  else if c = 'r' then some '\r'
  else if c = 't' then some '\t'
  else none

/-- The rest of a string after its opening quote. Characters are gathered backwards, and the flag
tells whether every one could be read. -/
def stringRest (fuel : Nat) (readable : Bool) (done : List Char) :
    List Char → Option (Option String × List Char)
  | [] => none
  | '"' :: rest => some (if readable then some (String.ofList done.reverse) else none, rest)
  | '\\' :: 'u' :: rest =>
    match fuel with
    | 0 => none
    | fuel + 1 =>
      match hexUnit rest with
      | none => none
      | some (unit, rest) =>
        if unit < 0xD800 ∨ 0xE000 ≤ unit then
          stringRest fuel readable (Char.ofNat unit :: done) rest
        else
          match rest with
          | '\\' :: 'u' :: more =>
            match hexUnit more with
            | none => none
            | some (low, after) =>
              if unit < 0xDC00 ∧ 0xDC00 ≤ low ∧ low < 0xE000 then
                let code := 0x10000 + (unit - 0xD800) * 1024 + (low - 0xDC00)
                stringRest fuel readable (Char.ofNat code :: done) after
              else stringRest fuel false done rest
          | _ => stringRest fuel false done rest
  | '\\' :: c :: rest =>
    match fuel, simpleEscape c with
    | fuel + 1, some e => stringRest fuel readable (e :: done) rest
    | _, _ => none
  | c :: rest =>
    match fuel with
    | 0 => none
    | fuel + 1 => if c.toNat < 32 ∨ c = '\\' then none else stringRest fuel readable (c :: done) rest

def text (cs : List Char) : Option (Option String × List Char) := stringRest cs.length true [] cs

def literal (word : String) (cs : List Char) : Option (List Char) :=
  word.toList.isPrefixOf? cs

def scalarOf (value : Option Json) : Document :=
  match value with
  | some v => Document.ofJson v
  | none => .scalar .unreadable

def soleKey : List (Document × Document) → Option String
  | [(key, .scalar s)] => if s.absent then key.text? else none
  | _ => none

mutual

/-- One value, at a place where `depth` levels of nesting are left. -/
def value (depth : Nat) (fuel : Nat) (cs : List Char) : Option (Document × List Char) :=
  match fuel with
  | 0 => none
  | fuel + 1 =>
    match skipBlanks cs with
    | '"' :: rest => (text rest).map fun (s, rest) => (scalarOf (s.map .string), rest)
    | '[' :: rest =>
      let start := skipBlanks rest
      let read := match start with
        | ']' :: rest => some ([], rest)
        | _ => items (depth - 1) fuel start
      read.map fun (found, rest) =>
        (if depth ≤ 1 then .scalar .unreadable else .list found true, rest)
    | '\x7b' :: rest =>
      let start := skipBlanks rest
      let read := match start with
        | '\x7d' :: rest => some ([], rest)
        | _ => entries (depth - 1) fuel start
      read.map fun (found, rest) =>
        (if depth ≤ 1 then .scalar .unreadable else .map found (soleKey found), rest)
    | '-' :: rest => (number true rest).map fun (n, rest) => (scalarOf (n.map .number), rest)
    | c :: rest =>
      if c.isDigit then
        (number false (c :: rest)).map fun (n, rest) => (scalarOf (n.map .number), rest)
      else
        let word (w : String) (v : Json) := (literal w (c :: rest)).map fun r => (scalarOf v, r)
        (word "null" .null).or ((word "true" (.bool true)).or (word "false" (.bool false)))
    | [] => none

def items (depth : Nat) (fuel : Nat) (cs : List Char) : Option (List Document × List Char) :=
  match fuel with
  | 0 => none
  | fuel + 1 =>
    match value depth fuel cs with
    | none => none
    | some (item, rest) =>
      match skipBlanks rest with
      | ',' :: rest => (items depth fuel rest).map fun (found, rest) => (item :: found, rest)
      | ']' :: rest => some ([item], rest)
      | _ => none

def entries (depth : Nat) (fuel : Nat) (cs : List Char) :
    Option (List (Document × Document) × List Char) :=
  match fuel with
  | 0 => none
  | fuel + 1 =>
    match skipBlanks cs with
    | '"' :: rest =>
      match text rest with
      | none => none
      | some (name, rest) =>
        match skipBlanks rest with
        | ':' :: rest =>
          match value depth fuel rest with
          | none => none
          | some (item, rest) =>
            let entry := (scalarOf (name.map .string), item)
            match skipBlanks rest with
            | ',' :: rest =>
              (entries depth fuel rest).map fun (found, rest) => (entry :: found, rest)
            | '\x7d' :: rest => some ([entry], rest)
            | _ => none
        | _ => none
    | _ => none

end

/-- The levels of nesting a text may have, the first one that is refused included. -/
def nestingLimit : Nat := 128

end Parser

def parseDocument? (text : String) : Option Document :=
  let cs := text.toList
  match Parser.value Parser.nestingLimit (2 * cs.length + 2) cs with
  | some (doc, rest) => if (Parser.skipBlanks rest).isEmpty then some doc else none
  | none => none

def parse? (text : String) : Option Json := (parseDocument? text).bind Document.toJson?

end HttpScenario.Json
