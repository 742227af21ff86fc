import HttpScenario.Number.Double

/-! Decimal text of binary64 numbers. Writing uses the fewest digits that read back as the same
number and, of these, the digits nearest to it; reading rounds once. What a format decides, such
as where scientific notation begins, is a field of its style. -/

namespace HttpScenario

/-- The value `digits * 10 ^ exponent`. -/
structure Decimal where
  digits : Nat
  exponent : Int
deriving DecidableEq

namespace Double

/-- The end points, in quarters of the last place, of the reals that round to a magnitude. -/
def interval (x : Double) : Nat × Nat :=
  let m := x.significand
  let closeBelow := m = Nat.pow 2 52 ∧ x.exponent ≠ -1074
  (4 * m - (if closeBelow then 1 else 2), 4 * m + 2)

/-- The multiple of `10 ^ k` that rounds to the magnitude and lies nearest to it, if there is
one; a tie goes to the even multiple. -/
def onGrid (x : Double) (k : Int) : Option Nat :=
  let (low, high) := x.interval
  let a := Nat.pow 2 (x.exponent - 2).toNat * Nat.pow 10 (-k).toNat
  let b := Nat.pow 2 (2 - x.exponent).toNat * Nat.pow 10 k.toNat
  let closed := x.significand % 2 = 0
  let value := 4 * x.significand * a
  let below := value / b
  let above := below + 1
  let fitsBelow : Bool := if closed then low * a ≤ below * b else low * a < below * b
  let fitsAbove : Bool := if closed then above * b ≤ high * a else above * b < high * a
  match fitsBelow, fitsAbove with
  | true, false => some below
  | false, true => some above
  | false, false => none
  | true, true =>
    let twice := 2 * value
    let middle := (below + above) * b
    if twice < middle then some below
    else if middle < twice then some above
    else some (if below % 2 = 0 then below else above)

/-- A power of ten that is at least the magnitude and at most a thousand times it. -/
def decimalCeiling (x : Double) : Int :=
  ((x.significand.log2 + x.exponent) * 1233) / 4096 + 2

/-- The fewest digits that read back, and of these the nearest. -/
def shortest (x : Double) : Decimal :=
  if x.code = 0 then ⟨0, 0⟩
  else
    let top := x.decimalCeiling
    let found := (List.range 22).findSome? fun (i : Nat) =>
      let k := top - i
      (x.onGrid k).map fun digits => Decimal.mk digits k
    found.getD ⟨x.significand, 0⟩

end Double

namespace Decimal

structure Style where
  /-- The scientific exponents written positionally, from the first up to below the second. -/
  positional : Option (Int × Int)
  plus : Bool
  pointed : Bool

/-- Scientific notation from `10 ^ 16` on and below `10 ^ -5`, signed exponents, and always a
fraction or an exponent. -/
def Style.json : Style := ⟨some (-5, 16), true, true⟩

def Style.yaml : Style := ⟨some (-5, 16), false, true⟩

def Style.plain : Style := ⟨none, false, false⟩

def zeros (n : Nat) : String := String.ofList (List.replicate n '0')

def positionalText (style : Style) (digits : List Char) (exponent : Int) : String :=
  let point : Int := digits.length + exponent
  if 0 ≤ exponent then
    String.ofList digits ++ zeros exponent.toNat ++ (if style.pointed then ".0" else "")
  else if 0 < point then
    String.ofList (digits.take point.toNat) ++ "." ++ String.ofList (digits.drop point.toNat)
  else "0." ++ zeros (-point).toNat ++ String.ofList digits

def scientificText (style : Style) (digits : List Char) (power : Int) : String :=
  let rest := digits.drop 1
  let fraction := if rest.isEmpty then "" else "." ++ String.ofList rest
  String.ofList (digits.take 1) ++ fraction ++ "e" ++
    (if style.plus ∧ 0 ≤ power then "+" else "") ++ toString power

def text (style : Style) (d : Decimal) : String :=
  let digits := Nat.toDigits 10 d.digits
  let power : Int := digits.length - 1 + d.exponent
  let positional := style.positional.all fun (low, high) => low ≤ power ∧ power < high
  if positional then positionalText style digits d.exponent else scientificText style digits power

end Decimal

namespace Double

def text (style : Decimal.Style) (x : Double) : String :=
  (if x.negative then "-" else "") ++ x.shortest.text style

def digitsValue (ds : List Char) : Nat :=
  ds.foldl (fun n c => 10 * n + (c.toNat - 48)) 0

/-- The number nearest to `digits * 10 ^ exponent`. The exponent is compared with the number of
digits first, so that no power of ten beyond need is formed. -/
def ofScientific (negative : Bool) (digits : Nat) (exponent : Int) : Option Double :=
  let size : Int := (digits.log2 / 3 : Nat) + 1
  if digits = 0 then some (zero negative)
  else if 310 < exponent then none
  else if exponent + size < -330 then some (zero negative)
  else ofRatio negative (digits * Nat.pow 10 exponent.toNat) (Nat.pow 10 (-exponent).toNat)

def readExponent (cs : List Char) : Option Int :=
  let (negative, ds) := match cs with
    | '-' :: rest => (true, rest)
    | '+' :: rest => (false, rest)
    | _ => (false, cs)
  if ds.isEmpty ∨ ds.any (fun c => !c.isDigit) then none
  else some (if negative then -(digitsValue ds : Int) else digitsValue ds)

def ofText? (text : String) : Option Double :=
  let cs := text.toList
  let (negative, cs) := match cs with
    | '-' :: rest => (true, rest)
    | '+' :: rest => (false, rest)
    | _ => (false, cs)
  let whole := cs.takeWhile Char.isDigit
  let rest := cs.dropWhile Char.isDigit
  let (fraction, rest) := match rest with
    | '.' :: more => (more.takeWhile Char.isDigit, more.dropWhile Char.isDigit)
    | _ => ([], rest)
  if whole.isEmpty ∧ fraction.isEmpty then none
  else
    let digits := digitsValue (whole ++ fraction)
    let place : Int := -(fraction.length : Int)
    match rest with
    | [] => ofScientific negative digits place
    | c :: more =>
      if c = 'e' ∨ c = 'E' then
        (readExponent more).bind fun e => ofScientific negative digits (place + e)
      else none

end Double

end HttpScenario
