/-! Finite binary64 numbers, held exactly. The code of a magnitude counts the representable
magnitudes below it, so codes are ordered as the numbers are. Every operation is exact arithmetic
followed by one rounding to the nearest number, a tie going to the even code. -/

namespace HttpScenario

/-- A finite binary64 number: a sign and the position of its magnitude among all magnitudes. -/
structure Double where
  negative : Bool
  code : Nat
  code_lt : code < 2047 * Nat.pow 2 52
deriving DecidableEq

namespace Double

instance : Inhabited Double := ⟨⟨false, 0, by decide⟩⟩

def zero (negative : Bool) : Double := ⟨negative, 0, by decide⟩

def neg (x : Double) : Double := { x with negative := !x.negative }

/-- The magnitude is `significand * 2 ^ exponent`. -/
def significand (x : Double) : Nat :=
  if x.code < Nat.pow 2 52 then x.code else Nat.pow 2 52 + x.code % Nat.pow 2 52

def exponent (x : Double) : Int :=
  if x.code < Nat.pow 2 52 then -1074 else (x.code / Nat.pow 2 52 : Nat) - 1075

def numerator (x : Double) : Nat := x.significand * Nat.pow 2 x.exponent.toNat

def denominator (x : Double) : Nat := Nat.pow 2 (-x.exponent).toNat

/-- The integer nearest to `num / den`; a tie goes to the even one. -/
def nearestQuotient (num den : Nat) : Nat :=
  let q := num / den
  let r := num % den
  if 2 * r < den then q else if den < 2 * r then q + 1 else q + q % 2

/-- The exponent at which a positive `num / den` has a significand of 53 bits, or the least
exponent if there is none. -/
def scale (num den : Nat) : Int :=
  let low : Int := (num.log2 : Int) - den.log2 - 53
  let fits := den * Nat.pow 2 (low + 53).toNat ≤ num * Nat.pow 2 (-(low + 53)).toNat
  max (-1074) (if fits then low + 1 else low)

def ofRatio (negative : Bool) (num den : Nat) : Option Double :=
  if num = 0 then some (zero negative)
  else
    let e := scale num den
    let q := nearestQuotient (num * Nat.pow 2 (-e).toNat) (den * Nat.pow 2 e.toNat)
    let code := (e + 1074).toNat * Nat.pow 2 52 + q
    if h : code < 2047 * Nat.pow 2 52 then some ⟨negative, code, h⟩ else none

def largest (negative : Bool) : Double := ⟨negative, 2047 * Nat.pow 2 52 - 1, by decide⟩

def ofInt (n : Int) : Double :=
  (ofRatio (n < 0) n.natAbs 1).getD (largest (n < 0))

def mul (x y : Double) : Option Double :=
  ofRatio (x.negative != y.negative) (x.numerator * y.numerator) (x.denominator * y.denominator)

def div (x y : Double) : Option Double :=
  ofRatio (x.negative != y.negative) (x.numerator * y.denominator) (x.denominator * y.numerator)

/-- Orders numbers by value: both zeros have rank 0. -/
def rank (x : Double) : Int := if x.negative then -(x.code : Int) else x.code

def sameValue (x y : Double) : Bool := x.rank == y.rank

instance : LT Double := ⟨fun x y => x.rank < y.rank⟩

instance (x y : Double) : Decidable (x < y) := inferInstanceAs (Decidable (x.rank < y.rank))

def isZero (x : Double) : Bool := x.code == 0

def isInteger (x : Double) : Bool := x.numerator % x.denominator == 0

def truncate (x : Double) : Int :=
  let n : Int := (x.numerator / x.denominator : Nat)
  if x.negative then -n else n

end Double

end HttpScenario
