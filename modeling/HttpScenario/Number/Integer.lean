/-! Integers as text: digits after an optional sign, within a width in bits, and digits to other
bases. -/

namespace HttpScenario.Integer

def digit? (base : Nat) (c : Char) : Option Nat :=
  let value :=
    if c.isDigit then some (c.toNat - 48)
    else if c.isAlpha then some (c.toLower.toNat - 87)
    else none
  value.filter fun d => d < base

def valueIn? (base : Nat) (cs : List Char) : Option Nat :=
  if cs.isEmpty then none
  else cs.foldlM (fun n c => (digit? base c).map fun d => base * n + d) 0

def digitsValue? (ds : List Char) : Option Nat :=
  if ds.isEmpty ∨ ds.any (fun c => !c.isDigit) then none
  else some (ds.foldl (fun n c => 10 * n + (c.toNat - 48)) 0)

def unboundedOfList? (cs : List Char) : Option Nat :=
  let ds := match cs with
    | '+' :: rest => rest
    | _ => cs
  digitsValue? ds

def natOfList? (cs : List Char) : Option Nat :=
  (unboundedOfList? cs).bind fun n => if n < Nat.pow 2 64 then some n else none

def intOfList? (cs : List Char) : Option Int :=
  match cs with
  | '-' :: ds =>
    (digitsValue? ds).bind fun n => if n ≤ Nat.pow 2 63 then some (-(n : Int)) else none
  | _ =>
    let ds := match cs with
      | '+' :: rest => rest
      | _ => cs
    (digitsValue? ds).bind fun n => if n < Nat.pow 2 63 then some (n : Int) else none

def clamp (n : Int) : Int := max (-Nat.pow 2 63) (min n (Nat.pow 2 63 - 1))

end HttpScenario.Integer
