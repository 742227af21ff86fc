/-! Bytes as text of 64 characters, three bytes as four of them. -/

namespace HttpScenario.Text.Base64

def digitChar (d : Nat) : Char :=
  if d < 26 then Char.ofNat (65 + d)
  else if d < 52 then Char.ofNat (71 + d)
  else if d < 62 then Char.ofNat (d - 4)
  else if d = 62 then '+'
  else '/'

def digits (count n : Nat) : List Char :=
  ([n / Nat.pow 2 18, n / Nat.pow 2 12 % 64, n / Nat.pow 2 6 % 64, n % 64].take count).map digitChar

def encode : List UInt8 → List Char
  | [] => []
  | [a] => digits 2 (a.toNat * Nat.pow 2 16) ++ ['=', '=']
  | [a, b] => digits 3 (a.toNat * Nat.pow 2 16 + b.toNat * Nat.pow 2 8) ++ ['=']
  | a :: b :: c :: rest =>
    digits 4 (a.toNat * Nat.pow 2 16 + b.toNat * Nat.pow 2 8 + c.toNat) ++ encode rest

def ofText (s : String) : String := String.ofList (encode s.toUTF8.toList)

end HttpScenario.Text.Base64
