import HttpScenario.Json.Basic
import HttpScenario.Number.Integer
import HttpScenario.Text.Blank

/-! Generators of values. A generator may consult a source of numbers and a clock, which stand in
its monad; the built-in ones take both as arguments. -/

namespace HttpScenario

abbrev Generator (m : Type → Type) := List Json → m Json

namespace Generator

variable {m : Type → Type} [Monad m]

def integerParam (params : List Json) (i : Nat) : Option Int :=
  match params[i]? with
  | some (.number n) => n.toInt64?
  | some (.string s) => Integer.intOfList? (Text.trimList s.toList)
  | _ => none

def alphanumerics : List Char :=
  "ABCDEFGHIJKLMNOPQRSTUVWXYZabcdefghijklmnopqrstuvwxyz0123456789".toList

/-- Draws `n` letters and digits; `draw k` yields a number below `k`. -/
def drawText (draw : Nat → m Nat) : Nat → m (List Char)
  | 0 => return []
  | n + 1 => do
    let i ← draw alphanumerics.length
    let rest ← drawText draw n
    return alphanumerics.getD i 'A' :: rest

def hexDigits : Nat → Nat → List Char
  | 0, _ => []
  | width + 1, n => hexDigits width (n / 16) ++ (Nat.toDigits 16 (n % 16)).take 1

/-- The text of a random identifier of version 4, whose variant bits are 10. -/
def uuidText (bits : Nat) : String :=
  let digits := hexDigits 30 (bits / 4)
  let variant := hexDigits 1 (8 + bits % 4)
  let part (start size : Nat) := (digits.drop start).take size
  let parts :=
    [part 0 8, part 8 4, '4' :: part 12 3, variant ++ part 15 3, part 18 12]
  String.ofList (List.intercalate ['-'] parts)

def uuid (draw : Nat → m Nat) : Generator m := fun _ => do
  return .string (uuidText (← draw (Nat.pow 2 122)))

def randomInt (draw : Nat → m Nat) : Generator m := fun params => do
  let low := (integerParam params 0).getD 0
  let high := max ((integerParam params 1).getD 1000) low
  return .int (low + (← draw (high - low + 1).toNat))

def randomString (draw : Nat → m Nat) : Generator m := fun params => do
  let size := ((integerParam params 0).getD 8).toNat
  return .string (String.ofList (← drawText draw size))

def randomEmail (draw : Nat → m Nat) : Generator m := fun params => do
  let domain := (params.head?.bind Json.asString?).getD "example.com"
  let user := (← drawText draw 8).map Char.toLower
  return .string s!"user_{String.ofList user}@{domain}"

def twoDigits (n : Nat) : String := (if n < 10 then "0" else "") ++ toString n

/-- Year, month and day of a number of days since the beginning of 1970. Years are counted from
March, in eras of 400 years. -/
def civilDate (days : Nat) : Nat × Nat × Nat :=
  let shifted := days + 719468
  let era := shifted / 146097
  let dayOfEra := shifted % 146097
  let yearOfEra := (dayOfEra - dayOfEra / 1460 + dayOfEra / 36524 - dayOfEra / 146096) / 365
  let dayOfYear := dayOfEra - (365 * yearOfEra + yearOfEra / 4 - yearOfEra / 100)
  let marchMonth := (5 * dayOfYear + 2) / 153
  let day := dayOfYear - (153 * marchMonth + 2) / 5 + 1
  let month := if marchMonth < 10 then marchMonth + 3 else marchMonth - 9
  (yearOfEra + 400 * era + (if month ≤ 2 then 1 else 0), month, day)

def instantText (millis : Nat) : String :=
  let seconds := millis / 1000
  let (year, month, day) := civilDate (seconds / 86400)
  let clock := seconds % 86400
  let fraction := millis % 1000
  let tail := if fraction = 0 then "" else
    "." ++ (if fraction < 100 then "0" else "") ++ twoDigits fraction
  let date := s!"{year}-{twoDigits month}-{twoDigits day}"
  let time := s!"{twoDigits (clock / 3600)}:{twoDigits (clock / 60 % 60)}:{twoDigits (clock % 60)}"
  date ++ "T" ++ time ++ tail ++ "+00:00"

def builtin (draw : Nat → m Nat) (now : m Nat) : Fields (Generator m) :=
  [("uuid", uuid draw), ("randomInt", randomInt draw), ("randomString", randomString draw),
   ("randomEmail", randomEmail draw), ("timestamp", fun _ => return .nat (← now)),
   ("isoDate", fun _ => return .string (instantText (← now)))]

end Generator

end HttpScenario
