import HttpScenario.Number.Integer

/-! Characters written as percent signs and the bytes of their UTF-8 form, and which characters
are written so in which part of a URL. -/

namespace HttpScenario.Url.Percent

def pair (byte : UInt8) : List Char :=
  let digit (n : Nat) : Char := ((Nat.toDigits 16 n).headD '0').toUpper
  ['%', digit (byte.toNat / 16), digit (byte.toNat % 16)]

/-- Control characters, and all beyond ASCII, are written as bytes in every part. -/
def isControl (c : Char) : Bool := c.toNat < 0x20 ∨ 0x7E < c.toNat

def inFragment (c : Char) : Bool := isControl c ∨ [' ', '"', '<', '>', '\x60'].contains c

def inQuery (c : Char) : Bool := isControl c ∨ [' ', '"', '#', '<', '>'].contains c

/-- The query of a URL whose scheme is known, where an apostrophe is escaped too. -/
def inSpecialQuery (c : Char) : Bool := inQuery c ∨ c = '\''

def inPath (c : Char) : Bool := inFragment c ∨ ['#', '?', '{', '}'].contains c

def inUserinfo (c : Char) : Bool :=
  inPath c ∨ ['/', ':', ';', '=', '@', '[', '\\', ']', '^', '|'].contains c

def encode (escaped : Char → Bool) (cs : List Char) : List Char :=
  cs.flatMap fun c => if escaped c then (String.utf8EncodeChar c).flatMap pair else [c]

/-- The bytes that a text stands for. A percent sign without two digits stands for itself. -/
def bytes : List Char → List UInt8
  | '%' :: a :: b :: rest =>
    match Integer.valueIn? 16 [a, b] with
    | some n => n.toUInt8 :: bytes rest
    | none => '%'.toUInt8 :: bytes (a :: b :: rest)
  | c :: rest => String.utf8EncodeChar c ++ bytes rest
  | [] => []

def decode? (cs : List Char) : Option String := String.fromUTF8? (bytes cs).toByteArray

end HttpScenario.Url.Percent
