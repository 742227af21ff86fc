import HttpScenario.Url.Error
import HttpScenario.Url.Label
import HttpScenario.Url.Mapping
import HttpScenario.Url.Punycode

/-! Domain names in ASCII. Letters become small, and labels beyond ASCII are spelled in ASCII
behind `xn--`. -/

namespace HttpScenario.Url.Domain

def isForbiddenInHost (c : Char) : Bool :=
  ['\x00', '\t', '\n', '\r', ' ', '#', '/', ':', '<', '>', '?', '@', '[', '\\', ']', '^',
    '|'].contains c

def isForbidden (c : Char) : Bool :=
  isForbiddenInHost c ∨ c = '%' ∨ c.toNat < 0x20 ∨ c.toNat = 0x7F

def isPlain (cs : List Char) : Bool := cs.all Punycode.isAscii

def normal (name : List Char) : List Char :=
  let name := name.flatMap Mapping.image
  if isPlain name then name else Text.composed name

def marker : List Char := ['x', 'n', '-', '-']

/-- A spelling in ASCII is for what has no other, and is the only one for it. -/
def shown? (label : List Char) : Option (List Char) :=
  if marker.isPrefixOf label then do
    let behind := label.drop marker.length
    let shown ← Punycode.decode? behind
    if isPlain shown ∨ normal shown ≠ shown ∨ Punycode.encode? shown ≠ some behind then none
    else some shown
  else some label

def spelled? (label : List Char) : Option (List Char) :=
  if isPlain label then some label else (Punycode.encode? label).map (marker ++ ·)

def splitLabels (cs : List Char) : List (List Char) :=
  cs.splitOn '.'

/-- As soon as one label runs leftward, every label has to run one way. -/
def areFit (labels : List (List Char)) : Bool :=
  labels.all isPlain ||
    (labels.all Label.isValid &&
      (labels.all Label.runsOneWay || !labels.any fun label => label.any Label.isLeftward))

def ascii? (name : List Char) : Option (List Char) := do
  let labels ← (splitLabels (normal name)).mapM shown?
  if areFit labels then return List.intercalate ['.'] (← labels.mapM spelled?) else none

def toAscii (name : List Char) : Except Error (List Char) :=
  match ascii? name with
  | some ascii => if ascii.any isForbidden then .error .internationalName else .ok ascii
  | none => .error .internationalName

end HttpScenario.Url.Domain
