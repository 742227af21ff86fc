import HttpScenario.Text.Age
import HttpScenario.Text.Break
import HttpScenario.Text.Script

/-! Classes of characters by their names in patterns: the classes within ASCII, and the classes that
properties of characters make up. -/

namespace HttpScenario.Pattern.ClassName

open Text (CharSet ofCategories)
open Text.CharSet (ofText)

def asciiDigits : CharSet := ofText "30-39"

def asciiBlanks : CharSet := ofText "9-d 20"

def asciiWords : CharSet := ofText "30-39 41-5a 5f 61-7a"

def ascii : Text.NamedSets :=
  [("alnum", fun _ => ofText "30-39 41-5a 61-7a"),
   ("alpha", fun _ => ofText "41-5a 61-7a"),
   ("ascii", fun _ => ofText "0-7f"),
   ("blank", fun _ => ofText "9 20"),
   ("cntrl", fun _ => ofText "0-1f 7f"),
   ("digit", fun _ => asciiDigits),
   ("graph", fun _ => ofText "21-7e"),
   ("lower", fun _ => ofText "61-7a"),
   ("print", fun _ => ofText "20-7e"),
   ("punct", fun _ => ofText "21-2f 3a-40 5b-60 7b-7e"),
   ("space", fun _ => asciiBlanks),
   ("upper", fun _ => ofText "41-5a"),
   ("word", fun _ => asciiWords),
   ("xdigit", fun _ => ofText "30-39 41-46 61-66")]

/-- Long names of categories and of groups of categories, with their short names. -/
def categoryNames : List (String × String) :=
  [("letter", "l"), ("mark", "m"), ("combiningmark", "m"), ("number", "n"), ("punctuation", "p"),
   ("punct", "p"), ("symbol", "s"), ("separator", "z"), ("other", "c"), ("uppercaseletter", "lu"),
   ("lowercaseletter", "ll"), ("titlecaseletter", "lt"), ("casedletter", "lc"),
   ("modifierletter", "lm"), ("otherletter", "lo"), ("nonspacingmark", "mn"),
   ("spacingmark", "mc"), ("enclosingmark", "me"), ("decimalnumber", "nd"), ("digit", "nd"),
   ("letternumber", "nl"), ("othernumber", "no"), ("connectorpunctuation", "pc"),
   ("dashpunctuation", "pd"), ("openpunctuation", "ps"), ("closepunctuation", "pe"),
   ("initialpunctuation", "pi"), ("finalpunctuation", "pf"), ("otherpunctuation", "po"),
   ("mathsymbol", "sm"), ("currencysymbol", "sc"), ("modifiersymbol", "sk"), ("othersymbol", "so"),
   ("spaceseparator", "zs"), ("lineseparator", "zl"), ("paragraphseparator", "zp"),
   ("control", "cc"), ("cntrl", "cc"), ("format", "cf"), ("privateuse", "co"),
   ("unassigned", "cn")]

/-- No character is half of a surrogate pair, and that category has no class. -/
def ofShortCategory? (name : String) : Option CharSet :=
  let categories := Text.Category.codes.filterMap fun (code, category) =>
    let code := code.map Char.toLower
    if code != "cs" && (code == name || (code.take 1).toString == name) then some category else none
  if name = "lc" then
    some (ofCategories [.uppercaseLetter, .lowercaseLetter, .titlecaseLetter])
  else if categories.isEmpty then none
  else some (ofCategories categories)

def ofCategory? : String → Option CharSet
  | "any" => some .all
  | "ascii" => some (ofText "0-7f")
  | "assigned" => some (ofCategories [.unassigned]).complement
  | name => ofShortCategory? ((categoryNames.lookup name).getD name)

/-- Three short names of categories are also those of properties that make up no class. -/
def ofName? (name : String) : Option CharSet :=
  let property := if ["cf", "sc", "lc"].contains name then none else Text.properties.find? name
  (property.or (ofCategory? name)).or ((Text.Script.code? name).map Text.Script.set)

def ofValue? (property value : String) : Option CharSet :=
  match property with
  | "generalcategory" | "gc" => ofCategory? value
  | "script" | "sc" => (Text.Script.code? value).map Text.Script.set
  | "scriptextensions" | "scx" => (Text.Script.code? value).map Text.Script.extended
  | "age" => (Text.Age.ofName? value).map Text.Age.upTo
  | "graphemeclusterbreak" | "gcb" => Text.graphemeBreaks.find? value
  | "wordbreak" | "wb" => Text.wordBreaks.find? value
  | "sentencebreak" | "sb" => Text.sentenceBreaks.find? value
  | _ => none

/-- A name in small letters, without what stands between words and without a leading "is", which is
left alone only where it belongs to the name of a property. -/
def normalized (cs : List Char) : String :=
  let (shortened, cs) := match cs with
    | i :: s :: rest => if i.toLower = 'i' ∧ s.toLower = 's' then (true, rest) else (false, cs)
    | _ => (false, cs)
  let kept := cs.filter fun c => c.toNat < 128 ∧ c ≠ ' ' ∧ c ≠ '_' ∧ c ≠ '-'
  let name := String.ofList (kept.map Char.toLower)
  if shortened ∧ name = "c" then "isc" else name

def splitAt? (mark : List Char) : List Char → Option (List Char × List Char)
  | [] => none
  | c :: cs =>
    if mark.isPrefixOf (c :: cs) then some ([], (c :: cs).drop mark.length)
    else (splitAt? mark cs).map fun (before, behind) => (c :: before, behind)

def ofQuery? (query : List Char) : Option (CharSet × Bool) :=
  let valued (unequal : Bool) : List Char × List Char → Option (CharSet × Bool)
    | (property, value) =>
      (ofValue? (normalized property) (normalized value)).map fun s => (s, unequal)
  match splitAt? ['!', '='] query with
  | some parts => valued true parts
  | none =>
    match (splitAt? [':'] query).or (splitAt? ['='] query) with
    | some parts => valued false parts
    | none => (ofName? (normalized query)).map fun s => (s, false)

end HttpScenario.Pattern.ClassName
