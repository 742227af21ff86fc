import HttpScenario.Text.Property

/-! What characters are to the division of text into what readers take for characters, into words
and into sentences. -/

namespace HttpScenario.Text

open CharSet (ofText ofLines)

def extending : CharSet := graphemeExtend ∪ ofCategories [.spacingMark]

/-- Syllables without a final consonant come first in each group of 28. -/
def openSyllables : CharSet := CharSet.ofCodes ((List.range 399).map fun i => 0xAC00 + 28 * i)

def controls : CharSet :=
  (ofCategories [.control, .format, .lineSeparator, .paragraphSeparator] ∪
    (defaultIgnorable ∩ ofCategories [.unassigned])) \
      (ofText "a d 200c-200d" ∪ prependedConcatenationMark ∪ graphemeExtend)

def graphemeBreaks : NamedSets :=
  [("cr", fun _ => ofText "d"),
   ("lf", fun _ => ofText "a"),
   ("control cn", fun _ => controls),
   ("extend ex", fun _ => graphemeExtend ∪ emojiModifier),
   ("zwj", fun _ => ofText "200d"),
   ("regionalindicator ri", fun _ => regionalIndicator),
   ("prepend pp",
    fun _ => prependedConcatenationMark ∪
      ofText "d4e 111c2-111c3 113d1 1193f 11941 11a84-11a89 11d46 11f02"),
   ("spacingmark sm",
    fun _ => (ofCategories [.spacingMark] \ (graphemeExtend ∪ ofLines
        ["102b-102c 1038 1062-1064 1067-106d 1083 1087-108c 108f 109a-109c 1a61 1a63-1a64 aa7b ",
         "aa7d 11720-11721"])) ∪ ofText "e33 eb3"),
   ("l", fun _ => ofText "1100-115f a960-a97c"),
   ("v", fun _ => ofText "1160-11a7 d7b0-d7c6 16d63 16d67-16d6a"),
   ("t", fun _ => ofText "11a8-11ff d7cb-d7fb"),
   ("lv", fun _ => openSyllables),
   ("lvt", fun _ => ofText "ac00-d7a3" \ openSyllables)]

def katakana : CharSet := ofLines
  ["3031-3035 309b-309c 30a0-30fa 30fc-30ff 31f0-31ff 32d0-32fe 3300-3357 ff66-ff9d 1aff0-1aff3 ",
   "1aff5-1affb 1affd-1affe 1b000 1b120-1b122 1b155 1b164-1b167"]

def hebrew : CharSet :=
  ofText "5d0-5ea 5ef-5f2 fb1d fb1f-fb28 fb2a-fb36 fb38-fb3c fb3e fb40-fb41 fb43-fb44 fb46-fb4f"

/-- Letters of scripts that do not set words apart. -/
def unspaced : CharSet := ofLines
  ["e01-e30 e32-e33 e40-e46 e81-e82 e84 e86-e8a e8c-ea3 ea5 ea7-eb0 eb2-eb3 ebd ec0-ec4 ec6 ",
   "edc-edf 1000-102a 103f 1050-1055 105a-105d 1061 1065-1066 106e-1070 1075-1081 108e 1780-17b3 ",
   "17d7 17dc 1950-196d 1970-1974 1980-19ab 19b0-19c9 1a20-1a54 1aa7 3041-3096 309d-309f ",
   "a9e0-a9e4 a9e6-a9ef a9fa-a9fe aa60-aa76 aa7a aa7e-aaaf aab1 aab5-aab6 aab9-aabd aac0 aac2 ",
   "aadb-aadd 11700-1171a 11740-11746 1b001-1b11f 1b132 1b150-1b152"]

def wordLetters : CharSet :=
  (alphabetic \ (ideographic ∪ katakana ∪ hebrew ∪ extending ∪ unspaced)) ∪ ofLines
    ["b8 2c2-2c5 2d2-2d7 2de-2df 2e5-2eb 2ed 2ef-2ff 55a-55c 55e 58a 5f3 70f a708-a716 a720-a721 ",
     "a789-a78a ab5b"]

/-- Format characters that belong to what stands beside them. -/
def tacitFormat : CharSet := ofText "600-605 6dd 890-891 8e2 200c-200d 110bd 110cd e0020-e007f"

def numerics : CharSet :=
  ofCategories [.decimalNumber] ∪ ofText "600-605 66b 6dd 890-891 8e2 19da 110bd 110cd"

def wordBreaks : NamedSets :=
  [("cr", fun _ => ofText "d"),
   ("lf", fun _ => ofText "a"),
   ("newline nl", fun _ => ofText "b-c 85 2028-2029"),
   ("extend", fun _ => extending ∪ emojiModifier),
   ("zwj", fun _ => ofText "200d"),
   ("format fo", fun _ => ofCategories [.format] \ (tacitFormat ∪ ofText "70f 200b")),
   ("katakana ka", fun _ => katakana),
   ("hebrewletter hl", fun _ => hebrew),
   ("aletter le", fun _ => wordLetters),
   ("singlequote sq", fun _ => ofText "27"),
   ("doublequote dq", fun _ => ofText "22"),
   ("midnumlet mb", fun _ => ofText "2e 2018-2019 2024 fe52 ff07 ff0e"),
   ("midletter ml", fun _ => ofText "3a b7 387 55f 5f4 2027 fe13 fe55 ff1a"),
   ("midnum mn", fun _ => ofText "2c 3b 37e 589 60c-60d 66c 7f8 2044 fe50 fe54 ff0c ff1b"),
   ("numeric nu", fun _ => numerics),
   ("extendnumlet ex", fun _ => ofCategories [.connectorPunctuation] ∪ ofText "202f"),
   ("regionalindicator ri", fun _ => regionalIndicator),
   ("wsegspace", fun _ => ofText "20 1680 2000-2006 2008-200a 205f 3000")]

/-- Georgian has no letters that begin sentences. -/
def sentenceLower : CharSet := lowercase \ (extending ∪ ofText "10d0-10fa 10fd-10ff")

def sentenceUpper : CharSet :=
  (uppercase ∪ ofCategories [.titlecaseLetter]) \ ofText "1c90-1cba 1cbd-1cbf"

def fullStops : CharSet := ofText "2e 2024 fe52 ff0e"

def sentenceBreaks : NamedSets :=
  [("cr", fun _ => ofText "d"),
   ("lf", fun _ => ofText "a"),
   ("sep se", fun _ => ofText "85 2028-2029"),
   ("extend ex", fun _ => extending ∪ ofText "200d"),
   ("format fo", fun _ => ofCategories [.format] \ tacitFormat),
   ("sp", fun _ => ofText "9 b-c 20 a0 1680 2000-200a 202f 205f 3000"),
   ("lower lo", fun _ => sentenceLower),
   ("upper up", fun _ => sentenceUpper),
   ("oletter le",
    fun _ => (alphabetic \ (sentenceLower ∪ sentenceUpper ∪ extending)) ∪ ofText "5f3"),
   ("numeric nu", fun _ => numerics ∪ ofText "66c"),
   ("aterm at", fun _ => fullStops),
   ("scontinue sc",
    fun _ => ofLines
      ["2c-2d 3a-3b 37e 55d 60c-60d 7f8 1802 1808 2013-2014 3001 fe10-fe11 fe13-fe14 fe31-fe32 ",
       "fe50-fe51 fe54-fe55 fe58 fe63 ff0c-ff0d ff1a-ff1b ff64"]),
   ("sterm st", fun _ => sentenceTerminal \ fullStops),
   ("close cl",
    fun _ => ofCategories
        [.openPunctuation, .closePunctuation, .initialPunctuation, .finalPunctuation] ∪
      ofText "22 27 275b-2760 2e00-2e01 2e06-2e08 2e0b 1f676-1f678")]

end HttpScenario.Text
