import HttpScenario.Text.Category
import HttpScenario.Text.Composition

/-! The labels that names are made of, as they are shown. A label that could look like another one
is refused: marks with no letter, joiners that join nothing, text that runs in both directions. -/

namespace HttpScenario.Url.Label

open Text (CharSet Category Runs)

def separator : Char := '\u200C'

def joiner : Char := '\u200D'

def isMark (c : Char) : Bool :=
  [Category.nonspacingMark, .spacingMark, .enclosingMark].contains (Text.category c)

/-- Signs that tell how to draw others are in no name, except joiners. -/
def isNameable (c : Char) : Bool :=
  let unnameable := [Category.control, .format, .surrogate, .privateUse, .unassigned,
    .spaceSeparator, .lineSeparator, .paragraphSeparator]
  let others := CharSet.ofLines
    ["2024-2026 2488-249b 2ff0-2fff 31ef 33c2 33c7 33d8 fe12 fe19 fe30 fe52 fffc-fffd 1f100"]
  c = separator ∨ c = joiner ∨ (!unnameable.contains (Text.category c) && !others.holds c)

section Joining

def joinsBothWays : CharSet := .ofLines
  ["620 626 628 62a-62e 633-63f 641-647 649-64a 66e-66f 679-687 69a-6bf 6c1-6c2 6cc 6ce 6d0-6d1 ",
   "6fa-6fc 6ff 712-714 71a-71d 71f-727 729 72b 72d-72e 74e-758 75c-76a 76d-770 772 775-777 ",
   "77a-77f 7ca-7ea 841-845 848 84a-853 855 860 862-865 868 886 889-88d 8a0-8a9 8af-8b0 8b3-8b8 ",
   "8ba-8c8 1807 1820-1878 1887-18a8 18aa a840-a871 10ac0-10ac4 10ad3-10ad6 10ad8-10adc ",
   "10ade-10ae0 10aeb-10aee 10b80 10b82 10b86-10b88 10b8a-10b8b 10b8d 10b90 10bad-10bae ",
   "10d01-10d21 10d23 10ec3-10ec4 10f30-10f32 10f34-10f44 10f51-10f53 10f70-10f73 10f76-10f81 ",
   "10fb0 10fb2-10fb3 10fb8 10fbb-10fbc 10fbe-10fbf 10fc1 10fc4 10fca 1e922-1e943"]

def joinsNext : CharSet := joinsBothWays ∪ .ofText "a872 10acd 10ad7 10d00 10fcb"

def joinsPrevious : CharSet := joinsBothWays ∪ .ofLines
  ["622-625 627 629 62f-632 648 671-673 688-699 6c0 6c3-6cb 6cd 6cf 6d2-6d3 6d5 6ee-6ef 710 ",
   "715-719 71e 728 72a 72c 72f 74d 759-75b 76b-76c 771 773-774 778-779 840 846-847 849 854 ",
   "856-858 867 869-86a 870-882 88e 8aa-8ac 8ae 8b1-8b2 8b9 10ac5 10ac7 10ac9-10aca 10ace-10ad2 ",
   "10add 10ae1 10ae4 10aef 10b81 10b83-10b85 10b89 10b8c 10b8e-10b8f 10b91 10ba9-10bac 10d22 ",
   "10ec2 10f33 10f54 10f74-10f75 10fb4-10fb6 10fb9-10fba 10fbd 10fc2-10fc3 10fc9"]

/-- Letters join across these. -/
def isTransparent (c : Char) : Bool :=
  [Category.nonspacingMark, .enclosingMark].contains (Text.category c) || c.toNat == 0x1E94B

def endsWithVirama (before : List Char) : Bool :=
  before.head?.any fun c => Text.Composition.classOf c == 9

/-- A separator that stands between letters which would join otherwise; the text before it is told
backwards. -/
def separates (before after : List Char) : Bool :=
  (before.dropWhile isTransparent).head?.any joinsNext.holds &&
    (after.dropWhile isTransparent).head?.any joinsPrevious.holds

def areJoinersFit (before : List Char) : List Char → Bool
  | [] => true
  | c :: cs =>
    let fits :=
      if c = separator then endsWithVirama before || separates before cs
      else c ≠ joiner || endsWithVirama before
    fits && areJoinersFit (c :: before) cs

end Joining

section Direction

inductive Direction
  | left
  | right
  | digit
  | arabicDigit
  | mark
  | neutral
deriving DecidableEq, Inhabited

def Direction.ofCode (code : String) : Direction :=
  match code with
  | "L" => left
  | "R" => right
  | "D" => digit
  | "A" => arabicDigit
  | "M" => mark
  | _ => neutral

/-- What is in no name is counted with what stands before it. -/
def directions : Runs Direction := .ofLines Direction.ofCode
  ["N48D10N39L26N100L24NL449N2L7N14L2N28LN17M113L4N2L127N2L139M8L255N7M45RMRM2RM2RM9R54N2RN2RNRN2M",
   "11R48M21A10NA2R3MR101M8NM6R2M2NM4R2D10R23MR30M29R89M11R58M9R2N4R3MR24M4RM9RM3RM7R41M5R57M9R42M",
   "57L55MLML4M8L4ML3M15L2M2L29ML58ML4M6L6ML20M4L12N2L7NL2M5L57M2L3M27L20M2L3ML11M2L57ML4M8L4M3L18",
   "M4L11N8LM8L58ML2MLM6L6M10L11M4L28ML61ML12M3L35N13ML3ML55MLM3L5M18L10M4L18N7L2ML58ML15M9L13M4L2",
   "6M2L57M2L4M5L7ML20M4L27ML72M5L3M6L89ML2M11NL7M8L98ML2M9L11M8L72M2L27MLMLMN4L51M14LM5LM2L5M49L8",
   "ML102M4LM6LM2L2M2L25M2L4M3L16M4L13ML2M2L6ML15ML703M3L48N16L96NL666N5L114M3L29M2L30M14L18M14L55",
   "M7L8ML2M11L7NLM3L16N32L117M2L34ML118M3L4M2L9ML6M7N6L152N34L23M2L2M3L56MLM9LML2M8L6M13L48M84L48",
   "MLM5LML5ML40M9L12M2L32M4L2M2LM3L56MLM2L3MLM3L58M8L2M5L149M3LM13LM7L4ML6ML3M2L198M65L523N196M52",
   "N74L60N428L69N26LN790LN339L256N816L181N7L3M4L6N7L127ML96M32N517L3N25L9M4L2NL6N4L2N4L88M4L3NL90",
   "NL196N48L7120N64L22160N64L317N3L95M4NM10N3L29M2L80M2L14N35L101NL121ML3ML4ML25M2LN4M4L8N8L52N12",
   "L68M10L18M18L13ML38M8L25M11L46M3L48ML2M4L2M2L39ML67M6L2M2L2M11L3ML8ML47ML51MLM3L2M2L5M2LML42M2",
   "L8M11L105N86L37ML2ML4M3L20270M148R396N226M37N46R397L257NL62N77L3N64L45M131L96MD31L118M10L1152R",
   "287NR225M15R40M8R165M6R78N7R484M12A26R31M5NR241A32R43M2R79M4R70M11R49M4R122LML54M15L11N20L10ML",
   "2M2L10M3L49M4L2M2L7M14L48M3L36M5LM9L61ML12M2L52M9L10M4L2ML95M3L2MLM2L6ML2M63L95ML3M13L16M2L57M",
   "2L3ML37M26L59M7L12MLMLML14M31L56M8L2M3LML23ML84M6LML4M2LM2L238M6L4M2LM2L27M36L51M8L2MLM2L31N32",
   "L43MLML2M6LML101MLML2M4LM9L255M9LM2L256M2LML4ML144M8L4ML32M6L2M2L40M6L2M4L8M9LM6L2M3L46M13LM2L",
   "406M14L84M23LM7LM2LM75L49M21LM9L64M3L2MLML347M2L11M2L52M8L2MLML23M86L37N42L5185ML6M25L11454M12",
   "L3M3L2496M5L59M7L1048ML63M4L79NLM12L19629M2L3937N768M80L535M3L17M8L2M7L30M4L59N89M3N123L64N96L",
   "1696M55L4M50L8ML14ML22M1125L256M256L48M7L375M18L44M4L15N465L28M4L254M2L528R208M82R34M7R1445N60",
   "8L29N3L61N57L122N3488L983040"]

def direction (c : Char) : Direction := (directions.at? c.toNat).getD .left

def isLeftward (c : Char) : Bool := [.right, .arabicDigit].contains (direction c)

/-- A label runs in one direction from its first character to its last, marks aside. -/
def runsOneWay (cs : List Char) : Bool :=
  let directions := cs.map direction
  let last? := directions.reverse.find? (· ≠ .mark)
  match directions.head? with
  | none => true
  | some .left => !cs.any isLeftward && last?.any [.left, .digit].contains
  | some .right =>
    !directions.contains .left && last?.any [.right, .digit, .arabicDigit].contains &&
      !(directions.contains .digit && directions.contains .arabicDigit)
  | some _ => false

end Direction

def isValid (cs : List Char) : Bool :=
  cs.all isNameable && !cs.head?.any isMark && areJoinersFit [] cs

end HttpScenario.Url.Label
