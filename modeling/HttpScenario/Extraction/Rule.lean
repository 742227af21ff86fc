import HttpScenario.Extraction.Transform

/-! Rules by which variables are taken from responses. -/

namespace HttpScenario

inductive Extractor
  | immediate (f : Response → Except String Json)
  | deferred (f : Response → Except String Json)
  | lookup (f : Response → Option Json)

namespace Extractor

def call (extractor : Extractor) (response : Response) : Except String (Option Json) :=
  match extractor with
  | immediate f => (f response).map some
  | deferred f => (f response).map some
  | lookup f => .ok (f response)

def describe : Extractor → String
  | immediate _ => "CustomExtractor::Sync(<fn>)"
  | deferred _ => "CustomExtractor::Async(<fn>)"
  | lookup _ => "CustomExtractor::Lookup(<fn>)"

end Extractor

namespace Extraction

inductive Filter
  | condition (c : Condition)
  | custom (keeps : Json → Response → Bool)

def Filter.describe : Filter → String
  | condition c => s!"When({c.describe})"
  | custom _ => "Custom(<fn>)"

structure PathRule where
  path : String
  transform : Option Transform
  filter : Option Filter
  /-- Stands in for a value that is missing or null. -/
  default : Option Json

structure PatternRule where
  pattern : Pattern
  group : Pattern.Group
  source : Option String
  default : Option Json

structure Selection where
  path : String
  filter : Option Condition
  default : Option Json

inductive Projection (ρ : Type)
  | elements
  | mapped (rule : ρ)
  | first (condition : Condition)
  | pluck (path : String)

inductive Rule
  /-- The name of an extractor, or else a path. -/
  | path (path : String)
  | custom (extractor : Extractor)
  | located (rule : PathRule)
  | multiple (entries : List (String × Rule))
  | conditional (branches : List (Condition × Rule)) (default : Option Json)
  | array (selection : Selection) (projection : Projection Rule)
  | pattern (rule : PatternRule)
  | computed (extractor : Extractor)
  /-- A form that is no rule; it fails when it is evaluated. -/
  | unsupported (value : Json)

end Extraction

end HttpScenario
