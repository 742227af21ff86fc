import HttpScenario.Scenario

/-! Outlines: what a scenario consists of, as JSON values to look at. Functions cannot be shown, and
rules of extraction are shown by their kind. -/

namespace HttpScenario

namespace Template

variable {m : Type → Type}

mutual

def outline : Template m → Json
  | literal value => .object [("literal", value)]
  | text s => .object [("text", .string s)]
  | array items => .object [("array", .array (outlineItems items))]
  | object fields => .object [("object", .array (outlineFields fields))]
  | generator (.named name) params =>
    .object [("generator", .string name), ("params", .array params)]
  | generator (.function _) params => .object [("generator", .null), ("params", .array params)]

def outlineItems : List (Template m) → List Json
  | [] => []
  | item :: rest => item.outline :: outlineItems rest

def outlineFields : List (String × Template m) → List Json
  | [] => []
  | (name, item) :: rest => .array [.string name, item.outline] :: outlineFields rest

end

end Template

namespace Validation

def Check.outline : Check → Json
  | status code => .object [("status", .nat code)]
  | statusIn codes => .object [("statusIn", .array (codes.map .nat))]
  | statusRange low high => .object [("statusRange", .array [.nat low, .nat high])]
  | contentType expected => .object [("contentType", .string expected)]
  | hasField path => .object [("hasField", .string path)]
  | fieldEquals path expected => .object [("fieldEquals", .array [.string path, expected])]
  | fieldMatches path pattern =>
    .object [("fieldMatches", .array [.string path, .string pattern.source])]
  | arrayLength path expected => .object [("arrayLength", .array [.string path, .nat expected])]
  | arrayNotEmpty path => .object [("arrayNotEmpty", .string path)]
  | hasHeader name => .object [("hasHeader", .string name)]
  | headerEquals name expected =>
    .object [("headerEquals", .array [.string name, .string expected])]
  | schema _ => .string "schema"

namespace Spec

mutual

def outline : Spec → Json
  | predicate _ => .string "predicate"
  | named name => .object [("named", .string name)]
  | all entries => .object [("all", .array (outlineEntries entries))]
  | check c => c.outline
  | and specs => .object [("and", .array (outlineList specs))]
  | or specs => .object [("or", .array (outlineList specs))]
  | not spec => .object [("not", spec.outline)]

def outlineList : List Spec → List Json
  | [] => []
  | spec :: rest => spec.outline :: outlineList rest

def outlineEntries : List (String × Spec) → List Json
  | [] => []
  | (name, spec) :: rest => .array [.string name, spec.outline] :: outlineEntries rest

end

end Spec

end Validation

namespace Extraction

def Rule.outline : Rule → Json
  | .path place => .object [("path", .string place)]
  | .unsupported value => .object [("unsupported", value)]
  | .located _ => .string "pathRule"
  | .multiple _ => .string "multiple"
  | .conditional _ _ => .string "conditional"
  | .array _ _ => .string "array"
  | .pattern _ => .string "regex"
  | .custom _ => .string "custom"
  | .computed _ => .string "computed"

def Spec.outline (spec : Spec) : Json :=
  .array (spec.map fun (name, rule) => .array [.string name, rule.outline])

end Extraction

variable {m : Type → Type}

def Step.outline (step : Step m) : Json :=
  .object
    [("name", .string step.name), ("kind", .string step.kind), ("isHttp", .bool step.isHttp),
     ("method", step.method.elim .null fun method => .string method.name),
     ("url", step.url.elim .null .string), ("body", step.body.elim .null Template.outline),
     ("headers", Response.headersJson step.headers),
     ("validate", step.validate.elim .null Validation.Spec.outline),
     ("extract", step.extract.elim .null Extraction.Spec.outline)]

def Scenario.outline (scenario : Scenario m) : Json :=
  .object
    [("name", .string scenario.name),
     ("description", scenario.description.elim .null .string),
     ("tags", .array (scenario.tags.map .string)), ("vars", .object scenario.vars),
     ("config", scenario.config.toJson), ("steps", .array (scenario.steps.map Step.outline))]

end HttpScenario
