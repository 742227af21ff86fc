import HttpScenario.Extraction.Rule

/-! Reading extraction rules from data. Of the keywords in an object the first one in a fixed order
decides; a keyword with a malformed argument is refused, and an object without any is kept as an
unsupported rule. -/

namespace HttpScenario.Extraction

inductive FormError
  | notMapping (value : Json)
  | entry (name : String) (cause : FormError)
  | branchesNotList
  | branchWithoutIf
  | branchWithoutThen
  | condition (cause : Condition.FormError)
  | arrayNotMapping
  | arrayPath (value : Json)
  | pluckNotText
  | patternMissing
  | patternForm (value : Json)
  | pattern (cause : Pattern.Error)
  | groupIndex
  | group (value : Json)
  | sourceNotText
  | pathNotText
  | transform (value : Json)
  | computedNotText

def FormError.message : FormError → String
  | notMapping value => s!"extract must be a mapping, got {value.compact}"
  | entry name cause => s!"extract '{name}': {cause.message}"
  | branchesNotList => "'conditional' must be a list"
  | branchWithoutIf => "conditional branch needs 'if'"
  | branchWithoutThen => "conditional branch needs 'then'"
  | condition cause => cause.message
  | arrayNotMapping => "'array' must be a mapping"
  | arrayPath value => s!"array 'path' must be a string, got {value.compact}"
  | pluckNotText => "'pluck' must be a path string"
  | patternMissing => "regex needs a 'pattern'"
  | patternForm value => s!"'regex' must be a pattern, got {value.compact}"
  | pattern cause => s!"invalid regex: {cause.message}"
  | groupIndex => "regex 'group' must be a non-negative index"
  | group value => s!"invalid regex group: {value.compact}"
  | sourceNotText => "regex 'source' must be a path"
  | pathNotText => "'path' must be a string"
  | transform value => s!"'transform' must be a name, got {value.compact}"
  | computedNotText => "'computed' must name a registered extractor"

def conditionOf (value : Json) : Except FormError Condition :=
  (Condition.ofJson value).mapError .condition

def conditionAt (value : Json) (name : String) : Except FormError (Option Condition) :=
  match value.field? name with
  | none => .ok none
  | some condition => (conditionOf condition).map some

def groupOf (options : Json) : Except FormError Pattern.Group :=
  match options.field? "group" with
  | none => .ok (.index 0)
  | some (.number n) =>
    match n.toNat64? with
    | some i => .ok (.index i)
    | none => .error .groupIndex
  | some (.string name) => .ok (.name name)
  | some value => .error (.group value)

def sourceOf (options : Json) : Except FormError (Option String) :=
  match options.field? "source" with
  | none => .ok none
  | some (.string path) => .ok (some path)
  | some _ => .error .sourceNotText

/-- The text of a pattern and the object with its options, which is the outer one unless the pattern
has an object of its own. -/
def patternParts (argument outer : Json) : Except FormError (String × Json) :=
  match argument with
  | .string source => .ok (source, outer)
  | .object _ =>
    match argument.field? "pattern" with
    | some (.string source) => .ok (source, argument)
    | _ => .error .patternMissing
  | other => .error (.patternForm other)

def patternRule (argument outer : Json) : Except FormError PatternRule := do
  let (source, options) ← patternParts argument outer
  let pattern ← (Pattern.ofText source).mapError .pattern
  let group ← groupOf options
  let path ← sourceOf options
  return ⟨pattern, group, path, (outer.field? "default").or (options.field? "default")⟩

def pathRule (argument value : Json) : Except FormError PathRule := do
  let path ← match argument with
    | .string path => .ok path
    | _ => .error .pathNotText
  let transform ← match value.field? "transform" with
    | none => .ok none
    | some (.string name) => .ok (some (Transform.named name))
    | some other => .error (.transform other)
  let filter ← conditionAt value "filter"
  return ⟨path, transform, filter.map .condition, value.field? "default"⟩

def selectionOf (argument outer : Json) : Except FormError Selection := do
  let path ← match argument.field? "path" with
    | none => .ok "data"
    | some (.string path) => .ok path
    | some other => .error (.arrayPath other)
  let filter ← conditionAt argument "filter"
  return ⟨path, filter, (outer.field? "default").or (argument.field? "default")⟩

mutual

def ruleOf (value : Json) : Except FormError Rule :=
  match _hv : value with
  | .string path => .ok (.path path)
  | .object fields =>
    match _h : value.field? "multiple" with
    | some entries => (specOf entries).map .multiple
    | none =>
    match _h : value.field? "conditional" with
    | some (.array branches) =>
      (branchesOf branches).map fun found => .conditional found (value.field? "default")
    | some _ => .error .branchesNotList
    | none =>
    match _h : value.field? "array" with
    | some (.object inner) => do
      let selection ← selectionOf (.object inner) value
      let projection ← projectionOf (.object inner)
      return .array selection projection
    | some _ => .error .arrayNotMapping
    | none =>
    match value.field? "regex" with
    | some argument => (patternRule argument value).map .pattern
    | none =>
    match value.field? "path" with
    | some argument => (pathRule argument value).map .located
    | none =>
    match value.field? "computed" with
    | some (.string name) => .ok (.path name)
    | some _ => .error .computedNotText
    | none => .ok (.unsupported (.object fields))
  | other => .ok (.unsupported other)
termination_by sizeOf value
decreasing_by
  all_goals
    have := Json.sizeOf_lt_of_field? _h
    simp [_hv] at this ⊢
    omega

def specOf (value : Json) : Except FormError (List (String × Rule)) :=
  match value with
  | .object fields => entriesOf fields
  | other => .error (.notMapping other)
termination_by sizeOf value

def entriesOf (fields : List (String × Json)) : Except FormError (List (String × Rule)) :=
  match fields with
  | [] => .ok []
  | (name, value) :: rest => do
    let rule ← (ruleOf value).mapError (.entry name)
    let others ← entriesOf rest
    return (name, rule) :: others
termination_by sizeOf fields

def branchesOf (branches : List Json) : Except FormError (List (Condition × Rule)) :=
  match branches with
  | [] => .ok []
  | branch :: rest =>
    match branch.field? "if" with
    | none => .error .branchWithoutIf
    | some test =>
      match _h : branch.field? "then" with
      | none => .error .branchWithoutThen
      | some value => do
        let condition ← conditionOf test
        let rule ← ruleOf value
        let others ← branchesOf rest
        return (condition, rule) :: others
termination_by sizeOf branches
decreasing_by
  · have := Json.sizeOf_lt_of_field? _h
    simp only [List.cons.sizeOf_spec]
    omega
  · simp only [List.cons.sizeOf_spec]
    omega

def projectionOf (argument : Json) : Except FormError (Projection Rule) :=
  match _h : argument.field? "map" with
  | some value => (ruleOf value).map .mapped
  | none =>
  match argument.field? "find" with
  | some value => (conditionOf value).map .first
  | none =>
  match argument.field? "pluck" with
  | some (.string path) => .ok (.pluck path)
  | some _ => .error .pluckNotText
  | none => .ok .elements
termination_by sizeOf argument
decreasing_by
  exact Json.sizeOf_lt_of_field? _h

end

end HttpScenario.Extraction
