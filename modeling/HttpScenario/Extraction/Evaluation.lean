import HttpScenario.Diagnostic
import HttpScenario.Extraction.Rule
import HttpScenario.Noted

/-! Evaluation of extraction rules. Every entry stands for itself: one that fails is noted as a
problem and left out, and the others are still evaluated. -/

namespace HttpScenario.Extraction

abbrev Table := Fields Extractor

inductive Failure
  | raised (message : String)
  | transform (cause : Transform.Error)
  | unsupported (value : Json)

def Failure.message : Failure → String
  | raised message => message
  | transform cause => cause.message
  | unsupported value => s!"unsupported extraction rule: {value.compact}"

inductive Problem
  | condition (key : String) (cause : Condition.Error)
  | entry (key : String) (cause : Failure)

namespace Problem

def diagnostic : Problem → Diagnostic
  | condition key cause => ⟨key, s!"condition failed: {cause.message}"⟩
  | entry key cause => ⟨key, cause.message⟩

def logLine : Problem → LogLine
  | condition key cause => .warning s!"condition in '{key}' failed: {cause.message}"
  | entry key cause => .warning s!"extraction '{key}' failed: {cause.message}"

end Problem

/-- Evaluates a condition within an entry; one that fails is noted and counts as false. -/
def check (key : String) (condition : Condition) (response : Response) : Noted Problem Bool :=
  match condition.evaluate response with
  | .ok result => pure result
  | .error cause => ⟨false, [.condition key cause]⟩

abbrev Outcome := Except Failure (Option Json)

def keep (key : String) (filter : Filter) (value : Json) (response : Response) :
    Noted Problem Bool :=
  match filter with
  | .custom keeps => pure (keeps value response)
  | .condition c => check key c (response.withData value)

def PathRule.transformed (rule : PathRule) (response : Response) : Except Failure (Option Json) :=
  match Path.resolve? rule.path response, rule.transform with
  | some value, some transform =>
    if value.isNull then .ok (some value)
    else ((transform.apply value response).mapError .transform).map some
  | found, _ => .ok found

def PathRule.filtered (rule : PathRule) (response : Response) (key : String)
    (found : Option Json) : Noted Problem (Option Json) :=
  match rule.filter, found with
  | some filter, some value => do
    let kept ← keep key filter value response
    return some (if kept then value else .null)
  | _, _ => pure found

def orDefault (default found : Option Json) : Option Json :=
  match found with
  | none | some .null => default.or found
  | _ => found

def PathRule.evaluate (rule : PathRule) (response : Response) (key : String) :
    Noted Problem Outcome :=
  match rule.transformed response with
  | .error failure => pure (.error failure)
  | .ok found => do
    let found ← rule.filtered response key found
    return .ok (orDefault rule.default found)

def PatternRule.evaluate (rule : PatternRule) (response : Response) : Option Json :=
  let source := match rule.source with
    | some path => (Path.resolve? path response).map Json.plainText
    | none => some response.toJson.compact
  let captured := source.bind fun text => rule.pattern.capture? rule.group text
  (captured.map .string).or rule.default

/-- The elements that pass the filter, each looked at as the data of the response. -/
def select (filter : Option Condition) (response : Response) (key : String) :
    List Json → Noted Problem (List Json)
  | [] => pure []
  | item :: rest => do
    let kept ← match filter with
      | some c => check key c (response.withData item)
      | none => pure true
    let others ← select filter response key rest
    return if kept then item :: others else others

def findFirst (condition : Condition) (response : Response) (key : String) :
    List Json → Noted Problem (Option Json)
  | [] => pure none
  | item :: rest => do
    let found ← check key condition (response.withData item)
    if found then return some item else findFirst condition response key rest

def mapElements (evaluate : Response → Noted Problem Outcome) (response : Response) :
    List Json → Noted Problem (Except Failure (List Json))
  | [] => pure (.ok [])
  | item :: rest => do
    match ← evaluate (response.withData item) with
    | .error failure => return .error failure
    | .ok value =>
      let others ← mapElements evaluate response rest
      return others.map (value.getD .null :: ·)

mutual

def evaluate (table : Table) (rule : Rule) (response : Response) (key : String) :
    Noted Problem Outcome :=
  match rule with
  | .path path =>
    match table.get? path with
    | some extractor => pure ((extractor.call response).mapError .raised)
    | none => pure (.ok (Path.resolve? path response))
  | .custom extractor | .computed extractor => pure ((extractor.call response).mapError .raised)
  | .unsupported value => pure (.error (.unsupported value))
  | .located rule => rule.evaluate response key
  | .pattern rule => pure (.ok (rule.evaluate response))
  | .multiple entries => do
    let values ← evaluateEntries table entries response (fun name => s!"{key}.{name}") []
    return .ok (some (.object values))
  | .conditional branches default => evaluateBranches table branches default response key
  | .array selection projection =>
    match Path.resolve? selection.path response with
    | some (.array items) => do
      let selected ← select selection.filter response key items
      project table projection selection.default selected response key
    | _ => pure (.ok (some (selection.default.getD (.array []))))

def evaluateEntries (table : Table) (entries : List (String × Rule)) (response : Response)
    (keyOf : String → String) (values : Fields Json) : Noted Problem (Fields Json) :=
  match entries with
  | [] => pure values
  | (name, rule) :: rest => do
    match ← evaluate table rule response (keyOf name) with
    | .ok (some value) => evaluateEntries table rest response keyOf (values.insert name value)
    | .ok none => evaluateEntries table rest response keyOf values
    | .error failure =>
      Noted.note (.entry (keyOf name) failure)
      evaluateEntries table rest response keyOf values

def evaluateBranches (table : Table) (branches : List (Condition × Rule)) (default : Option Json)
    (response : Response) (key : String) : Noted Problem Outcome :=
  match branches with
  | [] => pure (.ok default)
  | (condition, rule) :: rest => do
    let taken ← check key condition response
    if taken then evaluate table rule response key
    else evaluateBranches table rest default response key

def project (table : Table) (projection : Projection Rule) (default : Option Json)
    (selected : List Json) (response : Response) (key : String) : Noted Problem Outcome :=
  match projection with
  | .elements => pure (.ok (some (.array selected)))
  | .first condition => do
    let found ← findFirst condition response key selected
    return .ok (found.or default)
  | .pluck path =>
    let values := selected.map fun item => (Path.resolveIn? path item).getD .null
    pure (.ok (some (.array values)))
  | .mapped rule => do
    let values ← mapElements (fun element => evaluate table rule element key) response selected
    return values.map fun values => some (.array values)

end

abbrev Spec := List (String × Rule)

def extract (table : Table) (spec : Spec) (response : Response) : Noted Problem (Fields Json) :=
  evaluateEntries table spec response id []

end HttpScenario.Extraction
