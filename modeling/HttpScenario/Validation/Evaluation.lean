import HttpScenario.Diagnostic
import HttpScenario.Noted
import HttpScenario.Validation.Check

/-! Validation of responses. A specification combines checks, predicates and references to
registered specifications. What goes wrong inside is reported as diagnostics and counts as failed;
references may go round in circles, so nesting is limited. -/

namespace HttpScenario.Validation

/-- A function of the response. Results other than truth values count as true or false, and an
error counts as false. -/
inductive Predicate
  | immediate (f : Response → Except String Json)
  | deferred (f : Response → Except String Json)

namespace Predicate

def call (predicate : Predicate) (response : Response) : Except String Json :=
  match predicate with
  | immediate f => f response
  | deferred f => f response

def describe : Predicate → String
  | immediate _ => "Predicate::Sync(<fn>)"
  | deferred _ => "Predicate::Async(<fn>)"

end Predicate

inductive Spec
  | predicate (p : Predicate)
  | named (name : String)
  | all (entries : List (String × Spec))
  | check (c : Check)
  | and (specs : List Spec)
  | or (specs : List Spec)
  | not (spec : Spec)

abbrev Table := Fields Spec

structure Verdict where
  passed : Bool
  diagnostics : List Diagnostic

namespace Verdict

def reason (verdict : Verdict) : String :=
  match verdict.diagnostics.getLast? with
  | some d => d.text
  | none => "validator returned false"

def after (earlier : List Diagnostic) (verdict : Verdict) : Verdict :=
  { verdict with diagnostics := earlier ++ verdict.diagnostics }

def fail (key message : String) : Verdict := ⟨false, [⟨key, message⟩]⟩

def pass : Verdict := ⟨true, []⟩

end Verdict

abbrev Judgement := Noted LogLine Verdict

def warn (message : String) : Noted LogLine Unit := Noted.note (.warning message)

def judgePredicate (predicate : Predicate) (response : Response) (key : String) : Judgement :=
  match predicate.call response with
  | .ok (.bool true) => pure .pass
  | .ok (.bool false) => pure (.fail key "predicate returned false")
  | .ok other => do
    let result := other.isTruthy
    warn s!"validator '{key}' returned non-boolean {other.compact}, treating as {result}"
    return ⟨result, [⟨key, s!"non-boolean result {other.compact} coerced to {result}"⟩]⟩
  | .error message => do
    warn s!"validator '{key}' raised an error: {message}"
    return .fail key s!"error: {message}"

def judgeCheck (check : Check) (response : Response) (key : String) : Judgement :=
  match check.run response with
  | .ok () => pure .pass
  | .error failure => pure (.fail key failure.message)

def entryFailure (name : String) (within : List Diagnostic) : Diagnostic :=
  let message := match within.getLast? with
    | some cause =>
      if cause.key = name then s!"validation '{name}' failed: {cause.message}"
      else s!"validation '{name}' failed: {cause.text}"
    | none => s!"validation '{name}' failed"
  ⟨name, message⟩

def judgeEntries (judge : Spec → String → Judgement) : List (String × Spec) → Judgement
  | [] => pure .pass
  | (name, spec) :: rest => do
    let verdict ← judge spec name
    if verdict.passed then
      return (← judgeEntries judge rest).after verdict.diagnostics
    else
      let summary := entryFailure name verdict.diagnostics
      return ⟨false, verdict.diagnostics ++ [summary]⟩

def judgeAnd (judge : Spec → Judgement) : List Spec → Judgement
  | [] => pure .pass
  | spec :: rest => do
    let verdict ← judge spec
    if verdict.passed then
      return (← judgeAnd judge rest).after verdict.diagnostics
    else return verdict

/-- Judges specifications in order, up to the first that passes. Only if none does are their
diagnostics kept. -/
def judgeOr (judge : Spec → Judgement) (key : String) (failures : List Diagnostic) :
    List Spec → Judgement
  | [] => pure ⟨false, failures ++ [⟨key, "no alternative passed"⟩]⟩
  | spec :: rest => do
    let verdict ← judge spec
    if verdict.passed then return .pass
    else judgeOr judge key (failures ++ verdict.diagnostics) rest

def evaluate (table : Table) (levels : Nat) (spec : Spec) (response : Response) (key : String) :
    Judgement :=
  match levels with
  | 0 => pure (.fail key "validator nesting too deep")
  | levels + 1 =>
    match spec with
    | .predicate p => judgePredicate p response key
    | .check c => judgeCheck c response key
    | .named name =>
      match table.get? name with
      | some inner => evaluate table levels inner response name
      | none => do
        warn s!"unknown validator '{name}'"
        return .fail name "unknown validator"
    | .all entries =>
      judgeEntries (fun inner name => evaluate table levels inner response name) entries
    | .and specs => judgeAnd (fun inner => evaluate table levels inner response key) specs
    | .or specs => judgeOr (fun inner => evaluate table levels inner response key) key [] specs
    | .not inner => do
      let verdict ← evaluate table levels inner response key
      if verdict.passed then return .fail key "negated validation passed" else return .pass

/-- The levels of nesting that are looked at; below them everything fails. -/
def levelLimit : Nat := 33

def validate (table : Table) (spec : Spec) (response : Response) : Judgement :=
  evaluate table levelLimit spec response "validate"

end HttpScenario.Validation
