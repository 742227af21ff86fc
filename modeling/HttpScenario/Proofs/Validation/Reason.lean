import HttpScenario.Validation.Evaluation

/-! A validation that fails has a reason: there is a diagnostic that comes last, however the failure
came about. -/

namespace HttpScenario.Validation

namespace Verdict

def Reasoned (verdict : Verdict) : Prop := verdict.passed = false → verdict.diagnostics ≠ []

theorem reasoned_pass : pass.Reasoned := fun h => nomatch h

theorem reasoned_fail (key message : String) : (fail key message).Reasoned :=
  fun _ => List.cons_ne_nil _ _

theorem reasoned_append (passed : Bool) (earlier : List Diagnostic) (final : Diagnostic) :
    Reasoned ⟨passed, earlier ++ [final]⟩ := fun _ =>
  List.append_ne_nil_of_right_ne_nil _ (List.cons_ne_nil _ _)

theorem Reasoned.after {verdict : Verdict} (h : verdict.Reasoned) (earlier : List Diagnostic) :
    (verdict.after earlier).Reasoned := fun hfailed =>
  List.append_ne_nil_of_right_ne_nil _ (h hfailed)

theorem Reasoned.reason_eq {verdict : Verdict} (h : verdict.Reasoned)
    (hfailed : verdict.passed = false) :
    ∃ final, verdict.diagnostics.getLast? = some final ∧ verdict.reason = final.text := by
  have hlast := List.getLast?_eq_some_getLast (h hfailed)
  exact ⟨_, hlast, by rw [reason, hlast]⟩

end Verdict

open Verdict

theorem reasoned_judgePredicate (predicate : Predicate) (response : Response) (key : String) :
    (judgePredicate predicate response key).value.Reasoned := by
  unfold judgePredicate
  split
  · exact reasoned_pass
  · exact reasoned_fail _ _
  · exact reasoned_append _ [] _
  · exact reasoned_fail _ _

theorem reasoned_judgeCheck (check : Check) (response : Response) (key : String) :
    (judgeCheck check response key).value.Reasoned := by
  unfold judgeCheck
  split
  · exact reasoned_pass
  · exact reasoned_fail _ _

theorem reasoned_judgeEntries (judge : Spec → String → Judgement) (entries : List (String × Spec)) :
    (judgeEntries judge entries).value.Reasoned := by
  induction entries with
  | nil => exact reasoned_pass
  | cons entry rest ih =>
    simp only [judgeEntries, Noted.value_bind]
    split
    · exact ih.after _
    · exact reasoned_append _ _ _

theorem reasoned_judgeAnd {judge : Spec → Judgement} (hjudge : ∀ spec, (judge spec).value.Reasoned)
    (specs : List Spec) : (judgeAnd judge specs).value.Reasoned := by
  induction specs with
  | nil => exact reasoned_pass
  | cons spec rest ih =>
    simp only [judgeAnd, Noted.value_bind]
    split
    · exact ih.after _
    · exact hjudge spec

theorem reasoned_judgeOr (judge : Spec → Judgement) (key : String) (failures : List Diagnostic)
    (specs : List Spec) : (judgeOr judge key failures specs).value.Reasoned := by
  induction specs generalizing failures with
  | nil => exact reasoned_append _ _ _
  | cons spec rest ih =>
    simp only [judgeOr, Noted.value_bind]
    split
    · exact reasoned_pass
    · exact ih _

theorem reasoned_evaluate (table : Table) (levels : Nat) (spec : Spec) (response : Response)
    (key : String) : (evaluate table levels spec response key).value.Reasoned := by
  -- Only conjunctions and references hand on a verdict from one level below.
  induction levels generalizing spec key with
  | zero => exact reasoned_fail _ _
  | succ levels ih =>
    cases spec with
    | predicate p => exact reasoned_judgePredicate p response key
    | check c => exact reasoned_judgeCheck c response key
    | all entries => exact reasoned_judgeEntries _ entries
    | and specs => exact reasoned_judgeAnd (fun inner => ih inner key) specs
    | or specs => exact reasoned_judgeOr _ key [] specs
    | named name =>
      simp only [evaluate]
      split
      · exact ih _ name
      · exact reasoned_fail _ _
    | not inner =>
      simp only [evaluate, Noted.value_bind]
      split
      · exact reasoned_fail _ _
      · exact reasoned_pass

theorem reasoned_validate (table : Table) (spec : Spec) (response : Response) :
    (validate table spec response).value.Reasoned :=
  reasoned_evaluate table levelLimit spec response "validate"

end HttpScenario.Validation
