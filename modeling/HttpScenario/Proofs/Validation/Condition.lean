import HttpScenario.Proofs.Schema.Checking
import HttpScenario.Validation.Evaluation

/-! The condition on a response that each check stands for. A check passes exactly if its condition
holds. -/

namespace HttpScenario

namespace Validation

namespace Check

def Holds : Check → Response → Prop
  | status code, response => response.status = code
  | statusIn codes, response => response.status ∈ codes
  | statusRange low high, response => low ≤ response.status ∧ response.status ≤ high
  | contentType expected, response =>
    (Text.asciiLower expected).toList <:+:
      (Text.asciiLower ((response.header? "content-type").getD "")).toList
  | hasField path, response => ∃ value, Path.resolve? path response = some value
  | fieldEquals path expected, response =>
    ∃ value, Path.resolve? path response = some value ∧ value.looselyEqual expected = true
  | fieldMatches path pattern, response =>
    ∃ value, Path.resolve? path response = some value ∧ pattern.isMatch value.plainText = true
  | arrayLength path expected, response =>
    ∃ items, Path.resolve? path response = some (.array items) ∧ items.length = expected
  | arrayNotEmpty path, response =>
    ∃ items, Path.resolve? path response = some (.array items) ∧ items ≠ []
  | hasHeader name, response => ∃ value, response.header? name = some value
  | headerEquals name expected, response => response.header? name = some expected
  | schema demands, response => demands.Valid response.data

@[simp]
theorem ensure_eq_ok_iff {met : Bool} {failure : Failure} :
    ensure met failure = .ok () ↔ met = true := by
  cases met <;> simp [ensure]

theorem error_ne_ok {ε : Type} {e : ε} : (Except.error e : Except ε Unit) ≠ .ok () := by
  intro h
  cases h

theorem mapError_eq_ok_iff {ε δ : Type} {f : ε → δ} {x : Except ε Unit} :
    x.mapError f = .ok () ↔ x = .ok () := by
  cases x with
  | ok value => exact iff_of_true rfl rfl
  | error e => exact iff_of_false error_ne_ok error_ne_ok

theorem not_exists_array {found : Option Json} {holds : List Json → Prop}
    (h : ∀ items, found = some (.array items) → False) :
    ¬∃ items, found = some (.array items) ∧ holds items := by
  rintro ⟨items, hitems, -⟩
  exact h items hitems

theorem run_eq_ok_iff (check : Check) (response : Response) :
    check.run response = .ok () ↔ check.Holds response := by
  cases check with
  | status code => simp [run, Holds]
  | statusIn codes => simp [run, Holds]
  | statusRange low high => simp [run, Holds]
  | contentType expected => simp [run, Holds, Text.holds, Text.holdsList_iff]
  | hasField path => simp [run, Holds, Option.isSome_iff_exists]
  | fieldEquals path expected =>
    cases h : Path.resolve? path response <;> simp [run, Holds, h]
  | fieldMatches path pattern =>
    cases h : Path.resolve? path response <;> simp [run, Holds, h]
  | arrayLength path expected =>
    simp only [run, Holds]
    split
    · rename_i items h
      simp [h]
    · rename_i hnone
      exact iff_of_false error_ne_ok (not_exists_array hnone)
  | arrayNotEmpty path =>
    simp only [run, Holds]
    split
    · rename_i items h
      simp [h]
    · rename_i hnone
      exact iff_of_false error_ne_ok (not_exists_array hnone)
  | hasHeader name => simp [run, Holds, Option.isSome_iff_exists]
  | headerEquals name expected =>
    cases h : response.header? name <;> simp [run, Holds, h]
  | schema demands => rw [run, mapError_eq_ok_iff, Schema.checkNode_eq_ok_iff, Holds]

end Check

theorem passed_judgeCheck {check : Check} {response : Response} {key : String} :
    (judgeCheck check response key).value.passed = true ↔ check.Holds response := by
  rw [← Check.run_eq_ok_iff, judgeCheck]
  cases check.run response <;> simp [Verdict.pass, Verdict.fail]

end Validation

end HttpScenario
