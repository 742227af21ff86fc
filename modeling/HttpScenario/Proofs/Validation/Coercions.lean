import HttpScenario.Proofs.Validation.Meaning
import HttpScenario.Proofs.Validation.Reason
import HttpScenario.Proofs.Validation.Verdicts

/-! What the diagnostics of a validation tell. If it fails, they end with the reason. If it passes, they
tell of predicates that returned something else than a truth value, which was taken for true, and of
these only where the predicate has to hold: under names, objects and conjunctions. -/

namespace HttpScenario.Validation

def coercionNote (key : String) (value : Json) : Diagnostic :=
  ⟨key, s!"non-boolean result {value.compact} coerced to true"⟩

theorem coercionNote_eq (key : String) (value : Json) :
    coercionNote key value = ⟨key, s!"non-boolean result {value.compact} coerced to {true}"⟩ := by
  simp only [coercionNote, String.append_assoc]
  rfl

/-- The notes on predicates at places where a specification asks for them to hold, whatever the limit
on nesting. What stands in a disjunction or a negation is at no such place. -/
inductive Coerced (table : Table) (response : Response) : Spec → String → Diagnostic → Prop
  | predicate {p key value} (hcall : p.call response = .ok value) (hother : ∀ b, value ≠ .bool b)
      (htrue : value.isTruthy = true) :
      Coerced table response (.predicate p) key (coercionNote key value)
  | definition {name inner key d} (h : table.get? name = some inner)
      (hinner : Coerced table response inner name d) : Coerced table response (.named name) key d
  | entry {entries name inner key d} (h : (name, inner) ∈ entries)
      (hinner : Coerced table response inner name d) : Coerced table response (.all entries) key d
  | conjunct {specs inner key d} (h : inner ∈ specs)
      (hinner : Coerced table response inner key d) : Coerced table response (.and specs) key d

variable {table : Table} {response : Response} {spec inner : Spec} {key name : String}
  {d : Diagnostic} {n : Nat}

theorem coerced_named_iff (h : table.get? name = some inner) :
    Coerced table response (.named name) key d ↔ Coerced table response inner name d := by
  constructor
  · intro hcoerced
    cases hcoerced with
    | definition h' hinner =>
      cases h.symm.trans h'
      exact hinner
  · exact .definition h

theorem coerced_all_iff {entries : List (String × Spec)} :
    Coerced table response (.all entries) key d ↔
      ∃ entry ∈ entries, Coerced table response entry.2 entry.1 d := by
  constructor
  · rintro (_ | _ | ⟨hmem, hinner⟩)
    exact ⟨_, hmem, hinner⟩
  · rintro ⟨entry, hmem, hinner⟩
    exact .entry hmem hinner

theorem coerced_and_iff {specs : List Spec} :
    Coerced table response (.and specs) key d ↔
      ∃ inner ∈ specs, Coerced table response inner key d := by
  constructor
  · rintro (_ | _ | _ | ⟨hmem, hinner⟩)
    exact ⟨_, hmem, hinner⟩
  · rintro ⟨inner, hmem, hinner⟩
    exact .conjunct hmem hinner

theorem not_coerced_check {c : Check} : ¬Coerced table response (.check c) key d := by
  intro h
  cases h

theorem not_coerced_or {specs : List Spec} : ¬Coerced table response (.or specs) key d := by
  intro h
  cases h

theorem not_coerced_not : ¬Coerced table response (.not spec) key d := by
  intro h
  cases h

theorem mem_judgePredicate_iff {p : Predicate}
    (hpassed : (judgePredicate p response key).value.passed = true) :
    d ∈ (judgePredicate p response key).value.diagnostics ↔
      Coerced table response (.predicate p) key d := by
  have hnote : Coerced table response (.predicate p) key d ↔ ∃ value, p.call response = .ok value ∧
      (∀ b, value ≠ .bool b) ∧ value.isTruthy = true ∧ d = coercionNote key value := by
    constructor
    · rintro ⟨hcall, hother, htrue⟩
      exact ⟨_, hcall, hother, htrue, rfl⟩
    · rintro ⟨value, hcall, hother, htrue, rfl⟩
      exact .predicate hcall hother htrue
  rw [hnote]
  unfold judgePredicate at hpassed ⊢
  split at hpassed
  · next hcall => simp [hcall, Verdict.pass]
  · cases hpassed
  · next value htrue hfalse hcall =>
    have htruthy : value.isTruthy = true := hpassed
    have hother : ∀ b, value ≠ .bool b := by
      rintro (_ | _) rfl
      · exact hfalse rfl
      · exact htrue rfl
    simp [hcall, htruthy, hother, coercionNote_eq]
  · cases hpassed

theorem diagnostics_judgeCheck {check : Check}
    (hpassed : (judgeCheck check response key).value.passed = true) :
    (judgeCheck check response key).value.diagnostics = [] := by
  unfold judgeCheck at hpassed ⊢
  split at hpassed
  · rfl
  · cases hpassed

theorem mem_diagnostics_iff (hpassed : (evaluate table n spec response key).value.passed = true) :
    d ∈ (evaluate table n spec response key).value.diagnostics ↔
      Coerced table response spec key d := by
  induction n generalizing spec key with
  | zero => cases hpassed
  | succ n ih =>
    cases spec with
    | predicate p => exact mem_judgePredicate_iff hpassed
    | check c =>
      rw [evaluate, diagnostics_judgeCheck hpassed]
      exact iff_of_false List.not_mem_nil not_coerced_check
    | named name =>
      cases hname : table.get? name with
      | none =>
        rw [passed_evaluate_unknown n response key hname] at hpassed
        cases hpassed
      | some inner =>
        rw [evaluate_known n response key hname] at hpassed ⊢
        rw [ih hpassed, coerced_named_iff hname]
    | all entries =>
      rw [passed_evaluate_all, List.all_eq_true] at hpassed
      rw [evaluate, value_judgeEntries_of_passed hpassed, List.mem_flatMap, coerced_all_iff]
      exact exists_congr fun entry => and_congr_right fun hentry => ih (hpassed entry hentry)
    | and specs =>
      rw [passed_evaluate_and, List.all_eq_true] at hpassed
      rw [evaluate, value_judgeAnd_of_passed hpassed, List.mem_flatMap, coerced_and_iff]
      exact exists_congr fun inner => and_congr_right fun hinner => ih (hpassed inner hinner)
    | or specs =>
      rw [evaluate, value_judgeOr_of_passed hpassed]
      exact iff_of_false List.not_mem_nil not_coerced_or
    | not inner =>
      rw [passed_evaluate_not, Bool.not_eq_true'] at hpassed
      rw [evaluate, Noted.value_bind, hpassed]
      exact iff_of_false List.not_mem_nil not_coerced_not

theorem text_ne_fallback (d : Diagnostic) : d.text ≠ "validator returned false" := by
  have hcolon : ':' ∈ d.text.toList := by simp [Diagnostic.text, toString]
  intro h
  rw [h] at hcolon
  exact absurd hcolon (by decide)

/-- A validation that fails gives its latest diagnostic for the reason, and never fails without one.
The diagnostics of a validation that passes are the notes on predicates that have to hold and returned
something else than a truth value. -/
theorem diagnostics_of_validate (table : Table) (spec : Spec) (response : Response) :
    ((validate table spec response).value.passed = false →
      ∃ final, (validate table spec response).value.diagnostics.getLast? = some final ∧
        (validate table spec response).value.reason = final.text ∧
        (validate table spec response).value.reason ≠ "validator returned false") ∧
    ((validate table spec response).value.passed = true →
      ∀ d, d ∈ (validate table spec response).value.diagnostics ↔
        Coerced table response spec "validate" d) := by
  refine ⟨fun hfailed => ?_, fun hpassed d => mem_diagnostics_iff hpassed⟩
  have hreasoned := reasoned_validate table spec response
  obtain ⟨final, hlast, hreason⟩ := hreasoned.reason_eq hfailed
  exact ⟨final, hlast, hreason, hreason ▸ text_ne_fallback final⟩

end HttpScenario.Validation
