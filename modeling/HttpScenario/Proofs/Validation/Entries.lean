import HttpScenario.Proofs.Validation.Errors
import HttpScenario.Proofs.Validation.Reason
import HttpScenario.Proofs.Validation.Verdicts

/-! Objects of specifications. Their entries are judged in order, and the first that fails decides: its
name comes last, with the reason why it failed, and what stands behind it has no say. -/

namespace HttpScenario.Validation

/-- What an object tells of the cause why its entry of a name failed: the message alone if that has
the same name for its key. -/
def causeText (name : String) (cause : Diagnostic) : String :=
  if cause.key = name then cause.message else cause.text

theorem entryFailure_of_cause {name : String} {within : List Diagnostic} {cause : Diagnostic}
    (h : within.getLast? = some cause) :
    entryFailure name within = ⟨name, s!"validation '{name}' failed: {causeText name cause}"⟩ := by
  simp only [entryFailure, h, causeText]
  split
  · rfl
  · rfl

def entryVerdict (table : Table) (response : Response) (entry : String × Spec) : Verdict :=
  (evaluate table (levelLimit - 1) entry.2 response entry.1).value

/-- An object passes exactly if all of its entries do. If not, the first that fails is named last, with
the latest diagnostic of its own for the cause, after the diagnostics of the entries up to it; and the
entries behind it could as well be missing. -/
theorem failing_entry_of_validate (table : Table) (entries : List (String × Spec))
    (response : Response) :
    ((validate table (.all entries) response).value.passed = true ↔
      ∀ entry ∈ entries, (entryVerdict table response entry).passed = true) ∧
    ((validate table (.all entries) response).value.passed = false →
      ∃ before name spec after cause, entries = before ++ (name, spec) :: after ∧
        (∀ entry ∈ before, (entryVerdict table response entry).passed = true) ∧
        (entryVerdict table response (name, spec)).passed = false ∧
        (entryVerdict table response (name, spec)).diagnostics.getLast? = some cause ∧
        (validate table (.all entries) response).value.diagnostics =
          ((before ++ [(name, spec)]).flatMap fun entry =>
            (entryVerdict table response entry).diagnostics) ++
          [⟨name, s!"validation '{name}' failed: {causeText name cause}"⟩] ∧
        validate table (.all entries) response =
          validate table (.all (before ++ [(name, spec)])) response) := by
  have hpassed : (validate table (.all entries) response).value.passed =
      entries.all fun entry => (entryVerdict table response entry).passed :=
    passed_judgeEntries _ entries
  rw [hpassed]
  refine ⟨List.all_eq_true, fun hfailed => ?_⟩
  have hany : (entries.any fun entry => !(entryVerdict table response entry).passed) = true := by
    rw [← List.not_all_eq_any_not, hfailed]
    rfl
  obtain ⟨before, ⟨name, spec⟩, after, rfl, hspec, hbefore⟩ := exists_first hany
  have hspec : (entryVerdict table response (name, spec)).passed = false := by simpa using hspec
  have hbefore : ∀ entry ∈ before, (entryVerdict table response entry).passed = true := by
    intro entry hentry
    simpa using hbefore entry hentry
  have hreasoned : (entryVerdict table response (name, spec)).Reasoned :=
    reasoned_evaluate table (levelLimit - 1) spec response name
  obtain ⟨cause, hcause, -⟩ := hreasoned.reason_eq hspec
  refine ⟨before, name, spec, after, cause, rfl, hbefore, hspec, hcause, ?_,
    judgeEntries_cut_off hspec before after⟩
  have hvalue : (validate table (.all (before ++ (name, spec) :: after)) response).value =
      Verdict.after (before.flatMap fun entry => (entryVerdict table response entry).diagnostics)
        ⟨false, (entryVerdict table response (name, spec)).diagnostics ++
          [entryFailure name (entryVerdict table response (name, spec)).diagnostics]⟩ :=
    (value_judgeEntries_append hbefore _).trans
      (congrArg (Verdict.after _) (value_judgeEntries_of_failed hspec after))
  rw [hvalue, entryFailure_of_cause hcause]
  simp [Verdict.after]

end HttpScenario.Validation
