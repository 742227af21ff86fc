import HttpScenario.Proofs.Extraction.Closure
import HttpScenario.Proofs.Extraction.Entries

/-! The keys under which problems are noted. Evaluation does not look at them, so rules that are
nested under a key behave as they do at the top, with problems noted further down. -/

namespace HttpScenario

namespace Noted

variable {ν μ α : Type}

def mapNotes (f : ν → μ) (x : Noted ν α) : Noted μ α := ⟨x.value, x.notes.map f⟩

end Noted

namespace Extraction

def Problem.under (outer : String) : Problem → Problem
  | condition key cause => condition (outer ++ key) cause
  | entry key cause => entry (outer ++ key) cause

theorem Problem.diagnostic_under (outer : String) (problem : Problem) :
    (problem.under outer).diagnostic =
      { problem.diagnostic with key := outer ++ problem.diagnostic.key } := by
  cases problem <;> rfl

variable {α β : Type}

/-- The key has no part in an evaluation but to name the places of problems. -/
def Relative (f : String → Noted Problem α) : Prop :=
  ∀ outer key, f (outer ++ key) = (f key).mapNotes (Problem.under outer)

namespace Relative

theorem pure (a : α) : Relative fun _ => (Pure.pure a : Noted Problem α) := fun _ _ => rfl

theorem bind {f : String → Noted Problem α} {g : α → String → Noted Problem β} (hf : Relative f)
    (hg : ∀ a, Relative (g a)) : Relative fun key => f key >>= fun a => g a key := by
  intro outer key
  simp only [Bind.bind, hf outer key, hg _ outer key, Noted.mapNotes, List.map_append]

theorem check (condition : Condition) (response : Response) :
    Relative fun key => check key condition response := by
  intro outer key
  unfold Extraction.check
  cases condition.evaluate response <;> rfl

theorem stepwiseClosed : StepwiseClosed Relative where
  pure := pure
  bind := bind
  check := check
  note _ _ _ := rfl
  below hf name outer key := by simp only [String.append_assoc, hf outer]

theorem contribution {table : Table} {entry : String × Rule} {response : Response}
    (h : Relative (evaluate table entry.2 response)) :
    Relative (contribution table entry response) := by
  intro outer key
  unfold Extraction.contribution
  rw [h outer key]
  obtain ⟨failure | _ | value, notes⟩ := evaluate table entry.2 response key
  · simp only [Noted.mapNotes, List.map_append, List.map_cons, List.map_nil, Problem.under]
  · rfl
  · rfl

end Relative

theorem evaluate_multiple (table : Table) (entries : List (String × Rule)) (response : Response)
    (key : String) :
    evaluate table (.multiple entries) response key = (do
      let values ← evaluateEntries table entries response (fun name => key ++ "." ++ name) []
      return .ok (some (.object values))) := rfl

theorem relative_evaluate (table : Table) (rule : Rule) (response : Response) :
    Relative fun key => evaluate table rule response key :=
  Relative.stepwiseClosed.evaluate table rule response

theorem evaluateEntries_under (table : Table) (entries : List (String × Rule))
    (response : Response) (keyOf : String → String) (values : Fields Json) (outer : String) :
    evaluateEntries table entries response (fun name => outer ++ keyOf name) values =
      (evaluateEntries table entries response keyOf values).mapNotes (Problem.under outer) := by
  induction entries generalizing values with
  | nil => rfl
  | cons entry rest ih =>
    have hown : Relative (contribution table entry response) :=
      .contribution (relative_evaluate table entry.2 response)
    rw [evaluateEntries_cons, evaluateEntries_cons]
    simp only [Bind.bind, hown outer, ih, Noted.mapNotes, List.map_append]

/-- Entries that are nested under a key have the value that they have as a specification, and their
diagnostics are those of the specification with the key before each of theirs. -/
theorem multiple_of_extract (table : Table) (spec : Spec) (response : Response) (key : String) :
    (evaluate table (.multiple spec) response key).value =
        .ok (some (.object (extract table spec response).value)) ∧
      (evaluate table (.multiple spec) response key).notes.map Problem.diagnostic =
        (diagnostics table spec response).map fun d => { d with key := s!"{key}.{d.key}" } := by
  have hentries : evaluateEntries table spec response (fun name => key ++ "." ++ name) [] =
      (extract table spec response).mapNotes (Problem.under (key ++ ".")) :=
    evaluateEntries_under table spec response id [] (key ++ ".")
  have hrule : evaluate table (.multiple spec) response key =
      ⟨.ok (some (.object (extract table spec response).value)),
        (extract table spec response).notes.map (Problem.under (key ++ "."))⟩ := by
    rw [evaluate_multiple, hentries]
    simp only [Bind.bind, Noted.mapNotes, Noted.value_pure, Noted.notes_pure, List.append_nil]
  refine ⟨by rw [hrule], ?_⟩
  rw [hrule, diagnostics, List.map_map, List.map_map]
  exact List.map_congr_left fun problem _ => problem.diagnostic_under (key ++ ".")

end Extraction

end HttpScenario
