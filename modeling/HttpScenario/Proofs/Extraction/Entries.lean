import HttpScenario.Extraction.Evaluation
import HttpScenario.Proofs.Fields

/-! Extraction entry by entry. What an entry adds to the values and the problems depends on the entry
and the response, and not on the entries around it. -/

namespace HttpScenario.Extraction

/-- What an entry adds: the value of its rule, if it has one, and all problems on the way there. -/
def contribution (table : Table) (entry : String × Rule) (response : Response) (key : String) :
    Noted Problem (Fields Json) :=
  let outcome := evaluate table entry.2 response key
  match outcome.value with
  | .ok (some value) => ⟨[(entry.1, value)], outcome.notes⟩
  | .ok none => ⟨[], outcome.notes⟩
  | .error failure => ⟨[], outcome.notes ++ [.entry key failure]⟩

def recorded (values : Fields Json) (name : String) : Outcome → Fields Json
  | .ok (some value) => values.insert name value
  | .ok none => values
  | .error _ => values

def diagnostics (table : Table) (spec : Spec) (response : Response) : List Diagnostic :=
  (extract table spec response).notes.map Problem.diagnostic

section Entries

variable (table : Table) (response : Response) (keyOf : String → String)

theorem evaluateEntries_cons (entry : String × Rule) (rest : Spec) (values : Fields Json) :
    evaluateEntries table (entry :: rest) response keyOf values = (do
      let own ← contribution table entry response (keyOf entry.1)
      evaluateEntries table rest response keyOf (values.merge own)) := by
  obtain ⟨name, rule⟩ := entry
  rw [evaluateEntries, contribution]
  generalize evaluate table rule response (keyOf name) = outcome
  -- The failure of an entry is noted after the problems on the way to it.
  obtain ⟨failure | _ | value, notes⟩ := outcome
  · simp only [bind, Noted.note, Fields.merge_nil, List.append_assoc]
  · rfl
  · rfl

theorem value_evaluateEntries (entries : Spec) (values : Fields Json) :
    (evaluateEntries table entries response keyOf values).value =
      values.merge (entries.flatMap fun entry =>
        (contribution table entry response (keyOf entry.1)).value) := by
  induction entries generalizing values with
  | nil => rfl
  | cons entry rest ih =>
    rw [evaluateEntries_cons, Noted.value_bind, ih, List.flatMap_cons, Fields.merge_append]

theorem notes_evaluateEntries (entries : Spec) (values : Fields Json) :
    (evaluateEntries table entries response keyOf values).notes =
      entries.flatMap fun entry => (contribution table entry response (keyOf entry.1)).notes := by
  induction entries generalizing values with
  | nil => rfl
  | cons entry rest ih =>
    rw [evaluateEntries_cons, Noted.notes_bind, ih, List.flatMap_cons]

end Entries

section Extract

variable (table : Table) (response : Response)

theorem value_extract_append (earlier later : Spec) :
    (extract table (earlier ++ later) response).value =
      (extract table earlier response).value.merge (extract table later response).value := by
  simp only [extract, value_evaluateEntries, List.flatMap_append, Fields.merge_append]
  -- The later values have been merged already when they are merged into the earlier ones.
  exact (Fields.merge_ofList _ _).symm

theorem diagnostics_append (earlier later : Spec) :
    diagnostics table (earlier ++ later) response =
      diagnostics table earlier response ++ diagnostics table later response := by
  simp only [diagnostics, extract, notes_evaluateEntries, List.flatMap_append, List.map_append]

theorem value_extract_concat (earlier : Spec) (name : String) (rule : Rule) :
    (extract table (earlier ++ [(name, rule)]) response).value =
      recorded (extract table earlier response).value name
        (evaluate table rule response name).value := by
  simp only [extract, value_evaluateEntries, List.flatMap_append, Fields.merge_append,
    List.flatMap_singleton, contribution, id]
  rcases (evaluate table rule response name).value with failure | _ | value <;> rfl

end Extract

theorem without_recorded (values : Fields Json) (name : String) (outcome : Outcome) :
    (recorded values name outcome).without name = values.without name := by
  obtain failure | _ | value := outcome
  · rfl
  · rfl
  · exact Fields.without_insert_self values name value

/-- Two specifications together give what each gives by itself. So an entry between others has its own
value recorded, if there is one, adds its own diagnostics, and changes nothing else. -/
theorem isolated_of_extract (table : Table) (earlier later : Spec) (response : Response) :
    ((extract table (earlier ++ later) response).value =
        (extract table earlier response).value.merge (extract table later response).value ∧
      diagnostics table (earlier ++ later) response =
        diagnostics table earlier response ++ diagnostics table later response) ∧
    ∀ name rule,
      (extract table (earlier ++ (name, rule) :: later) response).value =
        (recorded (extract table earlier response).value name
          (evaluate table rule response name).value).merge (extract table later response).value ∧
      (extract table (earlier ++ (name, rule) :: later) response).value.without name =
        (extract table (earlier ++ later) response).value.without name ∧
      diagnostics table (earlier ++ (name, rule) :: later) response =
        diagnostics table earlier response ++ diagnostics table [(name, rule)] response ++
          diagnostics table later response := by
  refine ⟨⟨value_extract_append .., diagnostics_append ..⟩, fun name rule => ?_⟩
  have hvalue : (extract table (earlier ++ (name, rule) :: later) response).value =
      (recorded (extract table earlier response).value name
        (evaluate table rule response name).value).merge (extract table later response).value := by
    rw [List.append_cons, value_extract_append, value_extract_concat]
  refine ⟨hvalue, ?_, ?_⟩
  · rw [hvalue, value_extract_append, Fields.without_merge, Fields.without_merge, without_recorded]
  · rw [List.append_cons, diagnostics_append, diagnostics_append]

end HttpScenario.Extraction
