import HttpScenario.Extraction.Evaluation

/-! What holds of every evaluation because it holds of the steps. Evaluation is put together from
few of them: it checks conditions, notes failures, and goes on under keys further down. -/

namespace HttpScenario.Extraction

structure StepwiseClosed (P : ∀ {α : Type}, (String → Noted Problem α) → Prop) : Prop where
  pure : ∀ {α : Type} (a : α), P fun _ => (pure a : Noted Problem α)
  bind : ∀ {α β : Type} {f : String → Noted Problem α} {g : α → String → Noted Problem β},
    P f → (∀ a, P (g a)) → P fun key => f key >>= fun a => g a key
  check : ∀ condition response, P fun key => check key condition response
  note : ∀ failure, P fun key => Noted.note (.entry key failure)
  below : ∀ {α : Type} {f : String → Noted Problem α}, P f →
    ∀ name, P fun key => f (key ++ "." ++ name)

namespace StepwiseClosed

variable {P : ∀ {α : Type}, (String → Noted Problem α) → Prop} (h : StepwiseClosed P)
  (response : Response)

include h

theorem keep (filter : Filter) (value : Json) :
    P fun key => keep key filter value response := by
  cases filter with
  | custom keeps => exact h.pure _
  | condition c => exact h.check c (response.withData value)

theorem located (rule : PathRule) : P (rule.evaluate response) := by
  have hfiltered (found : Option Json) : P fun key => rule.filtered response key found := by
    unfold PathRule.filtered
    split
    · exact h.bind (h.keep response _ _) fun _ => h.pure _
    · exact h.pure _
  unfold PathRule.evaluate
  split
  · exact h.pure _
  · exact h.bind (hfiltered _) fun _ => h.pure _

theorem select (filter : Option Condition) (items : List Json) :
    P fun key => select filter response key items := by
  induction items with
  | nil => exact h.pure _
  | cons item rest ih =>
    have hrest (kept : Bool) : P fun key => do
        let others ← Extraction.select filter response key rest
        return if kept then item :: others else others := h.bind ih fun _ => h.pure _
    unfold Extraction.select
    cases filter with
    | none => exact h.bind (h.pure true) hrest
    | some condition => exact h.bind (h.check condition _) hrest

theorem findFirst (condition : Condition) (items : List Json) :
    P fun key => findFirst condition response key items := by
  induction items with
  | nil => exact h.pure _
  | cons item rest ih =>
    unfold Extraction.findFirst
    refine h.bind (h.check condition _) fun found => ?_
    cases found with
    | true => exact h.pure _
    | false => exact ih

theorem mapElements {rule : Response → String → Noted Problem Outcome}
    (hrule : ∀ element, P (rule element)) (items : List Json) :
    P fun key => mapElements (fun element => rule element key) response items := by
  induction items with
  | nil => exact h.pure _
  | cons item rest ih =>
    unfold Extraction.mapElements
    refine h.bind (hrule _) fun outcome => ?_
    cases outcome with
    | error failure => exact h.pure _
    | ok value => exact h.bind ih fun _ => h.pure _

omit h

-- The functions call one another, and so do the theorems. An element of a list is looked at as a
-- response of its own, so the response changes on the way.
mutual

theorem evaluate (h : StepwiseClosed P) (table : Table) (rule : Rule) (response : Response) :
    P fun key => evaluate table rule response key := by
  match rule with
  | .path path =>
    unfold Extraction.evaluate
    split <;> exact h.pure _
  | .custom extractor | .computed extractor => exact h.pure _
  | .unsupported value => exact h.pure _
  | .located rule => exact h.located response rule
  | .pattern rule => exact h.pure _
  | .multiple entries =>
    exact h.bind (evaluateEntries h table entries response []) fun _ => h.pure _
  | .conditional branches default => exact evaluateBranches h table branches default response
  | .array selection projection =>
    unfold Extraction.evaluate
    split
    · exact h.bind (h.select response _ _) fun selected =>
        project h table projection _ selected response
    · exact h.pure _

theorem evaluateEntries (h : StepwiseClosed P) (table : Table) (entries : List (String × Rule))
    (response : Response) (values : Fields Json) :
    P fun key =>
      evaluateEntries table entries response (fun name => key ++ "." ++ name) values := by
  match entries with
  | [] => exact h.pure _
  | (name, rule) :: rest =>
    have hrest := evaluateEntries h table rest response
    have hnote (failure : Failure) :
        P fun key => Noted.note (.entry (key ++ "." ++ name) failure) :=
      h.below (h.note failure) name
    unfold Extraction.evaluateEntries
    refine h.bind (h.below (evaluate h table rule response) name) fun outcome => ?_
    match outcome with
    | .ok (some value) => exact hrest _
    | .ok none => exact hrest _
    | .error failure => exact h.bind (hnote failure) fun _ => hrest _

theorem evaluateBranches (h : StepwiseClosed P) (table : Table)
    (branches : List (Condition × Rule)) (default : Option Json) (response : Response) :
    P fun key => evaluateBranches table branches default response key := by
  match branches with
  | [] => exact h.pure _
  | (condition, rule) :: rest =>
    unfold Extraction.evaluateBranches
    refine h.bind (h.check condition response) fun taken => ?_
    cases taken with
    | true => exact evaluate h table rule response
    | false => exact evaluateBranches h table rest default response

theorem project (h : StepwiseClosed P) (table : Table) (projection : Projection Rule)
    (default : Option Json) (selected : List Json) (response : Response) :
    P fun key => project table projection default selected response key := by
  match projection with
  | .elements => exact h.pure _
  | .first condition => exact h.bind (h.findFirst response condition selected) fun _ => h.pure _
  | .pluck path => exact h.pure _
  | .mapped rule =>
    have hrule := evaluate h table rule
    exact h.bind (h.mapElements response hrule selected) fun _ => h.pure _

end

end StepwiseClosed

end HttpScenario.Extraction
