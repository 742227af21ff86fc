import HttpScenario.Proofs.Validation.Errors

/-! The limit on nesting. It counts objects, conjunctions, disjunctions and negations as well as names:
a specification is judged as if all that lies more than 32 levels below its root failed. What unfolds
completely before that is judged as without a limit. -/

namespace HttpScenario.Validation

inductive NameFree : Spec → Prop
  | predicate (p) : NameFree (.predicate p)
  | check (c) : NameFree (.check c)
  | all {entries} (h : ∀ entry ∈ entries, NameFree entry.2) : NameFree (.all entries)
  | and {specs} (h : ∀ spec ∈ specs, NameFree spec) : NameFree (.and specs)
  | or {specs} (h : ∀ spec ∈ specs, NameFree spec) : NameFree (.or specs)
  | not {inner} (h : NameFree inner) : NameFree (.not inner)

/-- The specification of which only so many levels are left: below them stands one that never
passes. -/
def cut : Nat → Spec → Spec
  | 0, _ => .or []
  | _ + 1, .predicate p => .predicate p
  | _ + 1, .check c => .check c
  | _ + 1, .named name => .named name
  | n + 1, .all entries => .all (entries.map fun entry => (entry.1, cut n entry.2))
  | n + 1, .and specs => .and (specs.map (cut n))
  | n + 1, .or specs => .or (specs.map (cut n))
  | n + 1, .not inner => .not (cut n inner)

def nestingMessage : String := "validator nesting too deep"

variable {table : Table} {response : Response} {spec inner : Spec} {key : String} {n m : Nat}

section Cutting

theorem unfoldsWithin_cut (hspec : NameFree spec) (n : Nat) : UnfoldsWithin table n (cut n spec) := by
  induction n generalizing spec with
  | zero =>
    intro inner hinner
    exact absurd (below_or_iff.1 hinner) List.not_mem_nil
  | succ n ih =>
    intro inner hinner
    cases hspec with
    | predicate p => exact absurd hinner not_below_predicate
    | check c => exact absurd hinner not_below_check
    | all h =>
      obtain ⟨entry, hentry, rfl⟩ := List.mem_map.1 (below_all_iff.1 hinner)
      obtain ⟨whole, hwhole, rfl⟩ := List.mem_map.1 hentry
      exact ih (h whole hwhole)
    | and h =>
      obtain ⟨whole, hwhole, rfl⟩ := List.mem_map.1 (below_and_iff.1 hinner)
      exact ih (h whole hwhole)
    | or h =>
      obtain ⟨whole, hwhole, rfl⟩ := List.mem_map.1 (below_or_iff.1 hinner)
      exact ih (h whole hwhole)
    | not h =>
      obtain rfl := below_not_iff.1 hinner
      exact ih h

theorem passes_cut (hspec : NameFree spec) :
    passes table response (n + 1) (cut n spec) = passes table response n spec := by
  induction n generalizing spec with
  | zero => rfl
  | succ n ih =>
    cases hspec with
    | predicate p => rw [cut, passes_predicate, passes_predicate]
    | check c => rw [cut, passes_check, passes_check]
    | all h =>
      rw [cut, passes_all, passes_all, List.all_map]
      exact all_eq_of_forall_mem fun entry hentry => ih (h entry hentry)
    | and h =>
      rw [cut, passes_and, passes_and, List.all_map]
      exact all_eq_of_forall_mem fun spec hspec => ih (h spec hspec)
    | or h =>
      rw [cut, passes_or, passes_or, List.any_map]
      exact any_eq_of_forall_mem fun spec hspec => ih (h spec hspec)
    | not h => rw [cut, passes_not, passes_not, ih h]

theorem means_cut (hspec : NameFree spec) (n : Nat) (response : Response) (key : String) :
    Means table response (cut n spec) (evaluate table n spec response key).value.passed := by
  have hunfolds : UnfoldsWithin table n (cut n spec) := unfoldsWithin_cut hspec n
  have hmeans := means_evaluate hunfolds response ""
  have hpassed : (evaluate table (n + 1) (cut n spec) response "").value.passed =
      (evaluate table n spec response key).value.passed :=
    (passes_cut hspec).trans (passed_evaluate_eq_passes spec key).symm
  exact hpassed ▸ hmeans

end Cutting

section Levels

theorem evaluate_succ_congr
    (h : ∀ inner key, Below table inner spec →
      evaluate table m inner response key = evaluate table n inner response key) :
    evaluate table (m + 1) spec response key = evaluate table (n + 1) spec response key := by
  cases spec with
  | predicate p => rfl
  | check c => rfl
  | named name =>
    cases hname : table.get? name with
    | none => simp only [evaluate, hname]
    | some inner =>
      rw [evaluate_known m response key hname, evaluate_known n response key hname]
      exact h inner name (.definition hname)
  | all entries => exact judgeEntries_congr fun entry hentry => h entry.2 entry.1 (.entry hentry)
  | and specs => exact judgeAnd_congr fun spec hspec => h spec key (.conjunct hspec)
  | or specs => exact judgeOr_congr fun spec hspec => h spec key (.alternative hspec)
  | not inner => rw [evaluate, evaluate, h inner key .negated]

theorem evaluate_eq_of_unfoldsWithin (h : UnfoldsWithin table n spec) (hle : n ≤ m)
    (response : Response) (key : String) :
    evaluate table (m + 1) spec response key = evaluate table (n + 1) spec response key := by
  induction n generalizing spec key m with
  | zero => exact evaluate_succ_congr fun inner _ hbelow => absurd hbelow (h inner)
  | succ n ih =>
    obtain ⟨m, rfl⟩ := Nat.exists_eq_add_of_le' (Nat.one_le_of_lt hle)
    have hle : n ≤ m := Nat.le_of_succ_le_succ hle
    exact evaluate_succ_congr fun inner key hbelow => ih (h inner hbelow) hle key

end Levels

section Messages

/-- A text with which the report of too deep nesting does not begin. -/
def Apart (s : String) : Prop := ¬s.toList <+: nestingMessage.toList

instance (s : String) : Decidable (Apart s) := inferInstanceAs (Decidable (¬_))

theorem Apart.append {s : String} (h : Apart s) (t : String) : Apart (s ++ t) := by
  intro happend
  rw [String.toList_append] at happend
  exact h ((List.prefix_append s.toList t.toList).trans happend)

theorem Apart.ne {s : String} (h : Apart s) : s ≠ nestingMessage := by
  rintro rfl
  exact h (List.prefix_refl _)

theorem apart_message (failure : Check.Failure) : Apart failure.message := by
  cases failure with
  | schema v =>
    -- The text of a violation begins with its path, which begins at the root.
    have hpath : Apart v.path := Apart.append (by decide) _
    exact (hpath.append _).append _
  | _ =>
    show Apart (_ ++ _)
    repeat with_reducible apply Apart.append
    decide

theorem apart_entryFailure (name : String) (within : List Diagnostic) :
    Apart (entryFailure name within).message := by
  unfold entryFailure
  split
  · split
    · repeat with_reducible apply Apart.append
      decide
    · repeat with_reducible apply Apart.append
      decide
  · repeat with_reducible apply Apart.append
    decide

end Messages

namespace Verdict

def Uncut (verdict : Verdict) : Prop := ∀ d ∈ verdict.diagnostics, d.message ≠ nestingMessage

theorem uncut_nil (passed : Bool) : Uncut ⟨passed, []⟩ := fun _ h => absurd h List.not_mem_nil

theorem uncut_pass : pass.Uncut := uncut_nil true

theorem uncut_of_apart {message : String} (h : Apart message) (passed : Bool) (key : String) :
    Uncut ⟨passed, [⟨key, message⟩]⟩ := by
  intro d hd
  rw [List.mem_singleton.1 hd]
  exact h.ne

theorem uncut_append {earlier later : List Diagnostic} {passed : Bool}
    (hearlier : Uncut ⟨passed, earlier⟩) (hlater : Uncut ⟨passed, later⟩) :
    Uncut ⟨passed, earlier ++ later⟩ := by
  intro d hd
  exact (List.mem_append.1 hd).elim (hearlier d) (hlater d)

end Verdict

section Reports

open Verdict

theorem uncut_judgePredicate (p : Predicate) (response : Response) (key : String) :
    (judgePredicate p response key).value.Uncut := by
  unfold judgePredicate
  split
  · exact uncut_pass
  · exact uncut_of_apart (by decide) _ key
  · apply uncut_of_apart
    repeat with_reducible apply Apart.append
    decide
  · apply uncut_of_apart
    repeat with_reducible apply Apart.append
    decide

theorem uncut_judgeCheck (check : Check) (response : Response) (key : String) :
    (judgeCheck check response key).value.Uncut := by
  unfold judgeCheck
  split
  · exact uncut_pass
  · exact uncut_of_apart (apart_message _) _ key

theorem uncut_judgeEntries {judge : Spec → String → Judgement} {entries : List (String × Spec)}
    (h : ∀ entry ∈ entries, (judge entry.2 entry.1).value.Uncut) :
    (judgeEntries judge entries).value.Uncut := by
  induction entries with
  | nil => exact uncut_pass
  | cons entry rest ih =>
    obtain ⟨hentry, hrest⟩ := List.forall_mem_cons.1 h
    simp only [judgeEntries, Noted.value_bind]
    split
    · exact uncut_append hentry (ih hrest)
    · exact uncut_append hentry (uncut_of_apart (apart_entryFailure _ _) _ entry.1)

theorem uncut_judgeAnd {judge : Spec → Judgement} {specs : List Spec}
    (h : ∀ spec ∈ specs, (judge spec).value.Uncut) : (judgeAnd judge specs).value.Uncut := by
  induction specs with
  | nil => exact uncut_pass
  | cons spec rest ih =>
    obtain ⟨hspec, hrest⟩ := List.forall_mem_cons.1 h
    simp only [judgeAnd, Noted.value_bind]
    split
    · exact uncut_append hspec (ih hrest)
    · exact hspec

theorem uncut_judgeOr {judge : Spec → Judgement} {key : String} {failures : List Diagnostic}
    {specs : List Spec} (hfailures : Uncut ⟨false, failures⟩)
    (h : ∀ spec ∈ specs, (judge spec).value.Uncut) :
    (judgeOr judge key failures specs).value.Uncut := by
  induction specs generalizing failures with
  | nil => exact uncut_append hfailures (uncut_of_apart (by decide) _ key)
  | cons spec rest ih =>
    obtain ⟨hspec, hrest⟩ := List.forall_mem_cons.1 h
    simp only [judgeOr, Noted.value_bind]
    split
    · exact uncut_pass
    · exact ih (uncut_append hfailures hspec) hrest

theorem uncut_evaluate_succ
    (h : ∀ inner key, Below table inner spec →
      (evaluate table n inner response key).value.Uncut) :
    (evaluate table (n + 1) spec response key).value.Uncut := by
  cases spec with
  | predicate p => exact uncut_judgePredicate p response key
  | check c => exact uncut_judgeCheck c response key
  | named name =>
    simp only [evaluate]
    split
    · next inner hname => exact h inner name (.definition hname)
    · exact uncut_of_apart (by decide) _ name
  | all entries => exact uncut_judgeEntries fun entry hentry => h entry.2 entry.1 (.entry hentry)
  | and specs => exact uncut_judgeAnd fun spec hspec => h spec key (.conjunct hspec)
  | or specs => exact uncut_judgeOr (uncut_nil false) fun spec hspec => h spec key (.alternative hspec)
  | not inner =>
    simp only [evaluate, Noted.value_bind]
    split
    · exact uncut_of_apart (by decide) _ key
    · exact uncut_pass

theorem uncut_evaluate (h : UnfoldsWithin table n spec) (response : Response) (key : String) :
    (evaluate table (n + 1) spec response key).value.Uncut := by
  induction n generalizing spec key with
  | zero => exact uncut_evaluate_succ fun inner _ hbelow => absurd hbelow (h inner)
  | succ n ih => exact uncut_evaluate_succ fun inner key hbelow => ih (h inner hbelow) key

end Reports

/-- A specification that refers to no registered one passes exactly if it means true after all that
lies more than 32 levels below its root is replaced by what never passes. If nothing lies there, that
is its own meaning, too deep nesting is not reported, and more levels would change nothing. -/
theorem nesting_of_validate (table : Table) (spec : Spec) (response : Response)
    (hspec : NameFree spec) :
    (∀ passed, (validate table spec response).value.passed = passed ↔
      Means table response (cut levelLimit spec) passed) ∧
    (UnfoldsWithin table 32 spec →
      (∀ passed, (validate table spec response).value.passed = passed ↔
        Means table response spec passed) ∧
      (∀ d ∈ (validate table spec response).value.diagnostics, d.message ≠ nestingMessage) ∧
      ∀ levels, levelLimit ≤ levels →
        evaluate table levels spec response "validate" = validate table spec response) := by
  refine ⟨fun passed => (means_cut hspec levelLimit response "validate").eq_iff, ?_⟩
  intro hwithin
  refine ⟨fun passed => (means_evaluate hwithin response "validate").eq_iff,
    uncut_evaluate hwithin response "validate", ?_⟩
  intro levels hlevels
  obtain ⟨m, rfl⟩ := Nat.exists_eq_add_of_le' hlevels
  exact evaluate_eq_of_unfoldsWithin hwithin (Nat.le_add_left 32 m) response "validate"

namespace Sample

def okay : Spec := .check (.status 200)

def conjunctions (n : Nat) (spec : Spec) : Spec := Nat.repeat (fun inner => .and [inner]) n spec

theorem nameFree_conjunctions (h : NameFree spec) (n : Nat) : NameFree (conjunctions n spec) := by
  induction n with
  | zero => exact h
  | succ n ih => exact .and (List.forall_mem_singleton.2 ih)

theorem unfoldsWithin_conjunctions (h : UnfoldsWithin table n spec) (m : Nat) :
    UnfoldsWithin table (n + m) (conjunctions m spec) := by
  induction m with
  | zero => exact h
  | succ m ih =>
    intro inner hinner
    exact List.mem_singleton.1 (below_and_iff.1 hinner) ▸ ih

theorem unfoldsWithin_okay : UnfoldsWithin table 0 okay := fun _ => not_below_check

end Sample

theorem nesting_of_sample_validate :
    NameFree (Sample.conjunctions 33 Sample.okay) ∧
    Means [] (.ofStatus 200) (Sample.conjunctions 33 Sample.okay) true ∧
    Means [] (.ofStatus 200) (cut levelLimit (Sample.conjunctions 33 Sample.okay)) false ∧
    (validate [] (Sample.conjunctions 33 Sample.okay) (.ofStatus 200)).value =
      .fail "validate" nestingMessage ∧
    NameFree (Sample.conjunctions 32 Sample.okay) ∧
    UnfoldsWithin [] 32 (Sample.conjunctions 32 Sample.okay) ∧
    Means [] (.ofStatus 200) (Sample.conjunctions 32 Sample.okay) true ∧
    (validate [] (Sample.conjunctions 32 Sample.okay) (.ofStatus 200)).value = .pass := by
  have hokay : NameFree Sample.okay := .check _
  have hdeep := Sample.nameFree_conjunctions hokay 33
  have hdeepest := Sample.nameFree_conjunctions hokay 32
  have hunfolds : UnfoldsWithin [] 33 (Sample.conjunctions 33 Sample.okay) :=
    Sample.unfoldsWithin_conjunctions Sample.unfoldsWithin_okay 33
  have hwithin : UnfoldsWithin [] 32 (Sample.conjunctions 32 Sample.okay) :=
    Sample.unfoldsWithin_conjunctions Sample.unfoldsWithin_okay 32
  have htrue : Means [] (.ofStatus 200) (Sample.conjunctions 33 Sample.okay) true :=
    means_evaluate hunfolds (.ofStatus 200) "validate"
  obtain ⟨hcut, -⟩ := nesting_of_validate [] _ (.ofStatus 200) hdeep
  obtain ⟨-, huncut⟩ := nesting_of_validate [] _ (.ofStatus 200) hdeepest
  obtain ⟨hmeans, -, -⟩ := huncut hwithin
  exact ⟨hdeep, htrue, (hcut false).1 rfl, rfl, hdeepest, hwithin, (hmeans true).1 rfl, rfl⟩

end HttpScenario.Validation
