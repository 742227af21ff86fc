import HttpScenario.Validation.Evaluation

/-! How the verdicts on the parts of a specification make up the verdict on the whole: which
diagnostics are kept, and which parts have a say. -/

namespace HttpScenario.Validation

theorem Verdict.eq_pass_iff {verdict : Verdict} :
    verdict = .pass ↔ verdict.passed = true ∧ verdict.diagnostics = [] := by
  obtain ⟨passed, diagnostics⟩ := verdict
  simp [pass]

section Entries

variable {judge : Spec → String → Judgement} {before : List (String × Spec)} {name : String}
  {spec : Spec}

theorem value_judgeEntries_append
    (hbefore : ∀ entry ∈ before, (judge entry.2 entry.1).value.passed = true)
    (rest : List (String × Spec)) :
    (judgeEntries judge (before ++ rest)).value = (judgeEntries judge rest).value.after
      (before.flatMap fun entry => (judge entry.2 entry.1).value.diagnostics) := by
  induction before with
  | nil => rfl
  | cons entry before ih =>
    obtain ⟨hentry, hbefore⟩ := List.forall_mem_cons.1 hbefore
    rw [List.cons_append, judgeEntries, Noted.value_bind, if_pos hentry, Noted.value_bind,
      Noted.value_pure, ih hbefore, List.flatMap_cons]
    simp only [Verdict.after, List.append_assoc]

theorem value_judgeEntries_of_passed {entries : List (String × Spec)}
    (h : ∀ entry ∈ entries, (judge entry.2 entry.1).value.passed = true) :
    (judgeEntries judge entries).value =
      ⟨true, entries.flatMap fun entry => (judge entry.2 entry.1).value.diagnostics⟩ := by
  have happend := value_judgeEntries_append h []
  rw [List.append_nil] at happend
  rw [happend]
  simp [judgeEntries, Verdict.after, Verdict.pass]

theorem value_judgeEntries_of_pass {entries : List (String × Spec)}
    (h : ∀ entry ∈ entries, (judge entry.2 entry.1).value = .pass) :
    (judgeEntries judge entries).value = .pass := by
  have hpart := fun entry hentry => Verdict.eq_pass_iff.1 (h entry hentry)
  rw [value_judgeEntries_of_passed fun entry hentry => (hpart entry hentry).1, Verdict.eq_pass_iff]
  exact ⟨rfl, List.flatMap_eq_nil_iff.2 fun entry hentry => (hpart entry hentry).2⟩

theorem judgeEntries_congr {other : Spec → String → Judgement} {entries : List (String × Spec)}
    (h : ∀ entry ∈ entries, judge entry.2 entry.1 = other entry.2 entry.1) :
    judgeEntries judge entries = judgeEntries other entries := by
  induction entries with
  | nil => rfl
  | cons entry rest ih =>
    obtain ⟨hentry, hrest⟩ := List.forall_mem_cons.1 h
    rw [judgeEntries, judgeEntries, hentry, ih hrest]

theorem value_judgeEntries_of_failed (hfailed : (judge spec name).value.passed = false)
    (after : List (String × Spec)) :
    (judgeEntries judge ((name, spec) :: after)).value =
      ⟨false, (judge spec name).value.diagnostics ++
        [entryFailure name (judge spec name).value.diagnostics]⟩ := by
  rw [judgeEntries, Noted.value_bind, hfailed]
  rfl

theorem judgeEntries_cut_off (hfailed : (judge spec name).value.passed = false)
    (before after : List (String × Spec)) :
    judgeEntries judge (before ++ (name, spec) :: after) =
      judgeEntries judge (before ++ [(name, spec)]) := by
  induction before with
  | nil =>
    apply Noted.bind_congr_value
    rw [hfailed]
    rfl
  | cons entry before ih => rw [List.cons_append, List.cons_append, judgeEntries, judgeEntries, ih]

end Entries

section Lists

variable {judge : Spec → Judgement} {key : String} {failures : List Diagnostic} {specs : List Spec}

theorem value_judgeAnd_of_passed (h : ∀ spec ∈ specs, (judge spec).value.passed = true) :
    (judgeAnd judge specs).value =
      ⟨true, specs.flatMap fun spec => (judge spec).value.diagnostics⟩ := by
  induction specs with
  | nil => rfl
  | cons spec rest ih =>
    obtain ⟨hspec, hrest⟩ := List.forall_mem_cons.1 h
    rw [judgeAnd, Noted.value_bind, if_pos hspec, Noted.value_bind, Noted.value_pure, ih hrest]
    rfl

theorem judgeAnd_congr {other : Spec → Judgement} (h : ∀ spec ∈ specs, judge spec = other spec) :
    judgeAnd judge specs = judgeAnd other specs := by
  induction specs with
  | nil => rfl
  | cons spec rest ih =>
    obtain ⟨hspec, hrest⟩ := List.forall_mem_cons.1 h
    rw [judgeAnd, judgeAnd, hspec, ih hrest]

theorem judgeOr_congr {other : Spec → Judgement} (h : ∀ spec ∈ specs, judge spec = other spec) :
    judgeOr judge key failures specs = judgeOr other key failures specs := by
  induction specs generalizing failures with
  | nil => rfl
  | cons spec rest ih =>
    obtain ⟨hspec, hrest⟩ := List.forall_mem_cons.1 h
    rw [judgeOr, judgeOr, hspec]
    apply Noted.bind_congr_value
    rw [ih hrest]

theorem value_judgeAnd_of_pass (h : ∀ spec ∈ specs, (judge spec).value = .pass) :
    (judgeAnd judge specs).value = .pass := by
  have hpart := fun spec hspec => Verdict.eq_pass_iff.1 (h spec hspec)
  rw [value_judgeAnd_of_passed fun spec hspec => (hpart spec hspec).1, Verdict.eq_pass_iff]
  exact ⟨rfl, List.flatMap_eq_nil_iff.2 fun spec hspec => (hpart spec hspec).2⟩

theorem value_judgeOr_of_passed (h : (judgeOr judge key failures specs).value.passed = true) :
    (judgeOr judge key failures specs).value = .pass := by
  induction specs generalizing failures with
  | nil => cases h
  | cons spec rest ih =>
    rw [judgeOr, Noted.value_bind] at h ⊢
    split at h
    · next hpassed => rw [if_pos hpassed, Noted.value_pure]
    · next hfailed =>
      rw [if_neg hfailed]
      exact ih h

end Lists

end HttpScenario.Validation
