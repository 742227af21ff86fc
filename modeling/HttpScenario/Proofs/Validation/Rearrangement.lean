import HttpScenario.Proofs.Validation.Meaning

/-! Specifications that differ in the order of their parts, or in that one gives the definition where
the other has a name, pass for the same responses. -/

namespace HttpScenario.Validation

/-- A specification with one of its parts left out. -/
inductive Frame
  | entry (before : List (String × Spec)) (name : String) (after : List (String × Spec))
  | conjunct (before after : List Spec)
  | alternative (before after : List Spec)
  | negated

namespace Frame

def fill : Frame → Spec → Spec
  | entry before name after, spec => .all (before ++ (name, spec) :: after)
  | conjunct before after, spec => .and (before ++ spec :: after)
  | alternative before after, spec => .or (before ++ spec :: after)
  | negated, spec => .not spec

def parts : Frame → List Spec
  | entry before _ after => (before ++ after).map Prod.snd
  | conjunct before after => before ++ after
  | alternative before after => before ++ after
  | negated => []

end Frame

/-- The parts of a specification, at any depth, are put in another order, and names give way to what
they are registered for. -/
inductive Rearranged (table : Table) : Spec → Spec → Prop
  | refl (spec) : Rearranged table spec spec
  | trans {spec between other} (h : Rearranged table spec between)
      (h' : Rearranged table between other) : Rearranged table spec other
  | definition {name inner} (h : table.get? name = some inner) : Rearranged table (.named name) inner
  | entries {entries others} (h : entries.Perm others) : Rearranged table (.all entries) (.all others)
  | conjuncts {specs others} (h : specs.Perm others) : Rearranged table (.and specs) (.and others)
  | alternatives {specs others} (h : specs.Perm others) : Rearranged table (.or specs) (.or others)
  | within (frame : Frame) {inner other} (h : Rearranged table inner other) :
      Rearranged table (frame.fill inner) (frame.fill other)

def Revised (table others : Table) : Prop :=
  ∀ name, table.get? name = none ∧ others.get? name = none ∨
    ∃ inner other, table.get? name = some inner ∧ others.get? name = some other ∧
      Rearranged table inner other

variable {table others : Table} {response : Response} {spec inner other : Spec} {n : Nat}
  {key : String}

theorem Frame.below_fill_iff {frame : Frame} :
    Below table inner (frame.fill spec) ↔ inner = spec ∨ inner ∈ frame.parts := by
  cases frame with
  | entry before name after =>
    simp only [fill, parts, below_all_iff, List.map_append, List.map_cons, List.mem_append,
      List.mem_cons]
    exact or_left_comm
  | conjunct before after => simp [fill, parts, or_left_comm]
  | alternative before after => simp [fill, parts, or_left_comm]
  | negated => simp [fill, parts]

theorem Frame.passed_fill (frame : Frame)
    (h : ∀ key, (evaluate table n other response key).value.passed =
      (evaluate table n inner response key).value.passed) :
    (evaluate table (n + 1) (frame.fill other) response key).value.passed =
      (evaluate table (n + 1) (frame.fill inner) response key).value.passed := by
  cases frame with
  | entry before name after => simp [fill, passed_evaluate_all, h]
  | conjunct before after => simp [fill, passed_evaluate_and, h]
  | alternative before after => simp [fill, passed_evaluate_or, h]
  | negated => simp [fill, passed_evaluate_not, h]

namespace Rearranged

theorem unfoldsWithin (h : Rearranged table spec other) (hspec : UnfoldsWithin table n spec) :
    UnfoldsWithin table n other := by
  induction h generalizing n with
  | refl spec => exact hspec
  | trans _ _ ih ih' => exact ih' (ih hspec)
  | definition h =>
    cases n with
    | zero => exact absurd (.definition h) (hspec _)
    | succ n => exact (hspec _ (.definition h)).succ
  | entries h => exact hspec.of_below fun inner => by simp [(h.map Prod.snd).mem_iff]
  | conjuncts h => exact hspec.of_below fun inner => by simp [h.mem_iff]
  | alternatives h => exact hspec.of_below fun inner => by simp [h.mem_iff]
  | within frame _ ih =>
    cases n with
    | zero => exact absurd (Frame.below_fill_iff.mpr (.inl rfl)) (hspec _)
    | succ n =>
      intro part hpart
      rcases Frame.below_fill_iff.mp hpart with rfl | hin
      · exact ih (hspec _ (Frame.below_fill_iff.mpr (.inl rfl)))
      · exact hspec part (Frame.below_fill_iff.mpr (.inr hin))

theorem passed_evaluate (h : Rearranged table spec other) (hspec : UnfoldsWithin table n spec)
    (response : Response) (key : String) :
    (evaluate table (n + 1) other response key).value.passed =
      (evaluate table (n + 1) spec response key).value.passed := by
  induction h generalizing n key with
  | refl spec => rfl
  | trans h _ ih ih' => rw [ih' (h.unfoldsWithin hspec), ih hspec]
  | @definition name inner h =>
    cases n with
    | zero => exact absurd (.definition h) (hspec _)
    | succ n =>
      rw [evaluate_known _ _ _ h]
      exact passed_evaluate_eq (hspec _ (.definition h)) (Nat.le_succ n) response name key
  | entries h => rw [passed_evaluate_all, passed_evaluate_all, h.all_eq]
  | conjuncts h => rw [passed_evaluate_and, passed_evaluate_and, h.all_eq]
  | alternatives h => rw [passed_evaluate_or, passed_evaluate_or, h.any_eq]
  | within frame _ ih =>
    cases n with
    | zero => exact absurd (Frame.below_fill_iff.mpr (.inl rfl)) (hspec _)
    | succ n =>
      have hinner := hspec _ (Frame.below_fill_iff.mpr (.inl rfl))
      exact frame.passed_fill fun key => ih hinner key

end Rearranged

theorem Revised.refl (table : Table) : Revised table table := by
  intro name
  cases h : table.get? name with
  | none => exact .inl ⟨rfl, rfl⟩
  | some inner => exact .inr ⟨inner, inner, rfl, rfl, .refl inner⟩

theorem Revised.passed_evaluate_succ (h : Revised table others)
    (hbelow : ∀ inner other key, Below table inner spec → Rearranged table inner other →
      (evaluate others n other response key).value.passed =
        (evaluate table n inner response key).value.passed) :
    (evaluate others (n + 1) spec response key).value.passed =
      (evaluate table (n + 1) spec response key).value.passed := by
  cases spec with
  | predicate p => rfl
  | check c => rfl
  | named name =>
    obtain ⟨hnone, hnone'⟩ | ⟨inner, other, hinner, hother, harranged⟩ := h name
    · rw [passed_evaluate_unknown _ _ _ hnone, passed_evaluate_unknown _ _ _ hnone']
    · rw [evaluate_known _ _ _ hinner, evaluate_known _ _ _ hother]
      exact hbelow inner other name (.definition hinner) harranged
  | all entries =>
    rw [passed_evaluate_all, passed_evaluate_all]
    exact all_eq_of_forall_mem fun entry hentry => hbelow _ _ entry.1 (.entry hentry) (.refl _)
  | and specs =>
    rw [passed_evaluate_and, passed_evaluate_and]
    exact all_eq_of_forall_mem fun spec hspec => hbelow _ _ key (.conjunct hspec) (.refl _)
  | or specs =>
    rw [passed_evaluate_or, passed_evaluate_or]
    exact any_eq_of_forall_mem fun spec hspec => hbelow _ _ key (.alternative hspec) (.refl _)
  | not inner =>
    rw [passed_evaluate_not, passed_evaluate_not, hbelow inner inner key .negated (.refl _)]

theorem Revised.passed_evaluate (h : Revised table others) (harranged : Rearranged table spec other)
    (hspec : UnfoldsWithin table n spec) (response : Response) (key : String) :
    (evaluate others (n + 1) other response key).value.passed =
      (evaluate table (n + 1) spec response key).value.passed := by
  induction n generalizing spec other key with
  | zero =>
    rw [← harranged.passed_evaluate hspec response key]
    exact h.passed_evaluate_succ fun inner _ _ hbelow =>
      absurd hbelow (harranged.unfoldsWithin hspec inner)
  | succ n ih =>
    rw [← harranged.passed_evaluate hspec response key]
    exact h.passed_evaluate_succ fun inner _ key hbelow harranged' =>
      ih harranged' (harranged.unfoldsWithin hspec inner hbelow) key

/-- A specification that unfolds within 32 levels passes exactly if it means true. Nothing changes if
its parts or those of registered specifications are rearranged. -/
theorem meaning_of_validate (table : Table) (spec : Spec) (response : Response)
    (hspec : UnfoldsWithin table 32 spec) :
    (∀ passed, (validate table spec response).value.passed = passed ↔
      Means table response spec passed) ∧
    ∀ others other, Revised table others → Rearranged table spec other →
      (validate others other response).value.passed =
        (validate table spec response).value.passed := by
  have hmeans : Means table response spec (validate table spec response).value.passed :=
    means_evaluate hspec response "validate"
  refine ⟨fun passed => ⟨fun h => h ▸ hmeans, hmeans.unique⟩, fun others other h harranged => ?_⟩
  exact h.passed_evaluate harranged hspec response "validate"

namespace Sample

def registered : Table := [("ok", .check (.status 200))]

def negations (n : Nat) (spec : Spec) : Spec := Nat.repeat .not n spec

/-- The check behind the name is at the last level that counts. -/
def deepest : Spec := negations 31 (.named "ok")

def created : Response := .ofStatus 201

theorem unfoldsWithin_negations (h : UnfoldsWithin table n spec) (m : Nat) :
    UnfoldsWithin table (n + m) (negations m spec) := by
  induction m with
  | zero => exact h
  | succ m ih =>
    intro inner hinner
    exact below_not_iff.mp hinner ▸ ih

theorem rearranged_negations (h : Rearranged table spec other) (m : Nat) :
    Rearranged table (negations m spec) (negations m other) := by
  induction m with
  | zero => exact h
  | succ m ih => exact .within .negated ih

end Sample

theorem meaning_of_sample_validate :
    UnfoldsWithin Sample.registered 32 Sample.deepest ∧
    Means Sample.registered Sample.created Sample.deepest true ∧
    (validate Sample.registered (Sample.negations 31 (.check (.status 200)))
      Sample.created).value.passed = true := by
  have hname : Sample.registered.get? "ok" = some (.check (.status 200)) := rfl
  have hok : UnfoldsWithin Sample.registered 1 (.named "ok") := by
    intro inner hinner
    cases hname.symm.trans (below_named_iff.mp hinner)
    exact fun _ => not_below_check
  have hdeepest : UnfoldsWithin Sample.registered 32 Sample.deepest :=
    Sample.unfoldsWithin_negations hok 31
  have hpassed : (validate Sample.registered Sample.deepest Sample.created).value.passed = true := rfl
  obtain ⟨hmeans, hrearranged⟩ :=
    meaning_of_validate Sample.registered Sample.deepest Sample.created hdeepest
  refine ⟨hdeepest, (hmeans true).mp hpassed, ?_⟩
  rw [hrearranged _ _ (.refl _) (Sample.rearranged_negations (.definition hname) 31)]
  exact hpassed

end HttpScenario.Validation
