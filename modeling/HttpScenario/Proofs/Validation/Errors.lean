import HttpScenario.Proofs.Validation.Meaning
import HttpScenario.Proofs.Validation.Verdicts
import HttpScenario.Validation.Builtin

/-! What becomes of errors. Where a name is unknown, a predicate raises an error or the nesting goes
too deep, validation fails at that place, and the combinators around it see no more than a failure.
Negation turns it into a success, and does not tell of it. -/

namespace HttpScenario.Validation

/-- Where validation goes no further: at an error, at a combination of nothing, or at a predicate or
check that comes to a verdict. -/
inductive Leaf
  | error
  | empty (passed : Bool)
  | verdict (passed : Bool)

def Leaf.passed : Leaf → Bool
  | error => false
  | empty passed => passed
  | verdict passed => passed

def Predicate.leaf (predicate : Predicate) (response : Response) : Leaf :=
  match predicate.call response with
  | .ok value => .verdict value.isTruthy
  | .error _ => .error

def passes (table : Table) (response : Response) (levels : Nat) (spec : Spec) : Bool :=
  (evaluate table levels spec response "").value.passed

/-- The leaves at which validation arrives, and whether an odd number of negations stand above them.
A conjunction is looked into as long as its parts pass, a disjunction as long as they fail. -/
inductive Reached (table : Table) (response : Response) : Nat → Spec → Bool → Leaf → Prop
  | tooDeep {spec} : Reached table response 0 spec false .error
  | predicate {n p} : Reached table response (n + 1) (.predicate p) false (p.leaf response)
  | check {n c} : Reached table response (n + 1) (.check c) false (.verdict (c.run response).isOk)
  | unknown {n name} (h : table.get? name = none) :
      Reached table response (n + 1) (.named name) false .error
  | known {n name inner odd leaf} (h : table.get? name = some inner)
      (hinner : Reached table response n inner odd leaf) :
      Reached table response (n + 1) (.named name) odd leaf
  | noEntries {n} : Reached table response (n + 1) (.all []) false (.empty true)
  | entry {n before name inner after odd leaf}
      (hbefore : ∀ entry ∈ before, passes table response n entry.2 = true)
      (hinner : Reached table response n inner odd leaf) :
      Reached table response (n + 1) (.all (before ++ (name, inner) :: after)) odd leaf
  | noConjuncts {n} : Reached table response (n + 1) (.and []) false (.empty true)
  | conjunct {n before inner after odd leaf}
      (hbefore : ∀ spec ∈ before, passes table response n spec = true)
      (hinner : Reached table response n inner odd leaf) :
      Reached table response (n + 1) (.and (before ++ inner :: after)) odd leaf
  | noAlternatives {n} : Reached table response (n + 1) (.or []) false (.empty false)
  | alternative {n before inner after odd leaf}
      (hbefore : ∀ spec ∈ before, passes table response n spec = false)
      (hinner : Reached table response n inner odd leaf) :
      Reached table response (n + 1) (.or (before ++ inner :: after)) odd leaf
  | negated {n inner odd leaf} (hinner : Reached table response n inner odd leaf) :
      Reached table response (n + 1) (.not inner) (!odd) leaf

variable {table : Table} {response : Response} {spec : Spec} {n : Nat}

theorem Predicate.passed_leaf (p : Predicate) (response : Response) :
    (p.leaf response).passed = p.truth response := by
  unfold leaf truth
  cases p.call response <;> rfl

theorem Predicate.leaf_eq (p : Predicate) (response : Response) :
    p.leaf response = .error ∨ ∃ passed, p.leaf response = .verdict passed := by
  unfold leaf
  cases p.call response with
  | error message => exact .inl rfl
  | ok value => exact .inr ⟨_, rfl⟩

theorem passed_judgeCheck_eq (c : Check) (response : Response) (key : String) :
    (judgeCheck c response key).value.passed = (c.run response).isOk := by
  unfold judgeCheck
  cases c.run response <;> rfl

theorem passed_evaluate_key (spec : Spec) (key other : String) :
    (evaluate table n spec response key).value.passed =
      (evaluate table n spec response other).value.passed := by
  induction n generalizing spec key other with
  | zero => rfl
  | succ n ih =>
    cases spec with
    | predicate p => simp only [evaluate, passed_judgePredicate]
    | check c => simp only [evaluate, passed_judgeCheck_eq]
    | named name =>
      cases hname : table.get? name with
      | none => simp only [passed_evaluate_unknown _ _ _ hname]
      | some inner => simp only [evaluate_known _ _ _ hname]
    | all entries => simp only [passed_evaluate_all]
    | and specs => simp only [passed_evaluate_and, ih _ key other]
    | or specs => simp only [passed_evaluate_or, ih _ key other]
    | not inner => simp only [passed_evaluate_not, ih _ key other]

theorem passed_evaluate_eq_passes (spec : Spec) (key : String) :
    (evaluate table n spec response key).value.passed = passes table response n spec :=
  passed_evaluate_key spec key ""

section Level

variable (table response n)

theorem passes_predicate (p : Predicate) :
    passes table response (n + 1) (.predicate p) = (p.leaf response).passed := by
  rw [p.passed_leaf]
  exact passed_judgePredicate p response ""

theorem passes_check (c : Check) :
    passes table response (n + 1) (.check c) = (c.run response).isOk :=
  passed_judgeCheck_eq c response ""

theorem passes_unknown {table : Table} {name : String} (h : table.get? name = none) :
    passes table response (n + 1) (.named name) = false :=
  passed_evaluate_unknown n response "" h

theorem passes_known {table : Table} {name : String} {inner : Spec}
    (h : table.get? name = some inner) :
    passes table response (n + 1) (.named name) = passes table response n inner := by
  rw [passes, evaluate_known n response "" h, passed_evaluate_eq_passes]

theorem passes_all (entries : List (String × Spec)) :
    passes table response (n + 1) (.all entries) =
      entries.all fun entry => passes table response n entry.2 := by
  simp only [passes, passed_evaluate_all, passed_evaluate_key _ _ ""]

theorem passes_and (specs : List Spec) :
    passes table response (n + 1) (.and specs) = specs.all (passes table response n) :=
  passed_evaluate_and table n response "" specs

theorem passes_or (specs : List Spec) :
    passes table response (n + 1) (.or specs) = specs.any (passes table response n) :=
  passed_evaluate_or table n response "" specs

theorem passes_not (inner : Spec) :
    passes table response (n + 1) (.not inner) = !passes table response n inner :=
  passed_evaluate_not table n response "" inner

end Level

theorem exists_first {α : Type} {l : List α} {p : α → Bool} (h : l.any p = true) :
    ∃ before x after, l = before ++ x :: after ∧ p x = true ∧ ∀ y ∈ before, p y = false := by
  obtain ⟨x, hx⟩ := Option.isSome_iff_exists.1 (List.find?_isSome.2 (List.any_eq_true.1 h))
  obtain ⟨hp, before, after, hl, hbefore⟩ := List.find?_eq_some_iff_append.1 hx
  exact ⟨before, x, after, hl, hp, fun y hy => by simpa using hbefore y hy⟩

/-- The first part that does not pass decides on a conjunction; if all pass, any of them does. -/
theorem exists_deciding {α : Type} {l : List α} (hl : l ≠ []) (p : α → Bool) :
    ∃ before x after, l = before ++ x :: after ∧ p x = l.all p ∧ ∀ y ∈ before, p y = true := by
  cases hall : l.all p with
  | true =>
    obtain ⟨x, rest, rfl⟩ := List.exists_cons_of_ne_nil hl
    exact ⟨[], x, rest, rfl, List.all_eq_true.1 hall x List.mem_cons_self, fun _ h => nomatch h⟩
  | false =>
    have hany : l.any (fun x => !p x) = true := by rw [← List.not_all_eq_any_not, hall]; rfl
    obtain ⟨before, x, after, rfl, hx, hbefore⟩ := exists_first hany
    exact ⟨before, x, after, rfl, by simpa using hx, fun y hy => by simpa using hbefore y hy⟩

theorem exists_deciding_any {α : Type} {l : List α} (hl : l ≠ []) (p : α → Bool) :
    ∃ before x after, l = before ++ x :: after ∧ p x = l.any p ∧ ∀ y ∈ before, p y = false := by
  obtain ⟨before, x, after, happend, hx, hbefore⟩ := exists_deciding hl fun y => !p y
  refine ⟨before, x, after, happend, ?_, fun y hy => by simpa using hbefore y hy⟩
  rw [← Bool.not_inj_iff, hx, List.not_any_eq_all_not]

/-- Every verdict is that of a leaf, seen through the negations above it. -/
theorem exists_reached (n : Nat) (spec : Spec) :
    ∃ odd leaf, Reached table response n spec odd leaf ∧
      (leaf.passed ^^ odd) = passes table response n spec := by
  induction n generalizing spec with
  | zero => exact ⟨false, .error, .tooDeep, rfl⟩
  | succ n ih =>
    cases spec with
    | predicate p => exact ⟨false, _, .predicate, by rw [passes_predicate, Bool.xor_false]⟩
    | check c =>
      refine ⟨false, _, .check, ?_⟩
      rw [passes_check, Bool.xor_false]
      rfl
    | named name =>
      cases hname : table.get? name with
      | none =>
        refine ⟨false, .error, .unknown hname, ?_⟩
        rw [passes_unknown _ _ hname]
        rfl
      | some inner =>
        obtain ⟨odd, leaf, hreached, hpassed⟩ := ih inner
        refine ⟨odd, leaf, .known hname hreached, ?_⟩
        rw [passes_known _ _ hname, hpassed]
    | all entries =>
      rw [passes_all]
      by_cases hentries : entries = []
      · subst hentries
        exact ⟨false, _, .noEntries, rfl⟩
      · obtain ⟨before, ⟨name, inner⟩, after, happend, hdecides, hbefore⟩ :=
          exists_deciding hentries fun entry => passes table response n entry.2
        obtain ⟨odd, leaf, hreached, hpassed⟩ := ih inner
        exact ⟨odd, leaf, happend ▸ .entry hbefore hreached, hpassed.trans hdecides⟩
    | and specs =>
      rw [passes_and]
      by_cases hspecs : specs = []
      · subst hspecs
        exact ⟨false, _, .noConjuncts, rfl⟩
      · obtain ⟨before, inner, after, happend, hdecides, hbefore⟩ :=
          exists_deciding hspecs (passes table response n)
        obtain ⟨odd, leaf, hreached, hpassed⟩ := ih inner
        exact ⟨odd, leaf, happend ▸ .conjunct hbefore hreached, hpassed.trans hdecides⟩
    | or specs =>
      rw [passes_or]
      by_cases hspecs : specs = []
      · subst hspecs
        exact ⟨false, _, .noAlternatives, rfl⟩
      · obtain ⟨before, inner, after, happend, hdecides, hbefore⟩ :=
          exists_deciding_any hspecs (passes table response n)
        obtain ⟨odd, leaf, hreached, hpassed⟩ := ih inner
        exact ⟨odd, leaf, happend ▸ .alternative hbefore hreached, hpassed.trans hdecides⟩
    | not inner =>
      obtain ⟨odd, leaf, hreached, hpassed⟩ := ih inner
      refine ⟨!odd, leaf, .negated hreached, ?_⟩
      rw [passes_not, ← hpassed, Bool.xor_not]

/-- No predicate and no check that is reached comes to a verdict. -/
def NothingJudged (table : Table) (response : Response) (levels : Nat) (spec : Spec) : Prop :=
  ∀ odd passed, ¬Reached table response levels spec odd (.verdict passed)

theorem value_of_passes {key : String} (hnothing : NothingJudged table response n spec)
    (hpasses : passes table response n spec = true) :
    (evaluate table n spec response key).value = .pass := by
  induction n generalizing spec key with
  | zero => cases hpasses
  | succ n ih =>
    cases spec with
    | predicate p =>
      rcases p.leaf_eq response with herror | ⟨passed, hverdict⟩
      · rw [passes_predicate, herror] at hpasses
        cases hpasses
      · have hjudged : Reached table response (n + 1) (.predicate p) false (p.leaf response) :=
          .predicate
        exact absurd (hverdict ▸ hjudged) (hnothing false passed)
    | check c => exact absurd .check (hnothing false _)
    | named name =>
      cases hname : table.get? name with
      | none =>
        rw [passes_unknown _ _ hname] at hpasses
        cases hpasses
      | some inner =>
        rw [passes_known _ _ hname] at hpasses
        rw [evaluate_known _ _ _ hname]
        exact ih (fun odd passed h => hnothing odd passed (.known hname h)) hpasses
    | all entries =>
      rw [passes_all, List.all_eq_true] at hpasses
      refine value_judgeEntries_of_pass fun entry hentry => ih ?_ (hpasses entry hentry)
      obtain ⟨before, after, rfl⟩ := List.append_of_mem hentry
      have hbefore := fun other hother => hpasses other (List.mem_append_left _ hother)
      exact fun odd passed h => hnothing odd passed (.entry hbefore h)
    | and specs =>
      rw [passes_and, List.all_eq_true] at hpasses
      refine value_judgeAnd_of_pass fun inner hinner => ih ?_ (hpasses inner hinner)
      obtain ⟨before, after, rfl⟩ := List.append_of_mem hinner
      have hbefore := fun other hother => hpasses other (List.mem_append_left _ hother)
      exact fun odd passed h => hnothing odd passed (.conjunct hbefore h)
    | or specs =>
      rw [← passed_evaluate_eq_passes _ key] at hpasses
      exact value_judgeOr_of_passed hpasses
    | not inner =>
      rw [passes_not, Bool.not_eq_true', ← passed_evaluate_eq_passes _ key] at hpasses
      rw [evaluate, Noted.value_bind, hpasses]
      rfl

/-- Where all leaves are errors, or combinations of nothing, validation passes only because of an
error under an odd number of negations, or because of such a combination. It does pass if there are
errors alone and all of them are negated so, and whenever it passes it tells of none of them. -/
theorem errors_of_validate (table : Table) (spec : Spec) (response : Response)
    (hnothing : NothingJudged table response levelLimit spec) :
    ((validate table spec response).value.passed = true →
      Reached table response levelLimit spec true .error ∨
        ∃ passed, Reached table response levelLimit spec (!passed) (.empty passed)) ∧
    ((∀ odd leaf, Reached table response levelLimit spec odd leaf → odd = true ∧ leaf = .error) →
      (validate table spec response).value.passed = true) ∧
    ((validate table spec response).value.passed = true →
      (validate table spec response).value.diagnostics = []) := by
  have hpassed : (validate table spec response).value.passed =
      passes table response levelLimit spec := passed_evaluate_eq_passes spec "validate"
  -- The leaf that decides: an error counts as false, or as true if it is negated.
  obtain ⟨odd, leaf, hreached, hleaf⟩ := exists_reached levelLimit spec
  rw [hpassed, ← hleaf]
  refine ⟨fun hpasses => ?_, fun hall => ?_, fun hpasses => ?_⟩
  · cases leaf with
    | error =>
      rw [Leaf.passed, Bool.false_xor] at hpasses
      exact .inl (hpasses ▸ hreached)
    | empty passed =>
      have hodd : odd = !passed := by
        cases passed <;> cases odd <;> first | rfl | cases hpasses
      exact .inr ⟨passed, hodd ▸ hreached⟩
    | verdict passed => exact absurd hreached (hnothing odd passed)
  · obtain ⟨rfl, rfl⟩ := hall odd leaf hreached
    rfl
  · have hvalue : (validate table spec response).value = .pass :=
      value_of_passes hnothing (hleaf.symm.trans hpasses)
    rw [hvalue]
    rfl

namespace Sample

def misspelt : Spec := .not (.named "succes")

end Sample

theorem errors_of_sample_validate :
    NothingJudged builtin (.ofStatus 200) levelLimit Sample.misspelt ∧
    (validate builtin Sample.misspelt (.ofStatus 200)).value.passed = true ∧
    (validate builtin Sample.misspelt (.ofStatus 200)).value.diagnostics = [] := by
  have hunknown : builtin.get? "succes" = none := by decide
  have hreached (odd : Bool) (leaf : Leaf)
      (h : Reached builtin (.ofStatus 200) levelLimit Sample.misspelt odd leaf) :
      odd = true ∧ leaf = .error := by
    cases h with
    | negated hinner =>
      cases hinner with
      | unknown _ => exact ⟨rfl, rfl⟩
      | known hknown _ =>
        rw [hunknown] at hknown
        cases hknown
  have hnothing : NothingJudged builtin (.ofStatus 200) levelLimit Sample.misspelt :=
    fun odd passed h => nomatch (hreached odd (.verdict passed) h).2
  obtain ⟨-, hpasses, hsilent⟩ := errors_of_validate builtin Sample.misspelt (.ofStatus 200) hnothing
  exact ⟨hnothing, hpasses hreached, hsilent (hpasses hreached)⟩

end HttpScenario.Validation
