import HttpScenario.Proofs.Validation.Condition

/-! The Boolean meaning of specifications. Validation finds out what a specification means as long as
the levels of nesting suffice for all there is to it, whichever parts it skips on the way. -/

namespace HttpScenario.Validation

def Predicate.truth (predicate : Predicate) (response : Response) : Bool :=
  match predicate.call response with
  | .ok value => value.isTruthy
  | .error _ => false

/-- The meaning of a specification that can be unfolded completely: all of its parts have one. -/
inductive Means (table : Table) (response : Response) : Spec → Bool → Prop
  | predicate (p) : Means table response (.predicate p) (p.truth response)
  | check {c b} (h : b = true ↔ c.Holds response) : Means table response (.check c) b
  | unknown {name} (h : table.get? name = none) : Means table response (.named name) false
  | known {name inner b} (h : table.get? name = some inner) (hinner : Means table response inner b) :
      Means table response (.named name) b
  | all {entries} (value : String × Spec → Bool)
      (h : ∀ entry ∈ entries, Means table response entry.2 (value entry)) :
      Means table response (.all entries) (entries.all value)
  | and {specs} (value : Spec → Bool) (h : ∀ spec ∈ specs, Means table response spec (value spec)) :
      Means table response (.and specs) (specs.all value)
  | or {specs} (value : Spec → Bool) (h : ∀ spec ∈ specs, Means table response spec (value spec)) :
      Means table response (.or specs) (specs.any value)
  | not {inner b} (h : Means table response inner b) : Means table response (.not inner) (!b)

/-- The specification one level below another: a part of it, or what its name is registered for. -/
inductive Below (table : Table) : Spec → Spec → Prop
  | definition {name inner} (h : table.get? name = some inner) : Below table inner (.named name)
  | entry {entries name inner} (h : (name, inner) ∈ entries) : Below table inner (.all entries)
  | conjunct {specs inner} (h : inner ∈ specs) : Below table inner (.and specs)
  | alternative {specs inner} (h : inner ∈ specs) : Below table inner (.or specs)
  | negated {inner} : Below table inner (.not inner)

/-- Complete unfolding ends at most so many levels below the root. -/
def UnfoldsWithin (table : Table) : Nat → Spec → Prop
  | 0, spec => ∀ inner, ¬Below table inner spec
  | n + 1, spec => ∀ inner, Below table inner spec → UnfoldsWithin table n inner

variable {table others : Table} {response : Response} {spec inner other : Spec} {a b : Bool}
  {n : Nat} {key : String}

@[simp]
theorem not_below_predicate {p : Predicate} : ¬Below table inner (.predicate p) := nofun

@[simp]
theorem not_below_check {c : Check} : ¬Below table inner (.check c) := nofun

@[simp]
theorem below_named_iff {name : String} :
    Below table inner (.named name) ↔ table.get? name = some inner :=
  ⟨fun | .definition h => h, .definition⟩

@[simp]
theorem below_all_iff {entries : List (String × Spec)} :
    Below table inner (.all entries) ↔ inner ∈ entries.map Prod.snd := by
  constructor
  · rintro (_ | h)
    exact List.mem_map.mpr ⟨_, h, rfl⟩
  · intro h
    obtain ⟨entry, hentry, rfl⟩ := List.mem_map.mp h
    exact .entry hentry

@[simp]
theorem below_and_iff {specs : List Spec} : Below table inner (.and specs) ↔ inner ∈ specs :=
  ⟨fun | .conjunct h => h, .conjunct⟩

@[simp]
theorem below_or_iff {specs : List Spec} : Below table inner (.or specs) ↔ inner ∈ specs :=
  ⟨fun | .alternative h => h, .alternative⟩

@[simp]
theorem below_not_iff : Below table inner (.not spec) ↔ inner = spec :=
  ⟨fun | .negated => rfl, fun h => h ▸ .negated⟩

theorem all_eq_of_forall_mem {α : Type} {l : List α} {p q : α → Bool} (h : ∀ x ∈ l, p x = q x) :
    l.all p = l.all q := by
  rw [Bool.eq_iff_iff, List.all_eq_true, List.all_eq_true]
  exact forall₂_congr fun x hx => by rw [h x hx]

theorem any_eq_of_forall_mem {α : Type} {l : List α} {p q : α → Bool} (h : ∀ x ∈ l, p x = q x) :
    l.any p = l.any q := by
  rw [← Bool.not_inj_iff, List.not_any_eq_all_not, List.not_any_eq_all_not]
  exact all_eq_of_forall_mem fun x hx => by rw [h x hx]

theorem Means.unique (ha : Means table response spec a) (hb : Means table response spec b) :
    a = b := by
  induction ha generalizing b with
  | predicate p =>
    cases hb
    rfl
  | check h =>
    cases hb with
    | check h' => exact Bool.eq_iff_iff.mpr (h.trans h'.symm)
  | unknown h => cases hb with
    | unknown _ => rfl
    | known h' _ => cases h.symm.trans h'
  | known h _ ih => cases hb with
    | unknown h' => cases h.symm.trans h'
    | known h' hinner =>
      cases h.symm.trans h'
      exact ih hinner
  | all value _ ih => cases hb with
    | all value' h' => exact all_eq_of_forall_mem fun entry hentry => ih entry hentry (h' entry hentry)
  | and value _ ih => cases hb with
    | and value' h' => exact all_eq_of_forall_mem fun spec hspec => ih spec hspec (h' spec hspec)
  | or value _ ih => cases hb with
    | or value' h' => exact any_eq_of_forall_mem fun spec hspec => ih spec hspec (h' spec hspec)
  | not _ ih => cases hb with
    | not h' => rw [ih h']

theorem Means.eq_iff (h : Means table response spec a) : a = b ↔ Means table response spec b :=
  ⟨fun heq => heq ▸ h, h.unique⟩

theorem passed_judgePredicate (p : Predicate) (response : Response) (key : String) :
    (judgePredicate p response key).value.passed = p.truth response := by
  unfold judgePredicate Predicate.truth
  split <;> simp_all [Verdict.pass, Verdict.fail, Json.isTruthy]

theorem passed_judgeEntries (judge : Spec → String → Judgement) (entries : List (String × Spec)) :
    (judgeEntries judge entries).value.passed =
      entries.all fun entry => (judge entry.2 entry.1).value.passed := by
  induction entries with
  | nil => rfl
  | cons entry rest ih =>
    simp only [judgeEntries, Noted.value_bind, List.all_cons, ← ih]
    cases h : (judge entry.2 entry.1).value.passed <;> simp [Verdict.after]

theorem passed_judgeAnd (judge : Spec → Judgement) (specs : List Spec) :
    (judgeAnd judge specs).value.passed = specs.all fun spec => (judge spec).value.passed := by
  induction specs with
  | nil => rfl
  | cons spec rest ih =>
    simp only [judgeAnd, Noted.value_bind, List.all_cons, ← ih]
    cases h : (judge spec).value.passed <;> simp [Verdict.after, h]

theorem passed_judgeOr (judge : Spec → Judgement) (key : String) (failures : List Diagnostic)
    (specs : List Spec) : (judgeOr judge key failures specs).value.passed =
      specs.any fun spec => (judge spec).value.passed := by
  induction specs generalizing failures with
  | nil => rfl
  | cons spec rest ih =>
    simp only [judgeOr, Noted.value_bind, List.any_cons]
    cases h : (judge spec).value.passed <;> simp [Verdict.pass, ih]

section Levels

variable (table : Table) (n : Nat) (response : Response) (key : String)

theorem passed_evaluate_all (entries : List (String × Spec)) :
    (evaluate table (n + 1) (.all entries) response key).value.passed =
      entries.all fun entry => (evaluate table n entry.2 response entry.1).value.passed :=
  passed_judgeEntries _ entries

theorem passed_evaluate_and (specs : List Spec) :
    (evaluate table (n + 1) (.and specs) response key).value.passed =
      specs.all fun spec => (evaluate table n spec response key).value.passed :=
  passed_judgeAnd _ specs

theorem passed_evaluate_or (specs : List Spec) :
    (evaluate table (n + 1) (.or specs) response key).value.passed =
      specs.any fun spec => (evaluate table n spec response key).value.passed :=
  passed_judgeOr _ key [] specs

theorem passed_evaluate_not (inner : Spec) :
    (evaluate table (n + 1) (.not inner) response key).value.passed =
      !(evaluate table n inner response key).value.passed := by
  simp only [evaluate, Noted.value_bind]
  cases (evaluate table n inner response key).value.passed <;> rfl

theorem evaluate_known {table : Table} {name : String} {inner : Spec}
    (h : table.get? name = some inner) :
    evaluate table (n + 1) (.named name) response key = evaluate table n inner response name := by
  simp only [evaluate, h]

theorem passed_evaluate_unknown {table : Table} {name : String} (h : table.get? name = none) :
    (evaluate table (n + 1) (.named name) response key).value.passed = false := by
  simp only [evaluate, h]
  rfl

end Levels

/-- One level: if what lies below is judged by its meaning, so is the whole. -/
theorem means_evaluate_succ
    (h : ∀ inner key, Below table inner spec →
      Means table response inner (evaluate table n inner response key).value.passed) :
    Means table response spec (evaluate table (n + 1) spec response key).value.passed := by
  cases spec with
  | predicate p =>
    simp only [evaluate, passed_judgePredicate]
    exact .predicate p
  | check c =>
    simp only [evaluate]
    exact .check passed_judgeCheck
  | named name =>
    cases hname : table.get? name with
    | none =>
      rw [passed_evaluate_unknown n response key hname]
      exact .unknown hname
    | some inner =>
      rw [evaluate_known n response key hname]
      exact .known hname (h inner name (.definition hname))
  | all entries =>
    rw [passed_evaluate_all]
    exact .all _ fun entry hentry => h entry.2 entry.1 (.entry hentry)
  | and specs =>
    rw [passed_evaluate_and]
    exact .and _ fun spec hspec => h spec key (.conjunct hspec)
  | or specs =>
    rw [passed_evaluate_or]
    exact .or _ fun spec hspec => h spec key (.alternative hspec)
  | not inner =>
    rw [passed_evaluate_not]
    exact .not (h inner key .negated)

theorem means_evaluate (h : UnfoldsWithin table n spec) (response : Response) (key : String) :
    Means table response spec (evaluate table (n + 1) spec response key).value.passed := by
  induction n generalizing spec key with
  | zero => exact means_evaluate_succ fun inner _ hbelow => absurd hbelow (h inner)
  | succ n ih => exact means_evaluate_succ fun inner key hbelow => ih (h inner hbelow) key

theorem UnfoldsWithin.of_below (h : UnfoldsWithin table n spec)
    (hbelow : ∀ inner, Below table inner other → Below table inner spec) :
    UnfoldsWithin table n other := by
  cases n with
  | zero => exact fun inner hinner => h inner (hbelow inner hinner)
  | succ n => exact fun inner hinner => h inner (hbelow inner hinner)

theorem UnfoldsWithin.succ (h : UnfoldsWithin table n spec) : UnfoldsWithin table (n + 1) spec := by
  induction n generalizing spec with
  | zero => exact fun inner hbelow => absurd hbelow (h inner)
  | succ n ih => exact fun inner hbelow => ih (h inner hbelow)

theorem UnfoldsWithin.mono {m : Nat} (h : UnfoldsWithin table n spec) (hle : n ≤ m) :
    UnfoldsWithin table m spec := by
  induction hle with
  | refl => exact h
  | step _ ih => exact ih.succ

theorem passed_evaluate_eq {m : Nat} (h : UnfoldsWithin table n spec) (hle : n ≤ m)
    (response : Response) (key other : String) :
    (evaluate table (m + 1) spec response other).value.passed =
      (evaluate table (n + 1) spec response key).value.passed :=
  (means_evaluate (h.mono hle) response other).unique (means_evaluate h response key)

end HttpScenario.Validation
