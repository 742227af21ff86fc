import HttpScenario.Proofs.Fields
import HttpScenario.Proofs.Validation.Errors

/-! Derivations of specifications without negation. References may go round in circles: a circle is no
reason for anything, since a derivation is finite. Validation passes exactly where there is a
derivation, and the limit on nesting only ever cuts derivations off. -/

namespace HttpScenario.Validation

inductive Fact
  | predicate (p : Predicate)
  | check (c : Check)

def Fact.Holds (response : Response) : Fact → Prop
  | predicate p => p.truth response = true
  | check c => c.Holds response

inductive Follows (table : Table) (facts : Fact → Prop) (derived : Spec → Prop) : Spec → Prop
  | predicate {p} (h : facts (.predicate p)) : Follows table facts derived (.predicate p)
  | check {c} (h : facts (.check c)) : Follows table facts derived (.check c)
  | definition {name inner} (hname : table.get? name = some inner) (h : derived inner) :
      Follows table facts derived (.named name)
  | all {entries} (h : ∀ entry ∈ entries, derived entry.2) : Follows table facts derived (.all entries)
  | and {specs} (h : ∀ spec ∈ specs, derived spec) : Follows table facts derived (.and specs)
  | or {specs inner} (hmem : inner ∈ specs) (h : derived inner) : Follows table facts derived (.or specs)

/-- There is a derivation that ends at most so many levels below the root. -/
def DerivesWithin (table : Table) (facts : Fact → Prop) : Nat → Spec → Prop
  | 0 => Follows table facts fun _ => False
  | n + 1 => Follows table facts (DerivesWithin table facts n)

inductive Positive : Spec → Prop
  | predicate (p) : Positive (.predicate p)
  | check (c) : Positive (.check c)
  | named (name) : Positive (.named name)
  | all {entries} (h : ∀ entry ∈ entries, Positive entry.2) : Positive (.all entries)
  | and {specs} (h : ∀ spec ∈ specs, Positive spec) : Positive (.and specs)
  | or {specs} (h : ∀ spec ∈ specs, Positive spec) : Positive (.or specs)

variable {table : Table} {facts others : Fact → Prop} {derived derived' : Spec → Prop}
  {response : Response} {spec inner : Spec} {name : String} {n : Nat}

theorem Positive.of_below (htable : ∀ entry ∈ table, Positive entry.2) (h : Positive spec)
    (hbelow : Below table inner spec) : Positive inner := by
  cases hbelow with
  | definition hname => exact htable _ (Fields.mem_of_get? hname)
  | entry hmem =>
    cases h with
    | all h => exact h _ hmem
  | conjunct hmem =>
    cases h with
    | and h => exact h _ hmem
  | alternative hmem =>
    cases h with
    | or h => exact h _ hmem
  | negated => cases h

section Passing

theorem follows_of_passes (hspec : Positive spec)
    (hbelow : ∀ inner, Below table inner spec → passes table response n inner = true →
      derived inner)
    (hpasses : passes table response (n + 1) spec = true) :
    Follows table (Fact.Holds response) derived spec := by
  cases hspec with
  | predicate p =>
    rw [passes_predicate, p.passed_leaf] at hpasses
    exact .predicate hpasses
  | check c =>
    have hjudged : (judgeCheck c response "").value.passed = true := hpasses
    exact .check (passed_judgeCheck.1 hjudged)
  | named name =>
    cases hname : table.get? name with
    | none =>
      rw [passes_unknown _ _ hname] at hpasses
      cases hpasses
    | some inner =>
      rw [passes_known _ _ hname] at hpasses
      exact .definition hname (hbelow inner (.definition hname) hpasses)
  | all h =>
    rw [passes_all, List.all_eq_true] at hpasses
    exact .all fun entry hentry => hbelow _ (.entry hentry) (hpasses entry hentry)
  | and h =>
    rw [passes_and, List.all_eq_true] at hpasses
    exact .and fun inner hinner => hbelow inner (.conjunct hinner) (hpasses inner hinner)
  | or h =>
    rw [passes_or, List.any_eq_true] at hpasses
    obtain ⟨inner, hinner, hpassed⟩ := hpasses
    exact .or hinner (hbelow inner (.alternative hinner) hpassed)

theorem passes_of_follows
    (hbelow : ∀ inner, derived inner → passes table response n inner = true)
    (h : Follows table (Fact.Holds response) derived spec) :
    passes table response (n + 1) spec = true := by
  cases h with
  | @predicate p h =>
    rw [passes_predicate, p.passed_leaf]
    exact h
  | @check c h =>
    have hjudged : (judgeCheck c response "").value.passed = true := passed_judgeCheck.2 h
    exact hjudged
  | definition hname h =>
    rw [passes_known _ _ hname]
    exact hbelow _ h
  | all h =>
    rw [passes_all, List.all_eq_true]
    intro entry hentry
    exact hbelow entry.2 (h entry hentry)
  | and h =>
    rw [passes_and, List.all_eq_true]
    intro inner hinner
    exact hbelow inner (h inner hinner)
  | or hinner h =>
    rw [passes_or, List.any_eq_true]
    exact ⟨_, hinner, hbelow _ h⟩

/-- Where nothing is negated, what passes is what can be derived: the levels that are left bound the
derivation, and below the last of them nothing passes and nothing is derived. -/
theorem passes_iff_derivesWithin (htable : ∀ entry ∈ table, Positive entry.2)
    (hspec : Positive spec) :
    passes table response (n + 1) spec = true ↔
      DerivesWithin table (Fact.Holds response) n spec := by
  constructor
  · intro h
    induction n generalizing spec with
    | zero =>
      refine follows_of_passes hspec ?_ h
      intro inner _ hinner
      cases hinner
    | succ n ih =>
      refine follows_of_passes hspec ?_ h
      intro inner hbelow hinner
      exact ih (hspec.of_below htable hbelow) hinner
  · intro h
    -- Negation plays no part in this direction.
    clear hspec htable
    induction n generalizing spec with
    | zero => exact passes_of_follows (fun inner hinner => hinner.elim) h
    | succ n ih => exact passes_of_follows (fun inner hinner => ih hinner) h

end Passing

theorem Follows.mono (h : Follows table facts derived spec) (hfacts : ∀ f, facts f → others f)
    (hderived : ∀ inner, derived inner → derived' inner) : Follows table others derived' spec := by
  cases h with
  | predicate h => exact .predicate (hfacts _ h)
  | check h => exact .check (hfacts _ h)
  | definition hname h => exact .definition hname (hderived _ h)
  | all h => exact .all fun entry hentry => hderived _ (h entry hentry)
  | and h => exact .and fun inner hinner => hderived _ (h inner hinner)
  | or hmem h => exact .or hmem (hderived _ h)

theorem DerivesWithin.mono (h : DerivesWithin table facts n spec)
    (hfacts : ∀ f, facts f → others f) : DerivesWithin table others n spec := by
  induction n generalizing spec with
  | zero => exact Follows.mono h hfacts fun _ => id
  | succ n ih => exact Follows.mono h hfacts fun _ => ih

section Support

theorem exists_support {α : Type} {Q : List Fact → α → Prop}
    (hmono : ∀ used more x, used ⊆ more → Q used x → Q more x) {l : List α}
    (h : ∀ x ∈ l, ∃ used : List Fact, (∀ f ∈ used, facts f) ∧ Q used x) :
    ∃ used : List Fact, (∀ f ∈ used, facts f) ∧ ∀ x ∈ l, Q used x := by
  induction l with
  | nil => exact ⟨[], nofun, nofun⟩
  | cons x rest ih =>
    obtain ⟨first, hfirst, hx⟩ := h x List.mem_cons_self
    obtain ⟨later, hlater, hrest⟩ := ih fun y hy => h y (List.mem_cons_of_mem x hy)
    refine ⟨first ++ later, List.forall_mem_append.2 ⟨hfirst, hlater⟩, ?_⟩
    refine List.forall_mem_cons.2 ⟨hmono _ _ x (List.subset_append_left first later) hx, ?_⟩
    intro y hy
    exact hmono _ _ y (List.subset_append_right first later) (hrest y hy)

theorem Follows.exists_support {Q : List Fact → Spec → Prop}
    (hmono : ∀ used more inner, used ⊆ more → Q used inner → Q more inner)
    (h : Follows table facts derived spec)
    (hbelow : ∀ inner, derived inner →
      ∃ used : List Fact, (∀ f ∈ used, facts f) ∧ Q used inner) :
    ∃ used : List Fact, (∀ f ∈ used, facts f) ∧ Follows table (· ∈ used) (Q used) spec := by
  cases h with
  | predicate h =>
    exact ⟨[_], List.forall_mem_singleton.2 h, .predicate List.mem_cons_self⟩
  | check h =>
    exact ⟨[_], List.forall_mem_singleton.2 h, .check List.mem_cons_self⟩
  | definition hname h =>
    obtain ⟨used, hused, hinner⟩ := hbelow _ h
    exact ⟨used, hused, .definition hname hinner⟩
  | all h =>
    have hentries := Validation.exists_support (Q := fun used entry => Q used entry.2)
      (fun used more entry => hmono used more entry.2) fun entry hentry => hbelow _ (h entry hentry)
    obtain ⟨used, hused, hinner⟩ := hentries
    exact ⟨used, hused, .all hinner⟩
  | and h =>
    have hspecs := Validation.exists_support hmono fun inner hinner => hbelow _ (h inner hinner)
    obtain ⟨used, hused, hinner⟩ := hspecs
    exact ⟨used, hused, .and hinner⟩
  | or hmem h =>
    obtain ⟨used, hused, hinner⟩ := hbelow _ h
    exact ⟨used, hused, .or hmem hinner⟩

theorem DerivesWithin.exists_support (h : DerivesWithin table facts n spec) :
    ∃ used : List Fact, (∀ f ∈ used, facts f) ∧ DerivesWithin table (· ∈ used) n spec := by
  induction n generalizing spec with
  | zero => exact Follows.exists_support (fun _ _ _ _ => id) h fun _ hinner => hinner.elim
  | succ n ih =>
    refine Follows.exists_support ?_ h fun inner hinner => ih hinner
    intro used more inner hsub hinner
    exact hinner.mono fun f hf => hsub hf

end Support

section Circles

theorem Follows.without (h : Follows table facts derived spec) (hspec : spec ≠ .named name) :
    Follows (table.without name) facts derived spec := by
  cases h with
  | predicate h => exact .predicate h
  | check h => exact .check h
  | all h => exact .all h
  | and h => exact .and h
  | or hmem h => exact .or hmem h
  | @definition other inner hname h =>
    have hother : other ≠ name := fun heq => hspec (congrArg Spec.named heq)
    exact .definition ((Fields.get?_without_of_ne hother table).trans hname) h

theorem DerivesWithin.without (h : DerivesWithin table facts n spec)
    (hname : ∀ k ≤ n, ¬DerivesWithin table facts k (.named name)) :
    DerivesWithin (table.without name) facts n spec := by
  induction n generalizing spec with
  | zero =>
    refine Follows.without h ?_
    rintro rfl
    exact hname 0 (Nat.le_refl 0) h
  | succ n ih =>
    have hinner : ∀ inner, DerivesWithin table facts n inner →
        DerivesWithin (table.without name) facts n inner :=
      fun inner hinner => ih hinner fun k hk => hname k (Nat.le_succ_of_le hk)
    have hstep : Follows table facts (DerivesWithin (table.without name) facts n) spec :=
      Follows.mono h (fun _ => id) hinner
    refine hstep.without ?_
    rintro rfl
    exact hname (n + 1) (Nat.le_refl _) h

/-- The shortest derivation of a name does not go through the name again. -/
theorem DerivesWithin.exists_without (h : DerivesWithin table facts n (.named name)) :
    ∃ inner k, table.get? name = some inner ∧ k < n ∧
      DerivesWithin (table.without name) facts k inner := by
  induction n using Nat.strongRecOn with
  | ind n ih =>
    -- Of a derivation for which there is a shorter one nothing is known but that; below a shortest
    -- one the name cannot come up.
    by_cases hshorter : ∃ k < n, DerivesWithin table facts k (.named name)
    · obtain ⟨k, hk, hshort⟩ := hshorter
      obtain ⟨inner, j, hinner, hj, hderives⟩ := ih k hk hshort
      exact ⟨inner, j, hinner, Nat.lt_trans hj hk, hderives⟩
    · cases n with
      | zero =>
        cases h with
        | definition _ hnone => exact hnone.elim
      | succ n =>
        cases h with
        | @definition _ inner hinner hderives =>
          refine ⟨inner, n, hinner, Nat.lt_succ_self n, hderives.without ?_⟩
          intro k hk hname
          exact hshorter ⟨k, Nat.lt_succ_of_le hk, hname⟩

end Circles

/-- Where nothing is negated, a response passes exactly if that can be derived within 32 levels. Then
finitely many facts about the response are enough, and a name passes only if it can be derived
without recourse to itself. -/
theorem derivation_of_validate (table : Table) (htable : ∀ entry ∈ table, Positive entry.2)
    (spec : Spec) (hspec : Positive spec) (response : Response) :
    ((validate table spec response).value.passed = true ↔
      DerivesWithin table (Fact.Holds response) 32 spec) ∧
    ((validate table spec response).value.passed = true →
      ∃ used : List Fact, (∀ f ∈ used, f.Holds response) ∧ DerivesWithin table (· ∈ used) 32 spec ∧
        ∀ other, (∀ f ∈ used, f.Holds other) → (validate table spec other).value.passed = true) ∧
    ∀ name, (validate table (.named name) response).value.passed = true →
      ∃ inner n, table.get? name = some inner ∧ n < 32 ∧
        DerivesWithin (table.without name) (Fact.Holds response) n inner := by
  have hpassed (spec : Spec) (hspec : Positive spec) (response : Response) :
      (validate table spec response).value.passed = true ↔
        DerivesWithin table (Fact.Holds response) 32 spec := by
    rw [← passes_iff_derivesWithin htable hspec, ← passed_evaluate_eq_passes spec "validate"]
    rfl
  refine ⟨hpassed spec hspec response, ?_, ?_⟩
  · intro h
    obtain ⟨used, hused, hderives⟩ := ((hpassed spec hspec response).1 h).exists_support
    refine ⟨used, hused, hderives, ?_⟩
    intro other hother
    exact (hpassed spec hspec other).2 (hderives.mono hother)
  · intro name h
    exact ((hpassed (.named name) (.named name) response).1 h).exists_without

namespace Sample

/-- A name that holds for another reason than itself, and one that does not. -/
def circular : Table :=
  [("either", .or [.named "either", .check (.status 200)]),
   ("both", .and [.check (.status 200), .named "both"])]

end Sample

theorem derivation_of_sample_validate :
    (∀ entry ∈ Sample.circular, Positive entry.2) ∧ Positive (.named "either") ∧
    DerivesWithin Sample.circular (Fact.Holds (.ofStatus 200)) 32 (.named "either") ∧
    (validate Sample.circular (.named "both") (.ofStatus 200)).value.passed = false := by
  have htable : ∀ entry ∈ Sample.circular, Positive entry.2 := by
    refine List.forall_mem_cons.2 ⟨.or ?_, List.forall_mem_singleton.2 (.and ?_)⟩
    · exact List.forall_mem_cons.2 ⟨.named _, List.forall_mem_singleton.2 (.check _)⟩
    · exact List.forall_mem_cons.2 ⟨.check _, List.forall_mem_singleton.2 (.named _)⟩
  obtain ⟨hpassed, -, hsupport⟩ :=
    derivation_of_validate Sample.circular htable (.named "either") (.named _) (.ofStatus 200)
  refine ⟨htable, .named _, hpassed.1 rfl, Bool.eq_false_iff.2 fun hboth => ?_⟩
  obtain ⟨inner, n, hinner, -, hderives⟩ := hsupport "both" hboth
  -- The definition of the name is a conjunction with the name itself, of which nothing is left.
  obtain rfl := Option.some.inj hinner
  cases n with
  | zero =>
    cases hderives with
    | and h => exact h (.named "both") (List.mem_cons_of_mem _ List.mem_cons_self)
  | succ n =>
    cases hderives with
    | and h =>
      have hname := h (.named "both") (List.mem_cons_of_mem _ List.mem_cons_self)
      cases n <;> cases hname with
      | definition hnone _ => cases (Fields.get?_without_self Sample.circular "both").symm.trans hnone

end HttpScenario.Validation
