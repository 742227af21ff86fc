import HttpScenario.Proofs.Schema.Meaning

/-! The order in which data are checked. At one node the aspects and the steps to the nodes below
share one numbering; what is below a step comes as a whole between the aspects before and after. -/

namespace HttpScenario.Schema

def Aspect.rank : Aspect → Nat
  | kind => 0
  | allowed => 1
  | required _ => 2
  | minItems => 4
  | maxItems => 5
  | minLength => 7
  | maxLength => 8
  | pattern => 9
  | minimum => 10
  | maximum => 11
  | custom => 12

def Step.rank : Step → Nat
  | property _ => 3
  | item _ => 6

inductive Aspect.Before : Aspect → Aspect → Prop
  | rank {a b : Aspect} (h : a.rank < b.rank) : Before a b
  | required {i j} (h : i < j) : Before (required i) (required j)

/-- Properties come in the order of their names, items in that of their indices. -/
inductive Step.Before : Step → Step → Prop
  | rank {a b : Step} (h : a.rank < b.rank) : Before a b
  | property {a b} (h : a < b) : Before (property a) (property b)
  | item {i j} (h : i < j) : Before (item i) (item j)

/-- The number of a constraint, or of the first step to it, at the root. -/
def Constraint.rank : Constraint → Nat
  | ⟨[], aspect⟩ => aspect.rank
  | ⟨step :: _, _⟩ => step.rank

open Constraint

inductive Precedes : Constraint → Constraint → Prop
  | aspects {a b} (h : a.Before b) : Precedes ⟨[], a⟩ ⟨[], b⟩
  | down {a : Aspect} {step c} (h : a.rank < step.rank) : Precedes ⟨[], a⟩ (under step c)
  | up {step c} {b : Aspect} (h : step.rank < b.rank) : Precedes (under step c) ⟨[], b⟩
  | apart {step other c d} (h : step.Before other) : Precedes (under step c) (under other d)
  | within {step c d} (h : Precedes c d) : Precedes (under step c) (under step d)

/-- Properties stand in the order of their names, and no name comes twice. -/
inductive Ordered : Schema → Prop
  | node {own properties items} (hnames : (properties.map Prod.fst).Pairwise (· < ·))
      (hproperties : ∀ entry ∈ properties, Ordered entry.2)
      (hitems : ∀ inner, items = some inner → Ordered inner) : Ordered ⟨own, properties, items⟩

variable {step : Step} {aspect : Aspect} {c d : Constraint}

theorem Constraint.rank_lt (c : Constraint) : c.rank < 13 := by
  obtain ⟨_ | ⟨step, place⟩, aspect⟩ := c
  · cases aspect <;> simp [rank, Aspect.rank]
  · cases step <;> simp [rank, Step.rank]

theorem Precedes.rank_le (h : Precedes c d) : c.rank ≤ d.rank := by
  cases h with
  | aspects h => cases h with
    | rank h => exact Nat.le_of_lt h
    | required h => exact Nat.le_refl _
  | down h => exact Nat.le_of_lt h
  | up h => exact Nat.le_of_lt h
  | apart h => cases h with
    | rank h => exact Nat.le_of_lt h
    | property h => exact Nat.le_refl _
    | item h => exact Nat.le_refl _
  | within h => exact Nat.le_refl _

theorem Precedes.of_under (h : Precedes c (d.under step)) :
    (∃ aspect, c = ⟨[], aspect⟩ ∧ aspect.rank < step.rank) ∨
      ∃ other b, c = under other b ∧ (other.Before step ∨ other = step ∧ Precedes b d) := by
  generalize hd : d.under step = e at h
  cases h with
  | aspects h => simp [under] at hd
  | down h =>
    obtain ⟨rfl, -⟩ := under_inj.mp hd
    exact .inl ⟨_, rfl, h⟩
  | up h => simp [under] at hd
  | apart h =>
    obtain ⟨rfl, -⟩ := under_inj.mp hd
    exact .inr ⟨_, _, rfl, .inl h⟩
  | within h =>
    obtain ⟨rfl, rfl⟩ := under_inj.mp hd
    exact .inr ⟨_, _, rfl, .inr ⟨rfl, h⟩⟩

theorem Precedes.of_required {i j : Nat} (h : Precedes ⟨[], .required i⟩ ⟨[], .required j⟩) :
    i < j := by
  cases h with
  | aspects h => cases h with
    | rank h => exact absurd h (Nat.lt_irrefl 2)
    | required h => exact h

theorem not_precedes_self (aspect : Aspect) : ¬Precedes ⟨[], aspect⟩ ⟨[], aspect⟩ := by
  rintro (⟨h | h⟩)
  · exact Nat.lt_irrefl _ h
  · exact Nat.lt_irrefl _ h

theorem Step.Before.irrefl {step : Step} : ¬step.Before step := by
  rintro (h | h | h)
  · exact Nat.lt_irrefl _ h
  · exact String.lt_irrefl _ h
  · exact Nat.lt_irrefl _ h

theorem Step.Before.asymm {a b : Step} (h : a.Before b) : ¬b.Before a := by
  rintro (h' | h' | h')
  · cases h with
    | rank h => exact Nat.lt_asymm h h'
    | property h => exact Nat.lt_irrefl _ h'
    | item h => exact Nat.lt_irrefl _ h'
  · cases h with
    | rank h => exact Nat.lt_irrefl _ h
    | property h => exact String.lt_asymm h h'
  · cases h with
    | rank h => exact Nat.lt_irrefl _ h
    | item h => exact Nat.lt_asymm h h'

theorem Aspect.eq_or_required_of_rank_eq {a b : Aspect} (h : a.rank = b.rank) :
    a = b ∨ ∃ i j, a = required i ∧ b = required j := by
  cases a <;> cases b <;> simp_all [Aspect.rank]

theorem Aspect.before_trichotomy (a b : Aspect) : a.Before b ∨ a = b ∨ b.Before a := by
  rcases Nat.lt_trichotomy a.rank b.rank with hlt | heq | hgt
  · exact .inl (.rank hlt)
  · obtain rfl | ⟨i, j, rfl, rfl⟩ := Aspect.eq_or_required_of_rank_eq heq
    · exact .inr (.inl rfl)
    · rcases Nat.lt_trichotomy i j with hlt | rfl | hgt
      · exact .inl (.required hlt)
      · exact .inr (.inl rfl)
      · exact .inr (.inr (.required hgt))
  · exact .inr (.inr (.rank hgt))

theorem Step.before_trichotomy (a b : Step) : a.Before b ∨ a = b ∨ b.Before a := by
  cases a with
  | property a => cases b with
    | property b =>
      by_cases hlt : a < b
      · exact .inl (.property hlt)
      by_cases hgt : b < a
      · exact .inr (.inr (.property hgt))
      · rw [String.le_antisymm (String.not_lt.mp hgt) (String.not_lt.mp hlt)]
        exact .inr (.inl rfl)
    | item j => exact .inl (.rank (by simp [rank]))
  | item i => cases b with
    | property b => exact .inr (.inr (.rank (by simp [rank])))
    | item j =>
      rcases Nat.lt_trichotomy i j with hlt | rfl | hgt
      · exact .inl (.item hlt)
      · exact .inr (.inl rfl)
      · exact .inr (.inr (.item hgt))

theorem rank_ne_rank (aspect : Aspect) (step : Step) : aspect.rank ≠ step.rank := by
  cases aspect <;> cases step <;> simp [Aspect.rank, Step.rank]

theorem eq_of_rank_eq (haspect : ∀ i, aspect ≠ .required i) (h : c.rank = aspect.rank) :
    c = ⟨[], aspect⟩ := by
  obtain ⟨_ | ⟨step, place⟩, other⟩ := c
  · obtain rfl | ⟨i, j, -, hrequired⟩ := Aspect.eq_or_required_of_rank_eq h
    · rfl
    · exact absurd hrequired (haspect j)
  · exact absurd h.symm (rank_ne_rank aspect step)

theorem eq_required_of_rank_eq (h : c.rank = 2) : ∃ i, c = ⟨[], .required i⟩ := by
  obtain ⟨_ | ⟨step, place⟩, aspect⟩ := c
  · cases aspect with
    | required i => exact ⟨i, rfl⟩
    | _ => cases h
  · cases step <;> cases h

theorem precedes_trichotomy (c d : Constraint) : Precedes c d ∨ c = d ∨ Precedes d c := by
  obtain ⟨place, a⟩ := c
  induction place generalizing d with
  | nil =>
    obtain ⟨_ | ⟨step, place⟩, b⟩ := d
    · rcases a.before_trichotomy b with h | rfl | h
      · exact .inl (.aspects h)
      · exact .inr (.inl rfl)
      · exact .inr (.inr (.aspects h))
    · rcases Nat.lt_or_gt_of_ne (rank_ne_rank a step) with h | h
      · exact .inl (.down h (c := ⟨place, b⟩))
      · exact .inr (.inr (.up h (c := ⟨place, b⟩)))
  | cons step place ih =>
    obtain ⟨_ | ⟨other, place'⟩, b⟩ := d
    · rcases Nat.lt_or_gt_of_ne (rank_ne_rank b step) with h | h
      · exact .inr (.inr (.down h (c := ⟨place, a⟩)))
      · exact .inl (.up h (c := ⟨place, a⟩))
    · rcases step.before_trichotomy other with h | rfl | h
      · exact .inl (.apart h (c := ⟨place, a⟩) (d := ⟨place', b⟩))
      · rcases ih ⟨place', b⟩ with h | h | h
        · exact .inl h.within
        · exact .inr (.inl (congrArg (under step) h))
        · exact .inr (.inr h.within)
      · exact .inr (.inr (.apart h (c := ⟨place', b⟩) (d := ⟨place, a⟩)))

end HttpScenario.Schema
