import Mathlib.Algebra.Order.Ring.Nat
import Mathlib.Data.List.Forall2

/-! When computations that can fail have a result: a sequence of them if each has one, and a list of
them if the list of results lines up with it. -/

namespace HttpScenario.Success

variable {α β γ ε δ : Type} {x : Except ε α} {as : List α} {bs : List β}

theorem bind_eq_ok_iff {f : α → Except ε β} {b : β} :
    x >>= f = .ok b ↔ ∃ a, x = .ok a ∧ f a = .ok b := by
  cases x with
  | error e => exact ⟨nofun, fun ⟨_, h, _⟩ => nomatch h⟩
  | ok a => exact ⟨fun h => ⟨a, rfl, h⟩, fun ⟨_, h, hb⟩ => Except.ok.inj h ▸ hb⟩

theorem map_eq_ok_iff {f : α → β} {b : β} : x.map f = .ok b ↔ ∃ a, x = .ok a ∧ f a = b := by
  cases x with
  | error e => exact ⟨nofun, fun ⟨_, h, _⟩ => nomatch h⟩
  | ok a =>
    exact ⟨fun h => ⟨a, rfl, Except.ok.inj h⟩,
      fun ⟨_, h, hb⟩ => congrArg Except.ok (Except.ok.inj h ▸ hb)⟩

theorem mapError_eq_ok_iff {f : ε → δ} {a : α} : x.mapError f = .ok a ↔ x = .ok a := by
  cases x with
  | error e => exact ⟨nofun, nofun⟩
  | ok b =>
    show Except.ok b = Except.ok a ↔ Except.ok b = Except.ok a
    rw [Except.ok.injEq, Except.ok.injEq]

theorem cons_eq_ok_iff {rest : Except ε (List α)} :
    (do
      let a ← x
      let others ← rest
      return a :: others) = .ok as ↔
      ∃ a others, x = .ok a ∧ rest = .ok others ∧ as = a :: others := by
  simp only [bind_eq_ok_iff]
  constructor
  · rintro ⟨a, ha, others, hothers, hcons⟩
    exact ⟨a, others, ha, hothers, (Except.ok.inj hcons).symm⟩
  · rintro ⟨a, others, ha, hothers, rfl⟩
    exact ⟨a, ha, others, hothers, rfl⟩

theorem nil_eq_ok_iff {R : α → β → Prop} :
    (.ok [] : Except ε (List β)) = .ok bs ↔ List.Forall₂ R [] bs := by
  rw [List.forall₂_nil_left_iff, Except.ok.injEq]
  exact eq_comm

theorem mapM_eq_ok_iff {f : α → Except ε β} :
    as.mapM f = .ok bs ↔ List.Forall₂ (fun a b => f a = .ok b) as bs := by
  induction as generalizing bs with
  | nil =>
    exact nil_eq_ok_iff
  | cons a as ih =>
    rw [List.mapM_cons, cons_eq_ok_iff, List.forall₂_cons_left_iff]
    simp only [ih]

theorem forall₂_imp {R S : α → β → Prop} (h : ∀ a ∈ as, ∀ b, R a b → S a b)
    (hrel : List.Forall₂ R as bs) : List.Forall₂ S as bs := by
  induction hrel with
  | nil => exact .nil
  | cons hab _ ih =>
    exact .cons (h _ List.mem_cons_self _ hab) (ih fun a ha => h a (List.mem_cons_of_mem _ ha))

theorem exists_of_forall₂_left {R : α → β → Prop} {a : α} (h : List.Forall₂ R as bs) (ha : a ∈ as) :
    ∃ b ∈ bs, R a b := by
  induction h with
  | nil => exact absurd ha List.not_mem_nil
  | cons hab _ ih =>
    rcases List.mem_cons.1 ha with rfl | ha
    · exact ⟨_, List.mem_cons_self, hab⟩
    · obtain ⟨b, hb, hab⟩ := ih ha
      exact ⟨b, List.mem_cons_of_mem _ hb, hab⟩

theorem exists_of_forall₂_right {R : α → β → Prop} {b : β} (h : List.Forall₂ R as bs)
    (hb : b ∈ bs) : ∃ a ∈ as, R a b := exists_of_forall₂_left h.flip hb

theorem exists_forall₂ {R : α → β → Prop} (h : ∀ a ∈ as, ∃ b, R a b) :
    ∃ bs, List.Forall₂ R as bs := by
  induction as with
  | nil => exact ⟨[], .nil⟩
  | cons a as ih =>
    obtain ⟨b, hab⟩ := h a List.mem_cons_self
    obtain ⟨bs, hrest⟩ := ih fun a ha => h a (List.mem_cons_of_mem _ ha)
    exact ⟨b :: bs, .cons hab hrest⟩

inductive Named (R : α → β → Prop) : String × α → String × β → Prop
  | intro {name a b} (h : R a b) : Named R (name, a) (name, b)

theorem Named.imp {R S : α → β → Prop} {field : String × α} {entry : String × β}
    (h : ∀ b, R field.2 b → S field.2 b) (hnamed : Named R field entry) : Named S field entry := by
  cases hnamed with
  | intro hab => exact .intro (h _ hab)

theorem Named.value {R : α → β → Prop} {field : String × α} {entry : String × β}
    (h : Named R field entry) : R field.2 entry.2 := by
  cases h with
  | intro hab => exact hab

theorem exists_of_forall₂_named {R : α → β → Prop} {fields : List (String × α)}
    {entries : List (String × β)} {field : String × α}
    (h : List.Forall₂ (Named R) fields entries) (hfield : field ∈ fields) :
    ∃ b, R field.2 b := by
  obtain ⟨entry, -, hnamed⟩ := exists_of_forall₂_left h hfield
  exact ⟨entry.2, hnamed.value⟩

theorem exists_forall₂_named {R : α → β → Prop} {fields : List (String × α)}
    (h : ∀ field ∈ fields, ∃ b, R field.2 b) :
    ∃ entries, List.Forall₂ (Named R) fields entries := by
  apply exists_forall₂
  intro field hfield
  obtain ⟨b, hb⟩ := h field hfield
  exact ⟨(field.1, b), .intro hb⟩

theorem named_cons_eq_ok_iff {f : α → Except ε β} {blame : ε → δ} {name : String} {a : α}
    {rest : Except δ (List (String × β))} {entries : List (String × β)} :
    (do
      let b ← (f a).mapError blame
      let others ← rest
      return (name, b) :: others) = .ok entries ↔
      ∃ entry others, Named (fun a b => f a = .ok b) (name, a) entry ∧ rest = .ok others ∧
        entries = entry :: others := by
  simp only [bind_eq_ok_iff, mapError_eq_ok_iff]
  constructor
  · rintro ⟨b, hb, others, hothers, hcons⟩
    exact ⟨(name, b), others, .intro hb, hothers, (Except.ok.inj hcons).symm⟩
  · rintro ⟨_, others, ⟨hb⟩, hothers, rfl⟩
    exact ⟨_, hb, others, hothers, rfl⟩

end HttpScenario.Success
