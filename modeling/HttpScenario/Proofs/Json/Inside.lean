import HttpScenario.Json.Basic

/-! Values inside other values: the items of a list and the fields of an object, and what is inside
these. -/

namespace HttpScenario.Json

def parts : Json → List Json
  | array items => items
  | object fields => fields.map Prod.snd
  | _ => []

inductive Inside (part : Json) : Json → Prop
  | direct {value} (h : part ∈ value.parts) : Inside part value
  | deeper {inner value} (h : Inside part inner) (hinner : inner ∈ value.parts) : Inside part value

def NestsWithin : Nat → Json → Prop
  | 0, value => value.parts = []
  | n + 1, value => ∀ part ∈ value.parts, NestsWithin n part

variable {part inner value : Json} {n : Nat}

theorem sizeOf_lt_of_mem_parts (h : part ∈ value.parts) : sizeOf part < sizeOf value := by
  cases value with
  | array items =>
    have := List.sizeOf_lt_of_mem (show part ∈ items from h)
    simp only [array.sizeOf_spec]
    omega
  | object fields =>
    obtain ⟨⟨name, found⟩, hmem, rfl⟩ := List.mem_map.1 h
    have := List.sizeOf_lt_of_mem hmem
    simp only [object.sizeOf_spec, Prod.mk.sizeOf_spec] at this ⊢
    omega
  | _ => exact absurd h List.not_mem_nil

theorem Inside.sizeOf_lt (h : Inside part value) : sizeOf part < sizeOf value := by
  induction h with
  | direct h => exact sizeOf_lt_of_mem_parts h
  | deeper _ hinner ih => exact Nat.lt_trans ih (sizeOf_lt_of_mem_parts hinner)

theorem Inside.trans (h : Inside part inner) (hinner : Inside inner value) : Inside part value := by
  induction hinner with
  | direct hmem => exact .deeper h hmem
  | deeper _ hmem ih => exact .deeper ih hmem

theorem inside_item {items : List Json} (h : part ∈ items) : Inside part (.array items) := .direct h

theorem inside_field {fields : Fields Json} {field : String × Json} (h : field ∈ fields) :
    Inside field.2 (.object fields) := .direct (List.mem_map_of_mem h)

theorem inside_sole {name : String} : Inside part (.object [(name, part)]) :=
  .direct List.mem_cons_self

theorem Inside.sole {name : String} (h : Inside part value) :
    Inside part (.object [(name, value)]) :=
  h.deeper List.mem_cons_self

theorem inside_of_field? {name : String} (h : value.field? name = some part) :
    Inside part value := by
  cases value with
  | object fields =>
    obtain ⟨field, hfind, rfl⟩ := Option.map_eq_some_iff.1 h
    exact inside_field (List.mem_of_find?_eq_some hfind)
  | _ => cases h

theorem inside_induct {P : Json → Prop}
    (h : ∀ value, (∀ part, Inside part value → P part) → P value) (value : Json) : P value :=
  h value fun part _ => inside_induct h part
termination_by sizeOf value
decreasing_by exact Inside.sizeOf_lt ‹_›

theorem NestsWithin.succ (h : NestsWithin n value) : NestsWithin (n + 1) value := by
  induction n generalizing value with
  | zero =>
    intro part hpart
    rw [NestsWithin] at h
    rw [h] at hpart
    exact absurd hpart List.not_mem_nil
  | succ n ih => exact fun part hpart => ih (h part hpart)

theorem not_inside_of_nestsWithin (h : NestsWithin 0 value) : ¬Inside part value := by
  have hnone : value.parts = [] := h
  rintro (hmem | ⟨_, hmem⟩)
  all_goals
    rw [hnone] at hmem
    exact absurd hmem List.not_mem_nil

theorem NestsWithin.of_inside (h : NestsWithin (n + 1) value) (hinside : Inside part value) :
    NestsWithin n part := by
  induction hinside with
  | direct hmem => exact h _ hmem
  | deeper _ hmem ih => exact ih (h _ hmem).succ

end HttpScenario.Json
