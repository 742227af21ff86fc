import HttpScenario.Proofs.Schema.Order

/-! The nodes below a node as a list, in the order in which they are checked: checking them is one
loop, which fails at the first node that fails. -/

namespace HttpScenario

section Loops

variable {ε α : Type} {f : α → Except ε Unit} {l : List α} {e : ε}

theorem forM_eq_ok_iff : l.forM f = .ok () ↔ ∀ a ∈ l, f a = .ok () := by
  induction l with
  | nil => simp [List.forM, pure, Except.pure]
  | cons a rest ih =>
    rw [List.forall_mem_cons, ← ih]
    change (f a >>= fun _ => rest.forM f) = .ok () ↔ _
    cases h : f a with
    | ok _ => simp [bind, Except.bind]
    | error _ => simp [bind, Except.bind]

theorem exists_of_forM_eq_error (h : l.forM f = .error e) :
    ∃ before a after, l = before ++ a :: after ∧ f a = .error e ∧ ∀ b ∈ before, f b = .ok () := by
  induction l with
  | nil => cases h
  | cons a rest ih =>
    change (f a >>= fun _ => rest.forM f) = .error e at h
    cases ha : f a with
    | error e' =>
      rw [ha] at h
      cases h
      exact ⟨[], a, rest, rfl, ha, nofun⟩
    | ok u =>
      rw [ha] at h
      obtain ⟨before, b, after, rfl, hb, hbefore⟩ := ih h
      exact ⟨a :: before, b, after, rfl, hb, List.forall_mem_cons.mpr ⟨ha, hbefore⟩⟩

end Loops

namespace Schema

variable {schema inner : Schema} {data value : Json} {step : Step}

theorem Below.ordered (h : Below schema data step inner value) (hordered : schema.Ordered) :
    inner.Ordered := by
  obtain ⟨-, hproperties, hitems⟩ := hordered
  cases h with
  | property hschema _ => exact hproperties _ hschema
  | item hschema _ => exact hitems _ hschema

structure Child where
  step : Step
  schema : Schema
  data : Json

def Child.check (child : Child) : Except Violation Unit :=
  (checkNode child.schema child.data).mapError (Violation.under child.step)

def childProperties (properties : List (String × Schema)) (fields : Fields Json) : List Child :=
  properties.filterMap fun entry =>
    (Fields.get? fields entry.1).map fun value => ⟨.property entry.1, entry.2, value⟩

def childItems (inner : Schema) (items : List Json) (i : Nat) : List Child :=
  (items.zipIdx i).map fun item => ⟨.item item.2, inner, item.1⟩

theorem checkProperties_eq_forM (properties : List (String × Schema)) (fields : Fields Json) :
    checkProperties properties fields = (childProperties properties fields).forM Child.check := by
  induction properties with
  | nil => rfl
  | cons entry rest ih =>
    obtain ⟨name, inner⟩ := entry
    rw [checkProperties, ih]
    cases h : fields.get? name with
    | none => simp only [childProperties, List.filterMap_cons, h, Option.map_none]; rfl
    | some value => simp only [childProperties, List.filterMap_cons, h, Option.map_some]; rfl

theorem checkItems_eq_forM (inner : Schema) (items : List Json) (i : Nat) :
    checkItems (fun item => checkNode inner item) i items =
      (childItems inner items i).forM Child.check := by
  induction items generalizing i with
  | nil => rfl
  | cons item rest ih =>
    rw [checkItems, ih]
    rfl

theorem mem_childProperties {fields : Fields Json} {child : Child} :
    child ∈ childProperties schema.properties fields ↔
      Below schema (.object fields) child.step child.schema child.data := by
  simp only [childProperties, List.mem_filterMap, Option.map_eq_some_iff]
  obtain ⟨step, inner, value⟩ := child
  constructor
  · rintro ⟨⟨name, inner⟩, hmem, value, hvalue, ⟨⟩⟩
    exact .property hmem hvalue
  · rintro (⟨hmem, hvalue⟩)
    exact ⟨_, hmem, value, hvalue, rfl⟩

theorem mem_childItems (hinner : schema.items = some inner) {items : List Json} {child : Child} :
    child ∈ childItems inner items 0 ↔
      Below schema (.array items) child.step child.schema child.data := by
  simp only [childItems, List.mem_map]
  obtain ⟨step, inner', value⟩ := child
  constructor
  · rintro ⟨⟨value, i⟩, hmem, ⟨⟩⟩
    exact .item hinner (List.mk_mem_zipIdx_iff_getElem?.mp hmem)
  · rintro (_ | ⟨hschema, hvalue⟩)
    obtain rfl := Option.some.inj (hinner.symm.trans hschema)
    exact ⟨(value, _), List.mk_mem_zipIdx_iff_getElem?.mpr hvalue, rfl⟩

theorem before_childProperties {properties : List (String × Schema)} {fields : Fields Json}
    (h : (properties.map Prod.fst).Pairwise (· < ·)) :
    (childProperties properties fields).Pairwise fun a b => a.step.Before b.step := by
  rw [List.pairwise_map] at h
  refine h.filterMap _ fun a b hlt child hchild other hother => ?_
  obtain ⟨value, -, rfl⟩ := Option.map_eq_some_iff.mp hchild
  obtain ⟨value, -, rfl⟩ := Option.map_eq_some_iff.mp hother
  exact .property hlt

theorem before_childItems (inner : Schema) (items : List Json) (i : Nat) :
    (childItems inner items i).Pairwise fun a b => a.step.Before b.step := by
  induction items generalizing i with
  | nil => exact .nil
  | cons item rest ih =>
    refine List.pairwise_cons.mpr ⟨fun child hchild => ?_, ih (i + 1)⟩
    obtain ⟨⟨value, j⟩, hmem, rfl⟩ := List.mem_map.mp hchild
    exact .item (List.le_snd_of_mem_zipIdx hmem)

end Schema

end HttpScenario
