import HttpScenario.Schema.Check

/-! What a schema says about data, apart from how data are checked against it. Steps that schema and
data have in common lead to a node and to the schema for it; data are valid if every node that is
reached meets all that its schema asks of it. -/

namespace HttpScenario.Schema

inductive Aspect
  | kind
  | allowed
  /-- The name at this place of the list of required fields. -/
  | required (i : Nat)
  | minItems
  | maxItems
  | minLength
  | maxLength
  | pattern
  | minimum
  | maximum
  | custom
deriving DecidableEq

/-- The data of a node are as demanded in one aspect. An aspect of lists, texts, objects or numbers
says nothing about other data. -/
def Demands.Meets (own : Demands) (data : Json) : Aspect → Prop
  | .kind => ∀ kind, own.kind = some kind → kind.holds data = true
  | .allowed => ∀ values, own.allowed = some values → ∃ value ∈ values, value.same data = true
  | .required i => ∀ name fields, own.required[i]? = some name → data = .object fields →
      name ∈ Fields.names fields
  | .minItems => ∀ least items, own.minItems = some least → data = .array items →
      least ≤ items.length
  | .maxItems => ∀ most items, own.maxItems = some most → data = .array items →
      items.length ≤ most
  | .minLength => ∀ least s, own.minLength = some least → data = .string s → least ≤ s.length
  | .maxLength => ∀ most s, own.maxLength = some most → data = .string s → s.length ≤ most
  | .pattern => ∀ source s, own.pattern = some source → data = .string s →
      ∃ pattern, Pattern.ofText source = .ok pattern ∧ pattern.isMatch s = true
  | .minimum => ∀ least n, own.minimum = some least → data = .number n → ¬n.toDouble < least
  | .maximum => ∀ most n, own.maximum = some most → data = .number n → ¬most < n.toDouble
  | .custom => ∀ accepts, own.check = some accepts → accepts data = true

inductive Demands.Reports (own : Demands) (data : Json) : Aspect → Breach → Prop
  | kind {kind} (h : own.kind = some kind) : Reports own data .kind (.kind kind data)
  | allowed {values} (h : own.allowed = some values) :
      Reports own data .allowed (.allowed data values)
  | required {i name} (h : own.required[i]? = some name) :
      Reports own data (.required i) (.missing name)
  | minItems {least items} (h : own.minItems = some least) (hdata : data = .array items) :
      Reports own data .minItems (.fewItems least items.length)
  | maxItems {most items} (h : own.maxItems = some most) (hdata : data = .array items) :
      Reports own data .maxItems (.manyItems most items.length)
  | minLength {least s} (h : own.minLength = some least) (hdata : data = .string s) :
      Reports own data .minLength (.short least s.length)
  | maxLength {most s} (h : own.maxLength = some most) (hdata : data = .string s) :
      Reports own data .maxLength (.long most s.length)
  | pattern {source s} (h : own.pattern = some source) (hdata : data = .string s) :
      Reports own data .pattern (.pattern s source)
  | badPattern {source cause} (h : own.pattern = some source)
      (hcause : Pattern.ofText source = .error cause) :
      Reports own data .pattern (.badPattern cause)
  | minimum {least n} (h : own.minimum = some least) (hdata : data = .number n) :
      Reports own data .minimum (.below least n.toDouble)
  | maximum {most n} (h : own.maximum = some most) (hdata : data = .number n) :
      Reports own data .maximum (.above most n.toDouble)
  | custom : Reports own data .custom .check

/-- A step that schema and data have in common, with what it leads to. -/
inductive Below : Schema → Json → Step → Schema → Json → Prop
  | property {schema inner fields name value} (hschema : (name, inner) ∈ schema.properties)
      (hvalue : Fields.get? fields name = some value) :
      Below schema (.object fields) (.property name) inner value
  | item {schema inner items i value} (hschema : schema.items = some inner)
      (hvalue : items[i]? = some value) : Below schema (.array items) (.item i) inner value

inductive Reached : Schema → Json → List Step → Schema → Json → Prop
  | here {schema data} : Reached schema data [] schema data
  | next {schema data step inner value place sub node} (h : Below schema data step inner value)
      (hrest : Reached inner value place sub node) : Reached schema data (step :: place) sub node

/-- Every node that is reached is in all aspects as its schema demands. -/
def Valid (schema : Schema) (data : Json) : Prop :=
  ∀ place sub node, Reached schema data place sub node → ∀ aspect, sub.own.Meets node aspect

structure Constraint where
  place : List Step
  aspect : Aspect

namespace Constraint

def under (step : Step) (c : Constraint) : Constraint := ⟨step :: c.place, c.aspect⟩

def Satisfied (c : Constraint) (schema : Schema) (data : Json) : Prop :=
  ∀ sub node, Reached schema data c.place sub node → sub.own.Meets node c.aspect

/-- A violation tells of the constraint that the node at its place is not as demanded. -/
def Broken (c : Constraint) (schema : Schema) (data : Json) (v : Violation) : Prop :=
  v.place = c.place ∧ ∃ sub node, Reached schema data c.place sub node ∧
    ¬sub.own.Meets node c.aspect ∧ sub.own.Reports node c.aspect v.breach

end Constraint

variable {schema inner sub : Schema} {data value node : Json} {step : Step} {aspect : Aspect}
  {c d : Constraint} {v : Violation}

@[simp]
theorem reached_nil_iff : Reached schema data [] sub node ↔ sub = schema ∧ node = data := by
  constructor
  · rintro ⟨⟩
    exact ⟨rfl, rfl⟩
  · rintro ⟨rfl, rfl⟩
    exact .here

namespace Constraint

theorem under_inj {other : Step} : under step c = under other d ↔ step = other ∧ c = d := by
  cases c
  cases d
  simp [under, and_assoc]

@[simp]
theorem satisfied_here : Satisfied ⟨[], aspect⟩ schema data ↔ schema.own.Meets data aspect := by
  simp [Satisfied]

theorem satisfied_under :
    (c.under step).Satisfied schema data ↔
      ∀ inner value, Below schema data step inner value → c.Satisfied inner value := by
  constructor
  · intro h inner value hbelow sub node hreached
    exact h sub node (.next hbelow hreached)
  · rintro h sub node (_ | ⟨hbelow, hrest⟩)
    exact h _ _ hbelow sub node hrest

theorem Broken.not_satisfied (h : c.Broken schema data v) : ¬c.Satisfied schema data := by
  obtain ⟨-, sub, node, hreached, hnot, -⟩ := h
  exact fun hsatisfied => hnot (hsatisfied sub node hreached)

theorem Broken.under (hbelow : Below schema data step inner value)
    (h : c.Broken inner value v) : (c.under step).Broken schema data (v.under step) := by
  obtain ⟨hplace, sub, node, hreached, hnot, hreports⟩ := h
  exact ⟨congrArg (step :: ·) hplace, sub, node, .next hbelow hreached, hnot, hreports⟩

end Constraint

theorem valid_iff_satisfied : Valid schema data ↔ ∀ c : Constraint, c.Satisfied schema data := by
  constructor
  · intro h c sub node hreached
    exact h c.place sub node hreached c.aspect
  · intro h place sub node hreached aspect
    exact h ⟨place, aspect⟩ sub node hreached

theorem sizeOf_lt_of_mem {properties : List (String × Schema)} {entry : String × Schema}
    (h : entry ∈ properties) : sizeOf entry.2 < sizeOf properties := by
  have hmem := List.sizeOf_lt_of_mem h
  obtain ⟨name, inner⟩ := entry
  simp only [Prod.mk.sizeOf_spec] at hmem ⊢
  omega

theorem induct {P : Schema → Prop}
    (node : ∀ own properties items, (∀ entry ∈ properties, P entry.2) →
      (∀ inner, items = some inner → P inner) → P ⟨own, properties, items⟩)
    (schema : Schema) : P schema :=
  match schema with
  | ⟨own, properties, items⟩ =>
    node own properties items (fun entry _ => induct node entry.2) fun inner _ => induct node inner
termination_by sizeOf schema
decreasing_by
  · have := sizeOf_lt_of_mem ‹entry ∈ properties›
    simp only [mk.sizeOf_spec]
    omega
  · subst items
    simp only [mk.sizeOf_spec, Option.some.sizeOf_spec]
    omega

end HttpScenario.Schema
