import HttpScenario.Proofs.Path.Steps
import HttpScenario.Proofs.Schema.Checking

/-! Where a violation says it is. Its path leads to the node that is not as demanded, and that node,
checked by itself against the schema for it, is found to have the same fault at its root. -/

namespace HttpScenario.Schema

variable {own : Demands} {schema inner sub : Schema} {data value node : Json} {place : List Step}
  {v : Violation} {x y : Except Violation Unit}

def PlainName (name : String) : Prop :=
  name ≠ "" ∧ '.' ∉ name.toList ∧ '[' ∉ name.toList

/-- The properties have plain names, at all depths. -/
inductive Plain : Schema → Prop
  | node {own properties items} (hnames : ∀ entry ∈ properties, PlainName entry.1)
      (hproperties : ∀ entry ∈ properties, Plain entry.2)
      (hitems : ∀ inner, items = some inner → Plain inner) : Plain ⟨own, properties, items⟩

/-- An error is one of the node itself, or of a node right below. -/
def Blames (schema : Schema) (data : Json) (x : Except Violation Unit) : Prop :=
  ∀ v, x = .error v → v.place = [] ∨
    ∃ child : Child, Below schema data child.step child.schema child.data ∧ child.check = .error v

namespace Blames

theorem ok : Blames schema data (.ok ()) := nofun

theorem bind (hx : Blames schema data x) (hy : Blames schema data y) :
    Blames schema data (x >>= fun _ => y) := by
  intro v h
  cases x with
  | error w => exact hx v h
  | ok u => exact hy v h

theorem demand (met : Bool) (breach : Breach) : Blames schema data (demand met breach) := by
  intro v h
  cases met with
  | true => cases h
  | false =>
    cases h
    exact .inl rfl

theorem checkAtLeast {α : Type} (bound : Option α) (met : α → Bool) (breach : α → Breach) :
    Blames schema data (checkAtLeast bound met breach) := by
  cases bound with
  | none => exact ok
  | some a => exact demand (met a) (breach a)

theorem checkKind (own : Demands) : Blames schema data (checkKind own data) := by
  unfold Schema.checkKind
  split
  · exact demand _ _
  · exact ok

theorem checkAllowed (own : Demands) : Blames schema data (checkAllowed own data) := by
  unfold Schema.checkAllowed
  split
  · exact demand _ _
  · exact ok

theorem checkCustom (own : Demands) : Blames schema data (checkCustom own data) := by
  unfold Schema.checkCustom
  split
  · exact demand _ _
  · exact ok

theorem checkPattern (own : Demands) (s : String) : Blames schema data (checkPattern own s) := by
  unfold Schema.checkPattern
  split
  · exact ok
  · split
    · intro v h
      cases h
      exact .inl rfl
    · exact demand _ _

theorem checkRequired (fields : Fields Json) (names : List String) :
    Blames schema data (checkRequired fields names) := by
  induction names with
  | nil => exact ok
  | cons name rest ih => exact (demand _ _).bind ih

theorem children {children : List Child}
    (hbelow : ∀ child ∈ children, Below schema data child.step child.schema child.data) :
    Blames schema data (children.forM Child.check) := by
  intro v h
  obtain ⟨before, child, after, rfl, herror, -⟩ := exists_of_forM_eq_error h
  exact .inr ⟨child, hbelow child (by simp), herror⟩

theorem checkElements (items : List Json) :
    Blames schema (.array items) (checkElements schema.items items) := by
  cases hitems : schema.items with
  | none => exact ok
  | some inner =>
    rw [Schema.checkElements, checkItems_eq_forM]
    exact children fun child hchild => (mem_childItems hitems).mp hchild

theorem checkContent (schema : Schema) (data : Json) :
    Blames schema data (checkContent schema data) := by
  cases data with
  | object fields =>
    refine (checkRequired fields schema.own.required).bind ?_
    rw [checkProperties_eq_forM]
    exact children fun child hchild => mem_childProperties.mp hchild
  | array items =>
    have hcount : Blames schema (.array items) (checkCount schema.own items) :=
      (checkAtLeast _ _ _).bind (checkAtLeast _ _ _)
    exact hcount.bind (checkElements items)
  | string s =>
    exact (checkAtLeast _ _ _).bind ((checkAtLeast _ _ _).bind (checkPattern schema.own s))
  | number n => exact (checkAtLeast _ _ _).bind (checkAtLeast _ _ _)
  | _ => exact ok

theorem checkNode (schema : Schema) (data : Json) : Blames schema data (checkNode schema data) := by
  rw [checkNode_eq]
  exact (checkKind schema.own).bind <| (checkAllowed schema.own).bind <|
    (checkContent schema data).bind (checkCustom schema.own)

end Blames

/-- The node at the place of a violation has the fault by itself. -/
theorem exists_reached_of_error (h : checkNode schema data = .error v) :
    ∃ sub node, Reached schema data v.place sub node ∧
      checkNode sub node = .error ⟨[], v.breach⟩ := by
  -- Each step of the place is one call of the checker, so the place is what the induction is on.
  obtain ⟨place, breach⟩ := v
  induction place generalizing schema data with
  | nil => exact ⟨schema, data, .here, h⟩
  | cons step rest ih =>
    obtain hroot | ⟨child, hbelow, herror⟩ := Blames.checkNode schema data _ h
    · cases hroot
    · unfold Child.check at herror
      cases hcheck : checkNode child.schema child.data with
      | ok u =>
        rw [hcheck] at herror
        cases herror
      | error w =>
        rw [hcheck] at herror
        cases herror
        obtain ⟨sub, node, hreached, hsub⟩ := ih hcheck
        exact ⟨sub, node, .next hbelow hreached, hsub⟩

theorem Plain.of_below {step : Step} (h : Below schema data step inner value)
    (hplain : schema.Plain) : inner.Plain ∧ ∀ name, step = .property name → PlainName name := by
  obtain ⟨hnames, hproperties, hitems⟩ := hplain
  cases h with
  | property hschema _ =>
    refine ⟨hproperties _ hschema, ?_⟩
    rintro name ⟨⟩
    exact hnames _ hschema
  | item hschema _ => exact ⟨hitems _ hschema, nofun⟩

theorem Reached.plainName (h : Reached schema data place sub node) (hplain : schema.Plain) :
    ∀ name, .property name ∈ place → PlainName name := by
  induction h with
  | here => exact fun name hname => absurd hname List.not_mem_nil
  | next hbelow _ ih =>
    obtain ⟨hinner, hstep⟩ := hplain.of_below hbelow
    intro name hname
    rcases List.mem_cons.mp hname with heq | hrest
    · exact hstep name heq.symm
    · exact ih hinner name hrest

def Step.toPath : Step → Path.Step
  | property name => .named name
  | item i => .index i

theorem Below.descend? {step : Step} (h : Below schema data step inner value) :
    step.toPath.descend? data = some value := by
  cases h with
  | property _ hvalue => exact hvalue
  | item _ hvalue => exact hvalue

theorem Reached.follow? (h : Reached schema data place sub node) :
    Path.follow? (place.map Step.toPath) data = some node := by
  induction h with
  | here => rfl
  | next hbelow _ ih =>
    rw [List.map_cons, Path.follow?, hbelow.descend?]
    exact ih

theorem Step.toList_text (step : Step) :
    step.text.toList = match step with
      | property name => '.' :: name.toList
      | item i => Path.bracketed i := by
  cases step with
  | property name => simp [Step.text]
  | item i =>
    have htext : (Step.item i).text = "[" ++ toString i ++ "]" := rfl
    simp [htext, Path.bracketed]

theorem steps?_append_place {cs : List Char} {steps : List Path.Step}
    (hsteps : Path.steps? cs = some steps)
    (hplain : ∀ name, .property name ∈ place → PlainName name) :
    Path.steps? (cs ++ place.flatMap fun step => step.text.toList) =
      some (steps ++ place.map Step.toPath) := by
  -- Text is read from left to right, so what was read of `cs` is carried along.
  induction place generalizing cs steps with
  | nil => simpa using hsteps
  | cons step rest ih =>
    have hrest : ∀ name, .property name ∈ rest → PlainName name := fun name hname =>
      hplain name (List.mem_cons_of_mem _ hname)
    have hstep : Path.steps? (cs ++ step.text.toList) = some (steps ++ [step.toPath]) := by
      rw [Step.toList_text]
      cases step with
      | property name =>
        obtain ⟨hne, hdot, hbracket⟩ := hplain name List.mem_cons_self
        have hnonempty : name.toList ≠ [] := by simpa using hne
        have hname := Path.steps?_name hnonempty hdot hbracket
        simp only [Path.steps?_append_dot, hsteps, hname]
        simp [Step.toPath]
      | item i => exact Path.steps?_append_index hsteps i
    simpa using ih hstep hrest

theorem resolveIn?_place (h : Reached schema data place sub node) (hplain : schema.Plain) :
    Path.resolveIn? (String.join (place.map Step.text)) data = some node := by
  have hempty : Path.steps? [] = some [] := by simp [Path.steps?, Path.splitDots]
  have hsteps := steps?_append_place hempty (h.plainName hplain)
  rw [Path.resolveIn?, String.toList_join, List.flatMap_map]
  simp only [List.nil_append] at hsteps
  rw [hsteps]
  exact h.follow?

/-- The path of a violation is a dollar sign and a path to a node, to which the same steps lead in the
schema; and that node by itself is reported with the same message, at its root. -/
theorem culprit_of_checkNode {schema : Schema} {data : Json} {v : Violation} (hplain : schema.Plain)
    (h : checkNode schema data = .error v) :
    ∃ q sub node, v.path = "$" ++ q ∧ Path.resolveIn? q data = some node ∧
      Reached schema data v.place sub node ∧
      ∃ w, checkNode sub node = .error w ∧ w.path = "$" ∧ w.message = v.message := by
  obtain ⟨sub, node, hreached, hsub⟩ := exists_reached_of_error h
  exact ⟨String.join (v.place.map Step.text), sub, node, rfl, resolveIn?_place hreached hplain,
    hreached, ⟨[], v.breach⟩, hsub, rfl, rfl⟩

namespace Sample

def grid : Schema :=
  ⟨any.own, [("0", ⟨any.own, [], some ⟨any.own, [], some text⟩⟩)], none⟩

def rows : Json := .object [("0", .array [.array [], .array [.string "ok", .string "a"]])]

def fault : Violation := ⟨[.property "0", .item 1, .item 1], .short 2 1⟩

theorem plain_grid : grid.Plain := by
  have htext : text.Plain := .node nofun nofun nofun
  have hrow : Plain ⟨any.own, [], some text⟩ := .node nofun nofun fun inner h =>
    Option.some.inj h ▸ htext
  have hrows : Plain ⟨any.own, [], some ⟨any.own, [], some text⟩⟩ := .node nofun nofun
    fun inner h => Option.some.inj h ▸ hrow
  refine .node ?_ ?_ nofun
  · simp [PlainName]
  · simp [hrows]

end Sample

theorem culprit_of_sample_checkNode :
    Sample.grid.Plain ∧ checkNode Sample.grid Sample.rows = .error Sample.fault ∧
    Sample.fault.path = "$.0[1][1]" ∧
    ∃ q sub node, Sample.fault.path = "$" ++ q ∧ Path.resolveIn? q Sample.rows = some node ∧
      Reached Sample.grid Sample.rows Sample.fault.place sub node ∧
      ∃ w, checkNode sub node = .error w ∧ w.path = "$" ∧ w.message = Sample.fault.message := by
  have hfault : checkNode Sample.grid Sample.rows = .error Sample.fault := rfl
  exact ⟨Sample.plain_grid, hfault, by decide, culprit_of_checkNode Sample.plain_grid hfault⟩

end HttpScenario.Schema
