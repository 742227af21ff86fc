import HttpScenario.Proofs.Fields
import HttpScenario.Proofs.Schema.Nodes

/-! Checking data against a schema finds out whether they are valid. What it reports of other data is
the first constraint in the order of checking that they break. -/

namespace HttpScenario

namespace Schema

variable {own : Demands} {schema inner : Schema} {data value : Json} {step : Step}
  {aspect : Aspect} {low high : Nat} {x y : Except Violation Unit}

def Demands.Judges (own : Demands) (data : Json) (aspect : Aspect) : Except Violation Unit → Prop
  | .ok () => own.Meets data aspect
  | .error v => v.place = [] ∧ ¬own.Meets data aspect ∧ own.Reports data aspect v.breach

namespace Demands

theorem judges_demand {met : Bool} {breach : Breach} (hmet : met = true ↔ own.Meets data aspect)
    (hreports : own.Reports data aspect breach) : own.Judges data aspect (demand met breach) := by
  cases met with
  | true => exact hmet.mp rfl
  | false => exact ⟨rfl, fun h => Bool.false_ne_true (hmet.mpr h), hreports⟩

theorem judges_checkAtLeast {α : Type} {bound : Option α} {met : α → Bool} {breach : α → Breach}
    (hmeets : own.Meets data aspect ↔ ∀ a, bound = some a → met a = true)
    (hreports : ∀ a, bound = some a → own.Reports data aspect (breach a)) :
    own.Judges data aspect (checkAtLeast bound met breach) := by
  cases bound with
  | none => exact hmeets.mpr nofun
  | some a => exact judges_demand (by simp [hmeets]) (hreports a rfl)

theorem judges_checkKind (own : Demands) (data : Json) :
    own.Judges data .kind (checkKind own data) := by
  unfold checkKind
  cases h : own.kind with
  | none => simp [Judges, Meets, h]
  | some kind => exact judges_demand (by simp [Meets, h]) (.kind h)

theorem judges_checkAllowed (own : Demands) (data : Json) :
    own.Judges data .allowed (checkAllowed own data) := by
  unfold checkAllowed
  cases h : own.allowed with
  | none => simp [Judges, Meets, h]
  | some values => exact judges_demand (by simp [Meets, h]) (.allowed h)

theorem judges_checkCustom (own : Demands) (data : Json) :
    own.Judges data .custom (checkCustom own data) := by
  unfold checkCustom
  cases h : own.check with
  | none => simp [Judges, Meets, h]
  | some accepts => exact judges_demand (by simp [Meets, h]) .custom

theorem judges_checkPattern (own : Demands) (s : String) :
    own.Judges (.string s) .pattern (checkPattern own s) := by
  unfold checkPattern
  cases h : own.pattern with
  | none => simp [Judges, Meets, h]
  | some source =>
    cases hpattern : Pattern.ofText source with
    | error cause =>
      simp only [hpattern]
      exact ⟨rfl, by simp [Meets, h, hpattern], .badPattern h hpattern⟩
    | ok pattern =>
      simp only [hpattern]
      exact judges_demand (by simp [Meets, h, hpattern]) (.pattern h rfl)

end Demands

open Constraint

/-- A check of the constraints whose numbers are at least `low` and below `high`. -/
def Decides (schema : Schema) (data : Json) (low high : Nat) : Except Violation Unit → Prop
  | .ok () => ∀ c : Constraint, low ≤ c.rank → c.rank < high → c.Satisfied schema data
  | .error v => ∃ c : Constraint, low ≤ c.rank ∧ c.rank < high ∧ c.Broken schema data v ∧
      (schema.Ordered → ∀ earlier : Constraint, low ≤ earlier.rank → Precedes earlier c →
        earlier.Satisfied schema data)

namespace Decides

theorem bind (mid : Nat) (hlow : low ≤ mid) (hhigh : mid ≤ high) (hx : Decides schema data low mid x)
    (hy : Decides schema data mid high y) : Decides schema data low high (x >>= fun _ => y) := by
  cases x with
  | error v =>
    obtain ⟨c, hle, hlt, hbroken, hearlier⟩ := hx
    exact ⟨c, hle, Nat.lt_of_lt_of_le hlt hhigh, hbroken, hearlier⟩
  | ok u =>
    cases y with
    | error v =>
      obtain ⟨c, hle, hlt, hbroken, hearlier⟩ := hy
      refine ⟨c, Nat.le_trans hlow hle, hlt, hbroken, fun hordered earlier hfrom hprecedes => ?_⟩
      rcases Nat.lt_or_ge earlier.rank mid with hbefore | hafter
      · exact hx earlier hfrom hbefore
      · exact hearlier hordered earlier hafter hprecedes
    | ok u =>
      intro c hle hlt
      rcases Nat.lt_or_ge c.rank mid with hbefore | hafter
      · exact hx c hle hbefore
      · exact hy c hafter hlt

theorem widen {from' to' : Nat} (hlow : from' ≤ low) (hhigh : high ≤ to')
    (h : Decides schema data low high x)
    (houtside : ∀ c : Constraint, from' ≤ c.rank → c.rank < to' → ¬(low ≤ c.rank ∧ c.rank < high) →
      c.Satisfied schema data) : Decides schema data from' to' x := by
  cases x with
  | ok u =>
    intro c hge hlt
    by_cases hin : low ≤ c.rank ∧ c.rank < high
    · exact h c hin.1 hin.2
    · exact houtside c hge hlt hin
  | error v =>
    obtain ⟨c, hge, hlt, hbroken, hearlier⟩ := h
    refine ⟨c, Nat.le_trans hlow hge, Nat.lt_of_lt_of_le hlt hhigh, hbroken,
      fun hordered earlier hfrom hprecedes => ?_⟩
    have hbefore := Nat.lt_of_le_of_lt hprecedes.rank_le hlt
    by_cases hin : low ≤ earlier.rank
    · exact hearlier hordered earlier hin hprecedes
    · exact houtside earlier hfrom (Nat.lt_of_lt_of_le hbefore hhigh) fun h => hin h.1

theorem of_judges (aspect : Aspect) (haspect : ∀ i, aspect ≠ .required i)
    (h : schema.own.Judges data aspect x) :
    Decides schema data aspect.rank (aspect.rank + 1) x := by
  have hsingle : ∀ c : Constraint, aspect.rank ≤ c.rank → c.rank ≤ aspect.rank →
      c = ⟨[], aspect⟩ := fun c hge hle => eq_of_rank_eq haspect (Nat.le_antisymm hle hge)
  cases x with
  | ok u =>
    intro c hge hlt
    rw [hsingle c hge (Nat.le_of_lt_succ hlt)]
    exact satisfied_here.mpr h
  | error v =>
    obtain ⟨hplace, hnot, hreports⟩ := h
    refine ⟨⟨[], aspect⟩, Nat.le_refl _, Nat.lt_succ_self _,
      ⟨hplace, schema, data, .here, hnot, hreports⟩, fun _ earlier hge hprecedes => ?_⟩
    rw [hsingle earlier hge hprecedes.rank_le] at hprecedes
    exact absurd hprecedes (not_precedes_self aspect)

theorem kind (schema : Schema) (data : Json) :
    Decides schema data 0 1 (checkKind schema.own data) :=
  of_judges .kind nofun (schema.own.judges_checkKind data)

theorem allowed (schema : Schema) (data : Json) :
    Decides schema data 1 2 (checkAllowed schema.own data) :=
  of_judges .allowed nofun (schema.own.judges_checkAllowed data)

theorem custom (schema : Schema) (data : Json) :
    Decides schema data 12 13 (checkCustom schema.own data) :=
  of_judges .custom nofun (schema.own.judges_checkCustom data)

theorem bound {α : Type} (aspect : Aspect) (haspect : ∀ i, aspect ≠ .required i)
    {bound : Option α} {met : α → Bool} {breach : α → Breach}
    (hmeets : schema.own.Meets data aspect ↔ ∀ a, bound = some a → met a = true)
    (hreports : ∀ a, bound = some a → schema.own.Reports data aspect (breach a)) :
    Decides schema data aspect.rank (aspect.rank + 1) (checkAtLeast bound met breach) :=
  of_judges aspect haspect (Demands.judges_checkAtLeast hmeets hreports)

theorem count (schema : Schema) (items : List Json) :
    Decides schema (.array items) 4 6 (checkCount schema.own items) := by
  refine bind 5 (by decide) (by decide) ?_ ?_
  · exact bound .minItems nofun (by simp [Demands.Meets]) fun _ h => .minItems h rfl
  · exact bound .maxItems nofun (by simp [Demands.Meets]) fun _ h => .maxItems h rfl

theorem text (schema : Schema) (s : String) :
    Decides schema (.string s) 7 10 (checkText schema.own s) := by
  refine bind 8 (by decide) (by decide) ?_ (bind 9 (by decide) (by decide) ?_ ?_)
  · exact bound .minLength nofun (by simp [Demands.Meets]) fun _ h => .minLength h rfl
  · exact bound .maxLength nofun (by simp [Demands.Meets]) fun _ h => .maxLength h rfl
  · exact of_judges .pattern nofun (schema.own.judges_checkPattern s)

theorem number (schema : Schema) (n : Number) :
    Decides schema (.number n) 10 12 (checkNumber schema.own n.toDouble) := by
  refine bind 11 (by decide) (by decide) ?_ ?_
  · exact bound .minimum nofun (by simp [Demands.Meets]) fun _ h => .minimum h rfl
  · exact bound .maximum nofun (by simp [Demands.Meets]) fun _ h => .maximum h rfl

theorem satisfied (h : Decides schema data 0 13 (.ok ())) (c : Constraint) :
    c.Satisfied schema data := h c (Nat.zero_le _) c.rank_lt

end Decides

def Child.Decided (child : Child) : Prop :=
  Decides child.schema child.data 0 13 (checkNode child.schema child.data)

theorem Child.Decided.satisfied {child : Child} (h : child.Decided) (hok : child.check = .ok ())
    (c : Constraint) : c.Satisfied child.schema child.data := by
  unfold Child.Decided at h
  unfold Child.check at hok
  cases hcheck : checkNode child.schema child.data with
  | ok u =>
    rw [hcheck] at h
    exact h.satisfied c
  | error v =>
    rw [hcheck] at hok
    cases hok

theorem Child.Decided.broken {child : Child} (h : child.Decided)
    (hbelow : Below schema data child.step child.schema child.data) {v : Violation}
    (herror : child.check = .error v) :
    ∃ c : Constraint, (c.under child.step).Broken schema data v ∧
      (child.schema.Ordered → ∀ earlier, Precedes earlier c →
        earlier.Satisfied child.schema child.data) := by
  unfold Child.Decided at h
  unfold Child.check at herror
  cases hcheck : checkNode child.schema child.data with
  | ok u =>
    rw [hcheck] at herror
    cases herror
  | error w =>
    rw [hcheck] at h herror
    cases herror
    obtain ⟨c, -, -, hbroken, hearlier⟩ := h
    exact ⟨c, hbroken.under hbelow, fun hordered earlier => hearlier hordered earlier (Nat.zero_le _)⟩

namespace Decides

/-- Nodes below are checked one after the other: up to the first that is not as demanded, all are. -/
theorem children {children : List Child} (r : Nat) (haspect : ∀ aspect : Aspect, aspect.rank ≠ r)
    (hrank : ∀ child ∈ children, child.step.rank = r)
    (hbelow : ∀ child, child ∈ children ↔ Below schema data child.step child.schema child.data)
    (hsorted : schema.Ordered → children.Pairwise fun a b => a.step.Before b.step)
    (hdecided : ∀ child ∈ children, child.Decided) :
    Decides schema data r (r + 1) (children.forM Child.check) := by
  cases h : children.forM Child.check with
  | ok u =>
    have hall := forM_eq_ok_iff.mp h
    rintro ⟨_ | ⟨step, place⟩, aspect⟩ hge hlt
    · exact absurd (Nat.le_antisymm (Nat.le_of_lt_succ hlt) hge) (haspect aspect)
    · refine (satisfied_under (c := ⟨place, aspect⟩)).mpr fun inner value h => ?_
      have hmem := (hbelow ⟨step, inner, value⟩).mpr h
      exact (hdecided _ hmem).satisfied (hall _ hmem) _
  | error v =>
    obtain ⟨before, child, after, rfl, herror, hbefore⟩ := exists_of_forM_eq_error h
    have hmem : child ∈ before ++ child :: after := by simp
    have hchild := (hbelow child).mp hmem
    obtain ⟨c, hbroken, hearlier⟩ := (hdecided child hmem).broken hchild herror
    have hr : (c.under child.step).rank = r := hrank child hmem
    refine ⟨c.under child.step, Nat.le_of_eq hr.symm, Nat.lt_succ_of_le (Nat.le_of_eq hr), hbroken,
      fun hordered earlier hge hprecedes => ?_⟩
    obtain ⟨-, hsorted, -⟩ := List.pairwise_append.mp (hsorted hordered)
    obtain ⟨aspect, rfl, hlt⟩ | ⟨other, e, rfl, hother⟩ := hprecedes.of_under
    · exact absurd (Nat.lt_of_lt_of_le hlt (Nat.le_trans (Nat.le_of_eq hr) hge)) (Nat.lt_irrefl _)
    refine satisfied_under.mpr fun inner value hstep => ?_
    have hother' := (hbelow ⟨other, inner, value⟩).mpr hstep
    rcases List.mem_append.mp hother' with hin | hin
    · exact (hdecided _ hother').satisfied (hbefore _ hin) e
    rcases List.mem_cons.mp hin with rfl | hin
    · obtain h | ⟨-, h⟩ := hother
      · exact absurd h Step.Before.irrefl
      · exact hearlier (hstep.ordered hordered) e h
    · have hafter := List.rel_of_pairwise_cons hsorted hin
      obtain h | ⟨rfl, -⟩ := hother
      · exact absurd h hafter.asymm
      · exact absurd hafter Step.Before.irrefl

theorem checkRequired_eq_forM (fields : Fields Json) (names : List String) :
    checkRequired fields names =
      names.forM fun name => demand (fields.contains name) (.missing name) := by
  induction names with
  | nil => rfl
  | cons name rest ih =>
    rw [checkRequired, ih]
    rfl

theorem required (schema : Schema) (fields : Fields Json) :
    Decides schema (.object fields) 2 3 (checkRequired fields schema.own.required) := by
  have hjudges : ∀ (i : Nat) name, schema.own.required[i]? = some name →
      schema.own.Judges (.object fields) (.required i)
        (demand (fields.contains name) (.missing name)) := fun i name h =>
    Demands.judges_demand (by simp [Demands.Meets, h, Fields.contains_iff]) (.required h)
  have hmeets : ∀ (i : Nat) name, schema.own.required[i]? = some name →
      demand (fields.contains name) (.missing name) = .ok () →
      schema.own.Meets (.object fields) (.required i) := by
    intro i name hname hok
    have h := hjudges i name hname
    rw [hok] at h
    exact h
  rw [checkRequired_eq_forM]
  cases h : schema.own.required.forM fun name => demand (fields.contains name) (.missing name) with
  | ok u =>
    intro c hge hlt
    obtain ⟨i, rfl⟩ := eq_required_of_rank_eq (Nat.le_antisymm (Nat.le_of_lt_succ hlt) hge)
    refine satisfied_here.mpr fun name fields' hname hdata => ?_
    exact hmeets i name hname (forM_eq_ok_iff.mp h name (List.mem_of_getElem? hname)) name fields'
      hname hdata
  | error v =>
    obtain ⟨before, name, after, hrequired, herror, hbefore⟩ := exists_of_forM_eq_error h
    have hname : schema.own.required[before.length]? = some name := by simp [hrequired]
    have hjudged := hjudges _ name hname
    rw [herror] at hjudged
    obtain ⟨hplace, hnot, hreports⟩ := hjudged
    refine ⟨⟨[], .required before.length⟩, Nat.le_refl _, Nat.lt_succ_self _,
      ⟨hplace, schema, _, .here, hnot, hreports⟩, fun _ earlier hge hprecedes => ?_⟩
    obtain ⟨j, rfl⟩ := eq_required_of_rank_eq (Nat.le_antisymm hprecedes.rank_le hge)
    have hj := hprecedes.of_required
    rw [satisfied_here]
    intro name' fields' hname' hdata
    have hmem : name' ∈ before := by
      rw [hrequired, List.getElem?_append_left hj] at hname'
      exact List.mem_of_getElem? hname'
    exact hmeets j name' hname' (hbefore name' hmem) name' fields' hname' hdata

end Decides

def checkContent (schema : Schema) : Json → Except Violation Unit
  | .object fields => do
    checkRequired fields schema.own.required
    checkProperties schema.properties fields
  | .array items => do
    checkCount schema.own items
    checkElements schema.items items
  | .string s => checkText schema.own s
  | .number n => checkNumber schema.own n.toDouble
  | _ => .ok ()

theorem checkNode_eq (schema : Schema) (data : Json) :
    checkNode schema data = (do
      checkKind schema.own data
      checkAllowed schema.own data
      checkContent schema data
      checkCustom schema.own data) := by
  obtain ⟨own, properties, items⟩ := schema
  cases data <;> simp only [checkNode, checkContent, bind_assoc]

def contentRanks : Json → Nat × Nat
  | .object _ => (2, 4)
  | .array _ => (4, 7)
  | .string _ => (7, 10)
  | .number _ => (10, 12)
  | _ => (12, 12)

theorem satisfied_of_outside (schema : Schema) (data : Json) (c : Constraint) (hge : 2 ≤ c.rank)
    (hlt : c.rank < 12)
    (houtside : ¬((contentRanks data).1 ≤ c.rank ∧ c.rank < (contentRanks data).2)) :
    c.Satisfied schema data := by
  obtain ⟨_ | ⟨step, place⟩, aspect⟩ := c
  · rw [satisfied_here]
    cases data <;> cases aspect <;> simp_all [Demands.Meets, contentRanks, rank, Aspect.rank]
  · refine (satisfied_under (c := ⟨place, aspect⟩)).mpr fun inner value h => ?_
    cases h <;> simp_all [contentRanks, rank, Step.rank]

namespace Decides

theorem properties (fields : Fields Json)
    (hdecided : ∀ child ∈ childProperties schema.properties fields, child.Decided) :
    Decides schema (.object fields) 3 4 (checkProperties schema.properties fields) := by
  rw [checkProperties_eq_forM]
  refine children 3 ?_ ?_ (fun child => mem_childProperties) ?_ hdecided
  · intro aspect
    cases aspect <;> simp [Aspect.rank]
  · intro child hmem
    obtain ⟨entry, -, hentry⟩ := List.mem_filterMap.mp hmem
    obtain ⟨value, -, rfl⟩ := Option.map_eq_some_iff.mp hentry
    rfl
  · rintro ⟨hnames, -, -⟩
    exact before_childProperties hnames

theorem elements (items : List Json)
    (hdecided : ∀ inner, schema.items = some inner → ∀ child ∈ childItems inner items 0,
      child.Decided) :
    Decides schema (.array items) 6 7 (checkElements schema.items items) := by
  have hrank : ∀ aspect : Aspect, aspect.rank ≠ 6 := by
    intro aspect
    cases aspect <;> simp [Aspect.rank]
  cases hitems : schema.items with
  | none =>
    -- Without a schema for items there is none below.
    rintro ⟨_ | ⟨step, place⟩, aspect⟩ hge hlt
    · exact absurd (Nat.le_antisymm (Nat.le_of_lt_succ hlt) hge) (hrank aspect)
    · refine (satisfied_under (c := ⟨place, aspect⟩)).mpr fun inner value h => ?_
      cases h with
      | item hschema _ =>
        rw [hitems] at hschema
        cases hschema
  | some inner =>
    rw [checkElements, checkItems_eq_forM]
    refine children 6 hrank ?_ (fun child => mem_childItems hitems) ?_ (hdecided inner hitems)
    · intro child hmem
      obtain ⟨item, -, rfl⟩ := List.mem_map.mp hmem
      rfl
    · exact fun _ => before_childItems inner items 0

theorem content
    (hproperties : ∀ entry ∈ schema.properties, ∀ value,
      Decides entry.2 value 0 13 (checkNode entry.2 value))
    (hitems : ∀ inner, schema.items = some inner → ∀ value,
      Decides inner value 0 13 (checkNode inner value)) :
    Decides schema data 2 12 (checkContent schema data) := by
  have hwithin : Decides schema data (contentRanks data).1 (contentRanks data).2
      (checkContent schema data) := by
    cases data with
    | object fields =>
      have hbelow := properties fields fun child hchild => by
        obtain ⟨entry, hmem, hentry⟩ := List.mem_filterMap.mp hchild
        obtain ⟨value, -, rfl⟩ := Option.map_eq_some_iff.mp hentry
        exact hproperties entry hmem value
      have hobject : Decides schema (.object fields) 2 4 (checkContent schema (.object fields)) :=
        (required schema fields).bind 3 (by decide) (by decide) hbelow
      exact hobject
    | array items =>
      have hbelow := elements items fun inner hinner child hchild => by
        obtain ⟨item, -, rfl⟩ := List.mem_map.mp hchild
        exact hitems inner hinner item.1
      have harray : Decides schema (.array items) 4 7 (checkContent schema (.array items)) :=
        (count schema items).bind 6 (by decide) (by decide) hbelow
      exact harray
    | string s => exact text schema s
    | number n => exact number schema n
    | _ => exact fun c hge hlt => absurd hlt (Nat.not_lt.mpr hge)
  refine hwithin.widen ?_ ?_ (satisfied_of_outside schema data)
  · cases data <;> simp [contentRanks]
  · cases data <;> simp [contentRanks]

end Decides

theorem decides_checkNode (schema : Schema) (data : Json) :
    Decides schema data 0 13 (checkNode schema data) := by
  induction schema using induct generalizing data with
  | node own properties items hproperties hitems =>
    rw [checkNode_eq]
    have hcontent : Decides ⟨own, properties, items⟩ data 2 12
        (checkContent ⟨own, properties, items⟩ data) := .content hproperties hitems
    exact (Decides.kind _ data).bind 1 (by decide) (by decide) <|
      (Decides.allowed _ data).bind 2 (by decide) (by decide) <|
      hcontent.bind 12 (by decide) (by decide) (Decides.custom _ data)

theorem checkNode_eq_ok_iff : checkNode schema data = .ok () ↔ Valid schema data := by
  have h := decides_checkNode schema data
  rw [valid_iff_satisfied]
  cases hcheck : checkNode schema data with
  | ok u =>
    rw [hcheck] at h
    exact iff_of_true rfl h.satisfied
  | error v =>
    rw [hcheck] at h
    obtain ⟨c, -, -, hbroken, -⟩ := h
    exact iff_of_false nofun fun hall => hbroken.not_satisfied (hall c)

/-- Data pass the check of a schema exactly if they are valid. If they do not, a constraint that they
break is reported, and they satisfy every constraint that comes before it. -/
theorem meaning_of_checkNode (schema : Schema) (data : Json) :
    (checkNode schema data = .ok () ↔ Valid schema data) ∧
    ∀ v, checkNode schema data = .error v →
      ∃ c : Constraint, c.Broken schema data v ∧
        (schema.Ordered → ∀ earlier, Precedes earlier c → earlier.Satisfied schema data) := by
  refine ⟨checkNode_eq_ok_iff, fun v hcheck => ?_⟩
  have h := decides_checkNode schema data
  rw [hcheck] at h
  obtain ⟨c, -, -, hbroken, hearlier⟩ := h
  exact ⟨c, hbroken, fun hordered earlier => hearlier hordered earlier (Nat.zero_le _)⟩

namespace Sample

def text : Schema := ⟨{ any.own with kind := some .string, minLength := some 2 }, [], none⟩

def texts : Schema := ⟨{ any.own with kind := some .array, maxItems := some 3 }, [], some text⟩

def record : Schema :=
  ⟨{ any.own with kind := some .object, required := ["tags", "name"] },
    [("name", text), ("tags", texts)], none⟩

/-- The second tag is no text, and the third is too short. -/
def given : Json :=
  .object [("tags", .array [.string "ok", .int 5, .string "a"]), ("name", .string "al")]

theorem ordered_record : record.Ordered := by
  have htext : text.Ordered := .node .nil nofun nofun
  have htexts : texts.Ordered := .node .nil nofun fun inner h => Option.some.inj h ▸ htext
  refine .node (by decide) ?_ nofun
  simp [htext, htexts]

end Sample

theorem meaning_of_sample_checkNode :
    Sample.record.Ordered ∧
    checkNode Sample.record Sample.given =
      .error ⟨[.property "tags", .item 1], .kind .string (.int 5)⟩ ∧
    ∃ c : Constraint, c.Broken Sample.record Sample.given
        ⟨[.property "tags", .item 1], .kind .string (.int 5)⟩ ∧
      ∀ earlier, Precedes earlier c → earlier.Satisfied Sample.record Sample.given := by
  refine ⟨Sample.ordered_record, rfl, ?_⟩
  obtain ⟨c, hbroken, hearlier⟩ := (meaning_of_checkNode Sample.record Sample.given).2 _ rfl
  exact ⟨c, hbroken, hearlier Sample.ordered_record⟩

end Schema

end HttpScenario
