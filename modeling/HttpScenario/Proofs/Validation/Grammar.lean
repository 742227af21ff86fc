import HttpScenario.Proofs.Condition.Grammar
import HttpScenario.Proofs.Fields
import HttpScenario.Proofs.Json.Inside
import HttpScenario.Proofs.Validation.Meaning
import HttpScenario.Validation.Form
import Mathlib.Tactic.FinCases

/-! What data are validations, and which. An object with a keyword as its only field is read by that
keyword, whose argument must have its form; every other object is a list of entries. What is read
keeps all entries and members in order and nests no deeper than the data. -/

namespace HttpScenario.Validation

open Success

def checkKeywords : List String :=
  ["status", "statusRange", "contentType", "hasField", "fieldEquals", "fieldMatches",
    "arrayLength", "arrayNotEmpty", "hasHeader", "headerEquals", "schema"]

def textChecks : List (String × (String → Check)) :=
  [("contentType", .contentType), ("hasField", .hasField), ("arrayNotEmpty", .arrayNotEmpty),
    ("hasHeader", .hasHeader)]

def combinations : List (String × (List Spec → Spec)) := [("and", .and), ("or", .or)]

def keywords : List String := checkKeywords ++ combinations.map Prod.fst ++ ["not"]

inductive ReadsCheck : String → Json → Check → Prop
  | status {code n} (h : Condition.IsStatus code n) : ReadsCheck "status" code (.status n)
  | statusIn {codes ns} (h : List.Forall₂ Condition.IsStatus codes ns) :
      ReadsCheck "status" (.array codes) (.statusIn ns)
  | statusRange {low high least most} (hlow : Condition.IsStatus low least)
      (hhigh : Condition.IsStatus high most) :
      ReadsCheck "statusRange" (.array [low, high]) (.statusRange least most)
  | text {keyword s check} (h : (keyword, check) ∈ textChecks) :
      ReadsCheck keyword (.string s) (check s)
  | fieldEquals {argument path value} (hpath : argument.field? "path" = some (.string path))
      (hvalue : argument.field? "value" = some value) :
      ReadsCheck "fieldEquals" argument (.fieldEquals path value)
  | fieldMatches {argument path source pattern}
      (hpath : argument.field? "path" = some (.string path))
      (hsource : argument.field? "pattern" = some (.string source))
      (hpattern : Pattern.ofText source = .ok pattern) :
      ReadsCheck "fieldMatches" argument (.fieldMatches path pattern)
  | arrayLength {argument path n} (hpath : argument.field? "path" = some (.string path))
      (hlength : argument.field? "length" = some (.nat n)) (hn : n < 2 ^ 64) :
      ReadsCheck "arrayLength" argument (.arrayLength path n)
  | headerEquals {argument name value} (hname : argument.field? "name" = some (.string name))
      (hvalue : argument.field? "value" = some value) :
      ReadsCheck "headerEquals" argument (.headerEquals name value.plainText)
  | schema {argument demands} (h : Schema.ofJson? argument = some demands) :
      ReadsCheck "schema" argument (.schema demands)

def IsKeyword (fields : Fields Json) : Prop :=
  ∃ keyword argument, fields = [(keyword, argument)] ∧ keyword ∈ keywords

inductive Form (R : Json → Spec → Prop) : Json → Spec → Prop
  | name {s} : Form R (.string s) (.named s)
  | check {keyword argument c} (h : ReadsCheck keyword argument c) :
      Form R (.object [(keyword, argument)]) (.check c)
  | combination {keyword combine values specs} (hkeyword : (keyword, combine) ∈ combinations)
      (h : List.Forall₂ R values specs) :
      Form R (.object [(keyword, .array values)]) (combine specs)
  | not {argument spec} (h : R argument spec) : Form R (.object [("not", argument)]) (.not spec)
  | entries {fields entries} (hkeyword : ¬IsKeyword fields)
      (h : List.Forall₂ (Named R) fields entries) : Form R (.object fields) (.all entries)

inductive Reads : Json → Spec → Prop
  | intro {value spec} (h : Form Reads value spec) : Reads value spec

inductive Accepted : Json → Prop
  | intro {value spec} (h : Form (fun part _ => Accepted part) value spec) : Accepted value

inductive PredicateFree : Spec → Prop
  | intro {spec} (hself : ∀ p, spec ≠ .predicate p)
      (hbelow : ∀ inner, Below [] inner spec → PredicateFree inner) : PredicateFree spec

section Checks

variable {keyword name : String} {argument value : Json} {c : Check} {n : Nat} {s : String}

theorem statusOf_eq_ok_iff : statusOf value = .ok n ↔ Condition.IsStatus value n := by
  rw [← Condition.statusCode?_eq_some_iff, statusOf]
  cases Condition.statusCode? value with
  | none => exact ⟨nofun, nofun⟩
  | some m => rw [Except.ok.injEq, Option.some.injEq]

theorem textOf_eq_ok_iff {wanted : String} :
    textOf keyword wanted value = .ok s ↔ value = .string s := by
  cases value with
  | string t => simp [textOf]
  | _ => exact ⟨nofun, nofun⟩

theorem fieldOf_eq_ok_iff :
    fieldOf keyword name argument = .ok value ↔ argument.field? name = some value := by
  rw [fieldOf]
  cases argument.field? name with
  | none => exact ⟨nofun, nofun⟩
  | some found => rw [Except.ok.injEq, Option.some.injEq]

theorem argumentText_eq_ok_iff : argumentText name value = .ok s ↔ value = .string s := by
  cases value with
  | string t => simp [argumentText]
  | _ => exact ⟨nofun, nofun⟩

theorem ne_of_mem_textChecks {other : String} {check : String → Check}
    (h : (keyword, check) ∈ textChecks) (hother : other ∉ textChecks.map Prod.fst) :
    other ≠ keyword := by
  rintro rfl
  exact hother (List.mem_map_of_mem h)

theorem statusCheck_eq_ok_iff : statusCheck argument = .ok c ↔ ReadsCheck "status" argument c := by
  constructor
  · intro h
    unfold statusCheck at h
    split at h
    · obtain ⟨ns, hcodes, rfl⟩ := map_eq_ok_iff.1 h
      simp only [mapM_eq_ok_iff, statusOf_eq_ok_iff] at hcodes
      exact .statusIn hcodes
    · obtain ⟨n, hcode, rfl⟩ := map_eq_ok_iff.1 h
      exact .status (statusOf_eq_ok_iff.1 hcode)
  · intro h
    generalize hkeyword : "status" = keyword at h
    cases h with
    | status hcode =>
      cases hcode with
      | code hlt =>
        rename_i n
        have hone : statusCheck (.nat n) = (statusOf (.nat n)).map .status := rfl
        rw [hone, statusOf_eq_ok_iff.2 (.code hlt)]
        rfl
    | statusIn hcodes =>
      refine map_eq_ok_iff.2 ⟨_, mapM_eq_ok_iff.2 ?_, rfl⟩
      exact hcodes.imp fun _ _ => statusOf_eq_ok_iff.2
    | text hmem => exact absurd hkeyword (ne_of_mem_textChecks hmem (by decide))
    | _ => exact absurd hkeyword (by decide)

theorem rangeCheck_eq_ok_iff :
    rangeCheck argument = .ok c ↔ ReadsCheck "statusRange" argument c := by
  constructor
  · intro h
    unfold rangeCheck at h
    split at h
    · simp only [bind_eq_ok_iff, statusOf_eq_ok_iff] at h
      obtain ⟨least, hlow, most, hhigh, hrange⟩ := h
      cases hrange
      exact .statusRange hlow hhigh
    · cases h
  · intro h
    generalize hkeyword : "statusRange" = keyword at h
    cases h with
    | @statusRange low high least most hlow hhigh =>
      exact bind_eq_ok_iff.2 ⟨least, statusOf_eq_ok_iff.2 hlow,
        bind_eq_ok_iff.2 ⟨most, statusOf_eq_ok_iff.2 hhigh, rfl⟩⟩
    | text hmem => exact absurd hkeyword (ne_of_mem_textChecks hmem (by decide))
    | _ => exact absurd hkeyword (by decide)

theorem fieldEqualsCheck_eq_ok_iff :
    fieldEqualsCheck argument = .ok c ↔ ReadsCheck "fieldEquals" argument c := by
  simp only [fieldEqualsCheck, bind_eq_ok_iff, fieldOf_eq_ok_iff, argumentText_eq_ok_iff]
  constructor
  · rintro ⟨_, hpath, path, rfl, value, hvalue, h⟩
    cases h
    exact .fieldEquals hpath hvalue
  · intro h
    generalize hkeyword : "fieldEquals" = keyword at h
    cases h with
    | @fieldEquals argument path value hpath hvalue =>
      exact ⟨_, hpath, path, rfl, value, hvalue, rfl⟩
    | text hmem => exact absurd hkeyword (ne_of_mem_textChecks hmem (by decide))
    | _ => exact absurd hkeyword (by decide)

theorem fieldMatchesCheck_eq_ok_iff :
    fieldMatchesCheck argument = .ok c ↔ ReadsCheck "fieldMatches" argument c := by
  simp only [fieldMatchesCheck, bind_eq_ok_iff, fieldOf_eq_ok_iff, argumentText_eq_ok_iff,
    mapError_eq_ok_iff]
  constructor
  · rintro ⟨_, hpath, _, hsource, source, rfl, pattern, hpattern, path, rfl, h⟩
    cases h
    exact .fieldMatches hpath hsource hpattern
  · intro h
    generalize hkeyword : "fieldMatches" = keyword at h
    cases h with
    | @fieldMatches argument path source pattern hpath hsource hpattern =>
      exact ⟨_, hpath, _, hsource, source, rfl, pattern, hpattern, path, rfl, rfl⟩
    | text hmem => exact absurd hkeyword (ne_of_mem_textChecks hmem (by decide))
    | _ => exact absurd hkeyword (by decide)

theorem arrayLengthCheck_eq_ok_iff :
    arrayLengthCheck argument = .ok c ↔ ReadsCheck "arrayLength" argument c := by
  simp only [arrayLengthCheck, bind_eq_ok_iff, fieldOf_eq_ok_iff, argumentText_eq_ok_iff]
  constructor
  · rintro ⟨_, hpath, length, hlength, path, rfl, h⟩
    split at h
    · cases h
      obtain ⟨rfl, hlt⟩ := Json.asNat64?_eq_some_iff.1 ‹_›
      exact .arrayLength hpath hlength hlt
    · cases h
  · intro h
    generalize hkeyword : "arrayLength" = keyword at h
    cases h with
    | @arrayLength argument path n hpath hlength hlt =>
      refine ⟨_, hpath, _, hlength, path, rfl, ?_⟩
      rw [Json.asNat64?_eq_some_iff.2 ⟨rfl, hlt⟩]
      rfl
    | text hmem => exact absurd hkeyword (ne_of_mem_textChecks hmem (by decide))
    | _ => exact absurd hkeyword (by decide)

theorem headerEqualsCheck_eq_ok_iff :
    headerEqualsCheck argument = .ok c ↔ ReadsCheck "headerEquals" argument c := by
  simp only [headerEqualsCheck, bind_eq_ok_iff, fieldOf_eq_ok_iff, argumentText_eq_ok_iff]
  constructor
  · rintro ⟨_, hname, value, hvalue, name, rfl, h⟩
    cases h
    exact .headerEquals hname hvalue
  · intro h
    generalize hkeyword : "headerEquals" = keyword at h
    cases h with
    | @headerEquals argument name value hname hvalue =>
      exact ⟨_, hname, value, hvalue, name, rfl, rfl⟩
    | text hmem => exact absurd hkeyword (ne_of_mem_textChecks hmem (by decide))
    | _ => exact absurd hkeyword (by decide)

theorem schemaCheck_eq_ok_iff :
    schemaCheck argument = .ok c ↔ ReadsCheck "schema" argument c := by
  rw [schemaCheck]
  constructor
  · intro h
    split at h
    · cases h
      exact .schema ‹_›
    · cases h
  · intro h
    generalize hkeyword : "schema" = keyword at h
    cases h with
    | @schema argument demands h =>
      rw [h]
    | text hmem => exact absurd hkeyword (ne_of_mem_textChecks hmem (by decide))
    | _ => exact absurd hkeyword (by decide)

theorem ReadsCheck.mem_checkKeywords (h : ReadsCheck keyword argument c) :
    keyword ∈ checkKeywords := by
  cases h with
  | text h =>
    have hsub : textChecks.map Prod.fst ⊆ checkKeywords := by decide
    exact hsub (List.mem_map_of_mem h)
  | _ => decide

theorem textCheck_eq_ok_iff {wanted : String} {check : String → Check}
    (hmem : (keyword, check) ∈ textChecks) :
    (textOf keyword wanted argument).map check = .ok c ↔ ReadsCheck keyword argument c := by
  simp only [map_eq_ok_iff, textOf_eq_ok_iff]
  constructor
  · rintro ⟨s, rfl, rfl⟩
    exact .text hmem
  · intro h
    have hnodup : (Fields.names textChecks).Nodup := by decide
    cases h with
    | text hother =>
      have heq := Fields.eq_of_name_eq hnodup hmem hother rfl
      exact ⟨_, rfl, by rw [(Prod.mk.inj heq).2]⟩
    | _ => simp [textChecks] at hmem

theorem checkOf?_eq_none_iff : checkOf? keyword argument = none ↔ keyword ∉ checkKeywords := by
  unfold checkOf?
  split
  iterate 11 exact iff_of_false nofun (not_not_intro (by decide))
  simp_all [checkKeywords]

theorem checkOf?_eq_ok_iff :
    checkOf? keyword argument = some (.ok c) ↔ ReadsCheck keyword argument c := by
  by_cases hmem : keyword ∈ checkKeywords
  · rw [checkKeywords] at hmem
    fin_cases hmem
    · exact Option.some_inj.trans statusCheck_eq_ok_iff
    · exact Option.some_inj.trans rangeCheck_eq_ok_iff
    · exact Option.some_inj.trans (textCheck_eq_ok_iff (by simp [textChecks]))
    · exact Option.some_inj.trans (textCheck_eq_ok_iff (by simp [textChecks]))
    · exact Option.some_inj.trans fieldEqualsCheck_eq_ok_iff
    · exact Option.some_inj.trans fieldMatchesCheck_eq_ok_iff
    · exact Option.some_inj.trans arrayLengthCheck_eq_ok_iff
    · exact Option.some_inj.trans (textCheck_eq_ok_iff (by simp [textChecks]))
    · exact Option.some_inj.trans (textCheck_eq_ok_iff (by simp [textChecks]))
    · exact Option.some_inj.trans headerEqualsCheck_eq_ok_iff
    · exact Option.some_inj.trans schemaCheck_eq_ok_iff
  · rw [checkOf?_eq_none_iff.2 hmem]
    exact iff_of_false nofun fun h => hmem h.mem_checkKeywords

end Checks

section Entries

variable {value argument part : Json} {fields : Fields Json} {spec inner : Spec}
  {keyword : String}

theorem specsOf_eq_ok_iff {values : List Json} {specs : List Spec} :
    specsOf values = .ok specs ↔
      List.Forall₂ (fun value spec => specOf value = .ok spec) values specs := by
  induction values generalizing specs with
  | nil =>
    rw [specsOf]
    exact nil_eq_ok_iff
  | cons value values ih =>
    rw [specsOf, cons_eq_ok_iff, List.forall₂_cons_left_iff]
    simp only [ih]

theorem entriesOf_eq_ok_iff {entries : List (String × Spec)} :
    entriesOf fields = .ok entries ↔
      List.Forall₂ (Named fun value spec => specOf value = .ok spec) fields entries := by
  induction fields generalizing entries with
  | nil =>
    rw [entriesOf]
    exact nil_eq_ok_iff
  | cons field fields ih =>
    rw [entriesOf, named_cons_eq_ok_iff, List.forall₂_cons_left_iff]
    simp only [ih]

theorem specOf_check_eq_ok_iff (h : keyword ∈ checkKeywords) :
    specOf (.object [(keyword, argument)]) = .ok spec ↔
      ∃ c, ReadsCheck keyword argument c ∧ Spec.check c = spec := by
  rw [specOf, soleFieldOf.eq_def]
  split
  · next check hcheck =>
    simp only [map_eq_ok_iff, ← checkOf?_eq_ok_iff, hcheck, Option.some_inj]
  · next hnone => exact absurd h (checkOf?_eq_none_iff.1 hnone)

theorem listOf_eq_ok_iff {specs : List Spec} :
    listOf keyword argument = .ok specs ↔
      ∃ values, argument = .array values ∧
        List.Forall₂ (fun value spec => specOf value = .ok spec) values specs := by
  rw [listOf.eq_def]
  simp only [← specsOf_eq_ok_iff]
  split
  · next values => simp
  · next hlist =>
    constructor
    · intro h
      cases h
    · rintro ⟨values, rfl, -⟩
      exact absurd rfl (hlist values)

theorem eq_of_mem_combinations {combine : List Spec → Spec}
    (h : (keyword, combine) ∈ combinations) :
    keyword = "and" ∧ combine = .and ∨ keyword = "or" ∧ combine = .or := by
  simpa [combinations] using h

theorem specOf_combination {combine : List Spec → Spec} (h : (keyword, combine) ∈ combinations) :
    specOf (.object [(keyword, argument)]) = (listOf keyword argument).map combine := by
  rcases eq_of_mem_combinations h with ⟨rfl, rfl⟩ | ⟨rfl, rfl⟩
  all_goals
    rw [specOf, soleFieldOf]
    rfl

theorem specOf_not : specOf (.object [("not", argument)]) = (specOf argument).map .not := by
  rw [specOf, soleFieldOf]
  rfl

theorem specOf_entries (h : ¬IsKeyword fields) :
    specOf (.object fields) = (entriesOf fields).map .all := by
  match fields with
  | [(name, argument)] =>
    have hname : name ∉ keywords := fun hmem => h ⟨name, argument, rfl, hmem⟩
    simp only [keywords, combinations, List.map_cons, List.mem_append, List.mem_cons, not_or]
      at hname
    obtain ⟨⟨hcheck, hand, hor, -⟩, hnot, -⟩ := hname
    -- a single field whose name is no keyword is an entry like any other
    rw [specOf, soleFieldOf.eq_def, checkOf?_eq_none_iff.2 hcheck, entriesOf, entriesOf]
    split
    · contradiction
    · split
      · exact absurd rfl hand
      · exact absurd rfl hor
      · exact absurd rfl hnot
      · cases specOf argument <;> rfl
  | [] =>
    rw [specOf]
    simp
  | _ :: _ :: _ =>
    rw [specOf]
    simp

end Entries

section Grammar

variable {value argument : Json} {fields : Fields Json} {spec inner : Spec} {keyword : String}

theorem exists_combination (h : keyword ∈ combinations.map Prod.fst) :
    ∃ combine, (keyword, combine) ∈ combinations := by
  simpa using h

theorem form_of_specOf (h : specOf value = .ok spec) :
    Form (fun part inner => specOf part = .ok inner) value spec := by
  cases value with
  | string s =>
    rw [specOf] at h
    cases h
    exact .name
  | object fields =>
    by_cases hkeyword : IsKeyword fields
    · obtain ⟨keyword, argument, rfl, hmem⟩ := hkeyword
      simp only [keywords, List.mem_append, List.mem_singleton] at hmem
      rcases hmem with (hcheck | hcombination) | rfl
      · obtain ⟨c, hreads, rfl⟩ := (specOf_check_eq_ok_iff hcheck).1 h
        exact .check hreads
      · obtain ⟨combine, hcombination⟩ := exists_combination hcombination
        rw [specOf_combination hcombination] at h
        obtain ⟨specs, hlist, rfl⟩ := map_eq_ok_iff.1 h
        obtain ⟨values, rfl, hspecs⟩ := listOf_eq_ok_iff.1 hlist
        exact .combination hcombination hspecs
      · rw [specOf_not] at h
        obtain ⟨inner, hinner, rfl⟩ := map_eq_ok_iff.1 h
        exact .not hinner
    · rw [specOf_entries hkeyword] at h
      obtain ⟨entries, hentries, rfl⟩ := map_eq_ok_iff.1 h
      exact .entries hkeyword (entriesOf_eq_ok_iff.1 hentries)
  | _ =>
    rw [specOf] at h
    · cases h
    all_goals simp

theorem specOf_of_form (h : Form (fun part inner => specOf part = .ok inner) value spec) :
    specOf value = .ok spec := by
  cases h with
  | name => rw [specOf]
  | check h => exact (specOf_check_eq_ok_iff h.mem_checkKeywords).2 ⟨_, h, rfl⟩
  | combination hmem h =>
    rw [specOf_combination hmem]
    exact map_eq_ok_iff.2 ⟨_, listOf_eq_ok_iff.2 ⟨_, rfl, h⟩, rfl⟩
  | not h =>
    rw [specOf_not]
    exact map_eq_ok_iff.2 ⟨_, h, rfl⟩
  | entries hkeyword h =>
    rw [specOf_entries hkeyword]
    exact map_eq_ok_iff.2 ⟨_, entriesOf_eq_ok_iff.2 h, rfl⟩

theorem Form.imp {R S : Json → Spec → Prop}
    (h : ∀ part, Json.Inside part value → ∀ inner, R part inner → S part inner)
    (hform : Form R value spec) : Form S value spec := by
  cases hform with
  | name => exact .name
  | check hcheck => exact .check hcheck
  | combination hmem hspecs =>
    refine .combination hmem (forall₂_imp (fun part hpart => ?_) hspecs)
    exact h part (Json.inside_item hpart).sole
  | not hinner => exact .not (h _ Json.inside_sole _ hinner)
  | entries hkeyword hentries =>
    exact .entries hkeyword
      (forall₂_imp (fun field hfield entry => Named.imp (h field.2 (Json.inside_field hfield)))
        hentries)

theorem Form.exists_form {R S : Json → Spec → Prop}
    (h : ∀ part, Json.Inside part value → ∀ inner, R part inner → ∃ other, S part other)
    (hform : Form R value spec) : ∃ other, Form S value other := by
  cases hform with
  | name => exact ⟨_, .name⟩
  | check hcheck => exact ⟨_, .check hcheck⟩
  | @combination keyword combine values specs hmem hspecs =>
    have hparts : ∀ part ∈ values, ∃ other, S part other := by
      intro part hpart
      obtain ⟨inner, -, hinner⟩ := exists_of_forall₂_left hspecs hpart
      exact h part (Json.inside_item hpart).sole inner hinner
    obtain ⟨others, hothers⟩ := exists_forall₂ hparts
    exact ⟨_, .combination hmem hothers⟩
  | not hinner =>
    obtain ⟨other, hother⟩ := h _ Json.inside_sole _ hinner
    exact ⟨_, .not hother⟩
  | @entries fields entries hkeyword hentries =>
    have hparts : ∀ field ∈ fields, ∃ other, S field.2 other := by
      intro field hfield
      obtain ⟨inner, hinner⟩ := exists_of_forall₂_named hentries hfield
      exact h field.2 (Json.inside_field hfield) inner hinner
    obtain ⟨others, hothers⟩ := exists_forall₂_named hparts
    exact ⟨_, .entries hkeyword hothers⟩

theorem specOf_eq_ok_iff : specOf value = .ok spec ↔ Reads value spec := by
  induction value using Json.inside_induct generalizing spec with
  | h value ih =>
    constructor
    · intro h
      exact .intro ((form_of_specOf h).imp fun part hpart _ => (ih part hpart).1)
    · rintro ⟨h⟩
      exact specOf_of_form (h.imp fun part hpart _ => (ih part hpart).2)

theorem accepted_iff : Accepted value ↔ ∃ spec, Reads value spec := by
  induction value using Json.inside_induct with
  | h value ih =>
    constructor
    · rintro ⟨h⟩
      obtain ⟨spec, hspec⟩ := h.exists_form fun part hpart _ => (ih part hpart).1
      exact ⟨spec, .intro hspec⟩
    · rintro ⟨spec, ⟨h⟩⟩
      exact .intro (h.imp fun part hpart inner hinner => (ih part hpart).2 ⟨inner, hinner⟩)

/-- What lies below a specification stands for data inside the data that the whole stands for. -/
theorem Reads.exists_inside (h : Reads value spec) (hbelow : Below [] inner spec) :
    ∃ part, Json.Inside part value ∧ Reads part inner := by
  obtain ⟨h⟩ := h
  cases h with
  | name => cases below_named_iff.1 hbelow
  | check => exact absurd hbelow not_below_check
  | @combination keyword combine values specs hmem h =>
    have hinner : inner ∈ specs := by
      rcases eq_of_mem_combinations hmem with ⟨-, rfl⟩ | ⟨-, rfl⟩
      · exact below_and_iff.1 hbelow
      · exact below_or_iff.1 hbelow
    obtain ⟨part, hpart, hreads⟩ := exists_of_forall₂_right h hinner
    exact ⟨part, (Json.inside_item hpart).sole, hreads⟩
  | not h =>
    obtain rfl := below_not_iff.1 hbelow
    exact ⟨_, Json.inside_sole, h⟩
  | entries _ h =>
    obtain ⟨entry, hentry, rfl⟩ := List.mem_map.1 (below_all_iff.1 hbelow)
    obtain ⟨field, hfield, hreads⟩ := exists_of_forall₂_right h hentry
    exact ⟨field.2, Json.inside_field hfield, hreads.value⟩

theorem Reads.ne_predicate (h : Reads value spec) (p : Predicate) : spec ≠ .predicate p := by
  obtain ⟨h⟩ := h
  cases h with
  | combination hmem =>
    rcases eq_of_mem_combinations hmem with ⟨-, rfl⟩ | ⟨-, rfl⟩ <;> nofun
  | _ => nofun

theorem Reads.predicateFree (h : Reads value spec) : PredicateFree spec := by
  induction value using Json.inside_induct generalizing spec with
  | h value ih =>
    refine .intro h.ne_predicate fun inner hbelow => ?_
    obtain ⟨part, hinside, hreads⟩ := h.exists_inside hbelow
    exact ih part hinside hreads

theorem Reads.unfoldsWithin {n : Nat} (h : Reads value spec) (hnests : value.NestsWithin n) :
    UnfoldsWithin [] n spec := by
  induction n generalizing value spec with
  | zero =>
    intro inner hbelow
    obtain ⟨part, hinside, -⟩ := h.exists_inside hbelow
    exact Json.not_inside_of_nestsWithin hnests hinside
  | succ n ih =>
    intro inner hbelow
    obtain ⟨part, hinside, hreads⟩ := h.exists_inside hbelow
    exact ih hreads (hnests.of_inside hinside)

/-- Data are a specification exactly if they have one of its forms. It is the one that they stand
for, calls no function, and nests no deeper than they do. -/
theorem grammar_of_specOf (value : Json) :
    ((∃ spec, specOf value = .ok spec) ↔ Accepted value) ∧
      ∀ spec, (specOf value = .ok spec ↔ Reads value spec) ∧
        (specOf value = .ok spec →
          PredicateFree spec ∧ ∀ n, value.NestsWithin n → UnfoldsWithin [] n spec) := by
  refine ⟨?_, fun spec => ⟨specOf_eq_ok_iff, ?_⟩⟩
  · simp only [specOf_eq_ok_iff, accepted_iff]
  · intro h
    have hreads : Reads value spec := specOf_eq_ok_iff.1 h
    exact ⟨hreads.predicateFree, fun _ => hreads.unfoldsWithin⟩

end Grammar

end HttpScenario.Validation
