import HttpScenario.Extraction.Form
import HttpScenario.Proofs.Condition.Grammar
import HttpScenario.Proofs.Json.Inside

/-! What data are extraction rules, and which. Of the keywords in an object the first one in a fixed
order decides, and its argument must have the form that goes with it. Nothing is lost on the way:
entries and branches are kept in order, and what is no rule is kept whole. -/

namespace HttpScenario.Extraction

open Success

def ruleKeywords : List String :=
  ["multiple", "conditional", "array", "regex", "path", "computed"]

def projectionKeywords : List String := ["map", "find", "pluck"]

inductive IsText : Json → String → Prop
  | text {s} : IsText (.string s) s

inductive ReadsGroup : Option Json → Pattern.Group → Prop
  | whole : ReadsGroup none (.index 0)
  | index {n} (h : n < 2 ^ 64) : ReadsGroup (some (.nat n)) (.index n)
  | name {s} : ReadsGroup (some (.string s)) (.name s)

/-- A pattern and the object with its options: the outer one, or an object of its own. -/
inductive ReadsParts (outer : Json) : Json → String × Json → Prop
  | alone {source} : ReadsParts outer (.string source) (source, outer)
  | own {argument source} (h : argument.field? "pattern" = some (.string source)) :
      ReadsParts outer argument (source, argument)

inductive ReadsPattern (argument outer : Json) : PatternRule → Prop
  | intro {source options pattern group path}
      (hparts : ReadsParts outer argument (source, options))
      (hpattern : Pattern.ofText source = .ok pattern)
      (hgroup : ReadsGroup (options.field? "group") group)
      (hsource : Option.Rel IsText (options.field? "source") path) :
      ReadsPattern argument outer
        ⟨pattern, group, path, (outer.field? "default").or (options.field? "default")⟩

inductive ReadsLocated (argument outer : Json) : PathRule → Prop
  | intro {path transform filter} (hpath : IsText argument path)
      (htransform : Option.Rel IsText (outer.field? "transform") transform)
      (hfilter : Option.Rel Condition.Reads (outer.field? "filter") filter) :
      ReadsLocated argument outer
        ⟨path, transform.map .named, filter.map .condition, outer.field? "default"⟩

inductive ReadsSelection (argument outer : Json) : Selection → Prop
  | intro {path filter} (hpath : Option.Rel IsText (argument.field? "path") path)
      (hfilter : Option.Rel Condition.Reads (argument.field? "filter") filter) :
      ReadsSelection argument outer
        ⟨path.getD "data", filter, (outer.field? "default").or (argument.field? "default")⟩

inductive ReadsProjection (R : Json → Rule → Prop) : Option (String × Json) → Projection Rule → Prop
  | elements : ReadsProjection R none .elements
  | mapped {value rule} (h : R value rule) : ReadsProjection R (some ("map", value)) (.mapped rule)
  | first {value condition} (h : Condition.Reads value condition) :
      ReadsProjection R (some ("find", value)) (.first condition)
  | pluck {path} : ReadsProjection R (some ("pluck", .string path)) (.pluck path)

inductive ReadsBranch (R : Json → Rule → Prop) : Json → Condition × Rule → Prop
  | intro {fields test value condition rule} (hif : (Json.object fields).field? "if" = some test)
      (hthen : (Json.object fields).field? "then" = some value)
      (hcondition : Condition.Reads test condition) (hrule : R value rule) :
      ReadsBranch R (.object fields) (condition, rule)

inductive Form (R : Json → Rule → Prop) : Json → Rule → Prop
  | path {s} : Form R (.string s) (.path s)
  | unsupported {value} (htext : ∀ s, value ≠ .string s) (h : value.firstOf? ruleKeywords = none) :
      Form R value (.unsupported value)
  | multiple {value fields entries}
      (h : value.firstOf? ruleKeywords = some ("multiple", .object fields))
      (hentries : List.Forall₂ (Named R) fields entries) : Form R value (.multiple entries)
  | conditional {value items branches}
      (h : value.firstOf? ruleKeywords = some ("conditional", .array items))
      (hbranches : List.Forall₂ (ReadsBranch R) items branches) :
      Form R value (.conditional branches (value.field? "default"))
  | array {value fields selection projection}
      (h : value.firstOf? ruleKeywords = some ("array", .object fields))
      (hselection : ReadsSelection (.object fields) value selection)
      (hprojection :
        ReadsProjection R ((Json.object fields).firstOf? projectionKeywords) projection) :
      Form R value (.array selection projection)
  | pattern {value argument rule} (h : value.firstOf? ruleKeywords = some ("regex", argument))
      (hrule : ReadsPattern argument value rule) : Form R value (.pattern rule)
  | located {value argument rule} (h : value.firstOf? ruleKeywords = some ("path", argument))
      (hrule : ReadsLocated argument value rule) : Form R value (.located rule)
  | computed {value name} (h : value.firstOf? ruleKeywords = some ("computed", .string name)) :
      Form R value (.path name)

inductive Reads : Json → Rule → Prop
  | intro {value rule} (h : Form Reads value rule) : Reads value rule

inductive Accepted : Json → Prop
  | intro {value rule} (h : Form (fun part _ => Accepted part) value rule) : Accepted value

section Parts

variable {value argument outer options : Json} {name : String} {c : Condition}

theorem conditionOf_eq_ok_iff : conditionOf value = .ok c ↔ Condition.Reads value c := by
  rw [conditionOf, mapError_eq_ok_iff, Condition.ofJson_eq_ok_iff]

theorem conditionAt_eq_ok_iff {c : Option Condition} :
    conditionAt value name = .ok c ↔ Option.Rel Condition.Reads (value.field? name) c := by
  rw [conditionAt]
  cases value.field? name with
  | none =>
    constructor
    · rintro ⟨⟩
      exact .none
    · rintro ⟨⟩
      rfl
  | some condition =>
    simp only [map_eq_ok_iff, conditionOf_eq_ok_iff]
    constructor
    · rintro ⟨c, hc, rfl⟩
      exact .some hc
    · rintro (hc | _)
      exact ⟨_, hc, rfl⟩

theorem groupOf_eq_ok_iff {group : Pattern.Group} :
    groupOf options = .ok group ↔ ReadsGroup (options.field? "group") group := by
  rw [groupOf]
  generalize options.field? "group" = found
  constructor
  · intro h
    split at h
    · cases h
      exact .whole
    · split at h
      · cases h
        obtain ⟨rfl, hsize⟩ := Number.toNat64?_eq_some_iff.1 ‹_›
        exact .index hsize
      · cases h
    · cases h
      exact .name
    · cases h
  · rintro (_ | hsize | _)
    · rfl
    · next n =>
      have hint : (Number.int n).toNat64? = some n := Number.toNat64?_eq_some_iff.2 ⟨rfl, hsize⟩
      -- the number gets a name, lest its comparison with `2 ^ 64` be computed
      obtain ⟨m, hnat, hm⟩ : ∃ m, Json.nat n = .number m ∧ m.toNat64? = some n :=
        ⟨.int n, rfl, hint⟩
      rw [hnat]
      simp only [hm]
    · rfl

def optionalText (refuse : Json → FormError) : Option Json → Except FormError (Option String)
  | none => .ok none
  | some (.string s) => .ok (some s)
  | some other => .error (refuse other)

theorem optionalText_eq_ok_iff {refuse : Json → FormError} {found : Option Json}
    {text : Option String} :
    optionalText refuse found = .ok text ↔ Option.Rel IsText found text := by
  constructor
  · intro h
    unfold optionalText at h
    split at h
    · cases h
      exact .none
    · cases h
      exact .some .text
    · cases h
  · rintro (⟨⟨⟩⟩ | _) <;> rfl

theorem sourceOf_eq :
    sourceOf options = optionalText (fun _ => .sourceNotText) (options.field? "source") := by
  rw [sourceOf]
  generalize options.field? "source" = found
  cases found with
  | none => rfl
  | some text => cases text <;> rfl

theorem patternParts_eq_ok_iff {parts : String × Json} :
    patternParts argument outer = .ok parts ↔ ReadsParts outer argument parts := by
  constructor
  · intro h
    unfold patternParts at h
    split at h
    · cases h
      exact .alone
    · split at h
      · cases h
        exact .own ‹_›
      · cases h
    · cases h
  · rintro (_ | @⟨_, source, h⟩)
    · rfl
    · cases argument with
      | object fields => rw [patternParts, h]
      | _ => cases h

theorem patternRule_eq_ok_iff {rule : PatternRule} :
    patternRule argument outer = .ok rule ↔ ReadsPattern argument outer rule := by
  simp only [patternRule, bind_eq_ok_iff, patternParts_eq_ok_iff, mapError_eq_ok_iff,
    groupOf_eq_ok_iff, sourceOf_eq, optionalText_eq_ok_iff]
  constructor
  · rintro ⟨⟨source, options⟩, hparts, pattern, hpattern, group, hgroup, path, hsource, h⟩
    cases h
    exact .intro hparts hpattern hgroup hsource
  · rintro ⟨hparts, hpattern, hgroup, hsource⟩
    exact ⟨_, hparts, _, hpattern, _, hgroup, _, hsource, rfl⟩

theorem pathRule_string {path : String} :
    pathRule (.string path) outer = do
      let transform ← optionalText .transform (outer.field? "transform")
      let filter ← conditionAt outer "filter"
      return ⟨path, transform.map .named, filter.map .condition, outer.field? "default"⟩ := by
  unfold pathRule
  generalize outer.field? "transform" = found
  cases found with
  | none => rfl
  | some text => cases text <;> rfl

theorem pathRule_eq_ok_iff {rule : PathRule} :
    pathRule argument outer = .ok rule ↔ ReadsLocated argument outer rule := by
  cases argument with
  | string path =>
    simp only [pathRule_string, bind_eq_ok_iff, optionalText_eq_ok_iff, conditionAt_eq_ok_iff]
    constructor
    · rintro ⟨transform, htransform, filter, hfilter, h⟩
      cases h
      exact .intro .text htransform hfilter
    · rintro ⟨⟨⟩, htransform, hfilter⟩
      exact ⟨_, htransform, _, hfilter, rfl⟩
  | _ => exact ⟨nofun, fun ⟨h, _, _⟩ => nomatch h⟩

theorem selectionOf_eq :
    selectionOf argument outer = do
      let path ← optionalText .arrayPath (argument.field? "path")
      let filter ← conditionAt argument "filter"
      return ⟨path.getD "data", filter,
        (outer.field? "default").or (argument.field? "default")⟩ := by
  unfold selectionOf
  generalize argument.field? "path" = found
  cases found with
  | none => rfl
  | some text => cases text <;> rfl

theorem selectionOf_eq_ok_iff {selection : Selection} :
    selectionOf argument outer = .ok selection ↔ ReadsSelection argument outer selection := by
  simp only [selectionOf_eq, bind_eq_ok_iff, optionalText_eq_ok_iff, conditionAt_eq_ok_iff]
  constructor
  · rintro ⟨path, hpath, filter, hfilter, h⟩
    cases h
    exact .intro hpath hfilter
  · rintro ⟨hpath, hfilter⟩
    exact ⟨_, hpath, _, hfilter, rfl⟩

end Parts

section Rules

variable {value argument : Json} {rule : Rule}

theorem entriesOf_eq_ok_iff {fields : Fields Json} {entries : List (String × Rule)} :
    entriesOf fields = .ok entries ↔
      List.Forall₂ (Named fun part rule => ruleOf part = .ok rule) fields entries := by
  induction fields generalizing entries with
  | nil =>
    rw [entriesOf]
    exact nil_eq_ok_iff
  | cons field fields ih =>
    rw [entriesOf, named_cons_eq_ok_iff, List.forall₂_cons_left_iff]
    simp only [ih]

theorem specOf_eq_ok_iff {entries : List (String × Rule)} :
    specOf value = .ok entries ↔
      ∃ fields, value = .object fields ∧
        List.Forall₂ (Named fun part rule => ruleOf part = .ok rule) fields entries := by
  cases value with
  | object fields =>
    rw [specOf, entriesOf_eq_ok_iff]
    simp
  | _ => rw [specOf] <;> simp

theorem branchesOf_cons {branch test value : Json} {rest : List Json}
    (hif : branch.field? "if" = some test) (hthen : branch.field? "then" = some value) :
    branchesOf (branch :: rest) = do
      let condition ← conditionOf test
      let rule ← ruleOf value
      let others ← branchesOf rest
      return (condition, rule) :: others := by
  rw [branchesOf]
  split
  · simp_all
  · next found hfound =>
    cases hif.symm.trans hfound
    split
    · simp_all
    · next found hfound =>
      cases hthen.symm.trans hfound
      rfl

theorem branchesOf_eq_ok_iff {items : List Json} {branches : List (Condition × Rule)} :
    branchesOf items = .ok branches ↔
      List.Forall₂ (ReadsBranch fun part rule => ruleOf part = .ok rule) items branches := by
  induction items generalizing branches with
  | nil =>
    rw [branchesOf]
    exact nil_eq_ok_iff
  | cons item items ih =>
    rw [List.forall₂_cons_left_iff]
    constructor
    · intro h
      rw [branchesOf] at h
      split at h
      · cases h
      · split at h
        · cases h
        · simp only [bind_eq_ok_iff, conditionOf_eq_ok_iff, ih] at h
          obtain ⟨condition, hcondition, rule, hrule, others, hothers, h⟩ := h
          refine ⟨(condition, rule), others, ?_, hothers, (Except.ok.inj h).symm⟩
          cases item with
          | object fields => exact .intro ‹_› ‹_› hcondition hrule
          | _ => contradiction
    · rintro ⟨_, others, ⟨hif, hthen, hcondition, hrule⟩, hothers, rfl⟩
      exact (branchesOf_cons hif hthen).trans <|
        bind_eq_ok_iff.2 ⟨_, conditionOf_eq_ok_iff.2 hcondition,
          bind_eq_ok_iff.2 ⟨_, hrule, bind_eq_ok_iff.2 ⟨_, ih.2 hothers, rfl⟩⟩⟩

def projectionBy : Option (String × Json) → Except FormError (Projection Rule)
  | some ("map", value) => (ruleOf value).map .mapped
  | some ("find", value) => (conditionOf value).map .first
  | some ("pluck", .string path) => .ok (.pluck path)
  | some ("pluck", _) => .error .pluckNotText
  | _ => .ok .elements

theorem projectionOf_eq :
    projectionOf argument = projectionBy (argument.firstOf? projectionKeywords) := by
  rw [projectionOf]
  split
  · next value hmap =>
    have hfirst : argument.firstOf? projectionKeywords = some ("map", value) := by
      simp [projectionKeywords, hmap]
    rw [hfirst, projectionBy]
  split
  · next value hfind =>
    have hfirst : argument.firstOf? projectionKeywords = some ("find", value) := by
      simp [projectionKeywords, *]
    rw [hfirst, projectionBy]
  split
  · next path hpluck =>
    have hfirst : argument.firstOf? projectionKeywords = some ("pluck", .string path) := by
      simp [projectionKeywords, *]
    rw [hfirst, projectionBy]
  · next other htext hpluck =>
    have hfirst : argument.firstOf? projectionKeywords = some ("pluck", other) := by
      simp [projectionKeywords, *]
    rw [hfirst, projectionBy]
    exact htext
  · have hfirst : argument.firstOf? projectionKeywords = none := by simp [projectionKeywords, *]
    rw [hfirst, projectionBy] <;> simp

theorem projection_keyword {keyword : String}
    (h : value.firstOf? projectionKeywords = some (keyword, argument)) :
    keyword = "map" ∨ keyword = "find" ∨ keyword = "pluck" := by
  simpa [projectionKeywords] using Json.mem_of_firstOf? h

theorem projectionOf_eq_ok_iff {projection : Projection Rule} :
    projectionOf argument = .ok projection ↔
      ReadsProjection (fun part rule => ruleOf part = .ok rule)
        (argument.firstOf? projectionKeywords) projection := by
  rw [projectionOf_eq]
  cases hfirst : argument.firstOf? projectionKeywords with
  | none =>
    constructor
    · rintro ⟨⟩
      exact .elements
    · rintro ⟨⟩
      rfl
  | some found =>
    obtain ⟨keyword, found⟩ := found
    constructor
    · intro h
      rcases projection_keyword hfirst with rfl | rfl | rfl
      · obtain ⟨rule, hrule, rfl⟩ := map_eq_ok_iff.1 h
        exact .mapped hrule
      · obtain ⟨condition, hcondition, rfl⟩ := map_eq_ok_iff.1 h
        exact .first (conditionOf_eq_ok_iff.1 hcondition)
      · cases found with
        | string path =>
          cases h
          exact .pluck
        | _ => cases h
    · rintro (_ | hrule | hcondition | _)
      · exact map_eq_ok_iff.2 ⟨_, hrule, rfl⟩
      · exact map_eq_ok_iff.2 ⟨_, conditionOf_eq_ok_iff.2 hcondition, rfl⟩
      · rfl

/-- The rule by the keyword that decides. The cascade of `ruleOf` carries proofs for its termination,
which stand in the way of rewriting its tests one by one. -/
def ruleBy (value : Json) : Option (String × Json) → Except FormError Rule
  | some ("multiple", entries) => (specOf entries).map .multiple
  | some ("conditional", .array branches) =>
    (branchesOf branches).map fun found => .conditional found (value.field? "default")
  | some ("conditional", _) => .error .branchesNotList
  | some ("array", .object inner) => do
    let selection ← selectionOf (.object inner) value
    let projection ← projectionOf (.object inner)
    return .array selection projection
  | some ("array", _) => .error .arrayNotMapping
  | some ("regex", argument) => (patternRule argument value).map .pattern
  | some ("path", argument) => (pathRule argument value).map .located
  | some ("computed", .string name) => .ok (.path name)
  | some ("computed", _) => .error .computedNotText
  | _ => .ok (.unsupported value)

theorem ruleOf_eq (htext : ∀ s, value ≠ .string s) :
    ruleOf value = ruleBy value (value.firstOf? ruleKeywords) := by
  cases value with
  | string s => exact absurd rfl (htext s)
  | object fields =>
    rw [ruleOf]
    split
    · next entries h =>
      have hfirst : (Json.object fields).firstOf? ruleKeywords = some ("multiple", entries) := by
        simp [ruleKeywords, h]
      rw [hfirst, ruleBy]
    split
    · next branches h =>
      have hfirst : (Json.object fields).firstOf? ruleKeywords =
          some ("conditional", .array branches) := by
        simp [ruleKeywords, *]
      rw [hfirst, ruleBy]
    · next other hlist h =>
      have hfirst : (Json.object fields).firstOf? ruleKeywords = some ("conditional", other) := by
        simp [ruleKeywords, *]
      rw [hfirst, ruleBy]
      exact hlist
    split
    · next inner h =>
      have hfirst : (Json.object fields).firstOf? ruleKeywords =
          some ("array", .object inner) := by
        simp [ruleKeywords, *]
      rw [hfirst, ruleBy]
    · next other hobject h =>
      have hfirst : (Json.object fields).firstOf? ruleKeywords = some ("array", other) := by
        simp [ruleKeywords, *]
      rw [hfirst, ruleBy]
      exact hobject
    split
    · next argument h =>
      have hfirst : (Json.object fields).firstOf? ruleKeywords = some ("regex", argument) := by
        simp [ruleKeywords, *]
      rw [hfirst, ruleBy]
    split
    · next argument h =>
      have hfirst : (Json.object fields).firstOf? ruleKeywords = some ("path", argument) := by
        simp [ruleKeywords, *]
      rw [hfirst, ruleBy]
    split
    · next name h =>
      have hfirst : (Json.object fields).firstOf? ruleKeywords =
          some ("computed", .string name) := by
        simp [ruleKeywords, *]
      rw [hfirst, ruleBy]
    · next other htext h =>
      have hfirst : (Json.object fields).firstOf? ruleKeywords = some ("computed", other) := by
        simp [ruleKeywords, *]
      rw [hfirst, ruleBy]
      exact htext
    · have hfirst : (Json.object fields).firstOf? ruleKeywords = none := by
        simp [ruleKeywords, *]
      rw [hfirst, ruleBy] <;> simp
  | _ =>
    rw [ruleOf]
    · rfl
    all_goals simp

theorem form_of_ruleOf (h : ruleOf value = .ok rule) :
    Form (fun part inner => ruleOf part = .ok inner) value rule := by
  by_cases htext : ∃ s, value = .string s
  · obtain ⟨s, rfl⟩ := htext
    rw [ruleOf] at h
    cases h
    exact .path
  rw [ruleOf_eq fun s hs => htext ⟨s, hs⟩] at h
  cases hfirst : value.firstOf? ruleKeywords with
  | none =>
    rw [hfirst] at h
    cases h
    exact .unsupported (fun s hs => htext ⟨s, hs⟩) hfirst
  | some found =>
    obtain ⟨keyword, argument⟩ := found
    have hmem := Json.mem_of_firstOf? hfirst
    simp only [ruleKeywords, List.mem_cons, List.not_mem_nil, or_false] at hmem
    rw [hfirst] at h
    rcases hmem with rfl | rfl | rfl | rfl | rfl | rfl
    · obtain ⟨entries, hspec, rfl⟩ := map_eq_ok_iff.1 h
      obtain ⟨fields, rfl, hentries⟩ := specOf_eq_ok_iff.1 hspec
      exact .multiple hfirst hentries
    · cases argument with
      | array items =>
        obtain ⟨branches, hbranches, rfl⟩ := map_eq_ok_iff.1 h
        exact .conditional hfirst (branchesOf_eq_ok_iff.1 hbranches)
      | _ => cases h
    · cases argument with
      | object fields =>
        obtain ⟨selection, hselection, h⟩ := bind_eq_ok_iff.1 h
        obtain ⟨projection, hprojection, h⟩ := bind_eq_ok_iff.1 h
        cases h
        exact .array hfirst (selectionOf_eq_ok_iff.1 hselection)
          (projectionOf_eq_ok_iff.1 hprojection)
      | _ => cases h
    · obtain ⟨rule, hrule, rfl⟩ := map_eq_ok_iff.1 h
      exact .pattern hfirst (patternRule_eq_ok_iff.1 hrule)
    · obtain ⟨rule, hrule, rfl⟩ := map_eq_ok_iff.1 h
      exact .located hfirst (pathRule_eq_ok_iff.1 hrule)
    · cases argument with
      | string name =>
        cases h
        exact .computed hfirst
      | _ => cases h

theorem ruleOf_of_firstOf? {found : String × Json}
    (h : value.firstOf? ruleKeywords = some found) : ruleOf value = ruleBy value (some found) := by
  rw [← h]
  refine ruleOf_eq ?_
  rintro s rfl
  cases h

theorem ruleOf_of_form (h : Form (fun part inner => ruleOf part = .ok inner) value rule) :
    ruleOf value = .ok rule := by
  cases h with
  | path => rw [ruleOf]
  | unsupported htext h =>
    rw [ruleOf_eq htext, h]
    rfl
  | multiple h hentries =>
    rw [ruleOf_of_firstOf? h]
    exact map_eq_ok_iff.2 ⟨_, specOf_eq_ok_iff.2 ⟨_, rfl, hentries⟩, rfl⟩
  | conditional h hbranches =>
    rw [ruleOf_of_firstOf? h]
    exact map_eq_ok_iff.2 ⟨_, branchesOf_eq_ok_iff.2 hbranches, rfl⟩
  | array h hselection hprojection =>
    rw [ruleOf_of_firstOf? h]
    exact bind_eq_ok_iff.2 ⟨_, selectionOf_eq_ok_iff.2 hselection,
      bind_eq_ok_iff.2 ⟨_, projectionOf_eq_ok_iff.2 hprojection, rfl⟩⟩
  | pattern h hrule =>
    rw [ruleOf_of_firstOf? h]
    exact map_eq_ok_iff.2 ⟨_, patternRule_eq_ok_iff.2 hrule, rfl⟩
  | located h hrule =>
    rw [ruleOf_of_firstOf? h]
    exact map_eq_ok_iff.2 ⟨_, pathRule_eq_ok_iff.2 hrule, rfl⟩
  | computed h =>
    rw [ruleOf_of_firstOf? h]
    rfl

end Rules

section Grammar

variable {R S : Json → Rule → Prop} {value : Json} {rule : Rule}

theorem ReadsProjection.imp {keywords : List String} {argument : Json}
    {projection : Projection Rule}
    (h : ∀ part, Json.Inside part argument → ∀ inner, R part inner → S part inner)
    (hprojection : ReadsProjection R (argument.firstOf? keywords) projection) :
    ReadsProjection S (argument.firstOf? keywords) projection := by
  generalize hfirst : argument.firstOf? keywords = first at hprojection
  cases hprojection with
  | elements => exact .elements
  | mapped hrule =>
    exact .mapped (h _ (Json.inside_of_field? (Json.field?_of_firstOf? hfirst)) _ hrule)
  | first hcondition => exact .first hcondition
  | pluck => exact .pluck

theorem ReadsBranch.imp {branch : Json} {read : Condition × Rule}
    (h : ∀ part, Json.Inside part branch → ∀ inner, R part inner → S part inner)
    (hbranch : ReadsBranch R branch read) : ReadsBranch S branch read := by
  obtain ⟨hif, hthen, hcondition, hrule⟩ := hbranch
  exact .intro hif hthen hcondition (h _ (Json.inside_of_field? hthen) _ hrule)

theorem Form.imp (h : ∀ part, Json.Inside part value → ∀ inner, R part inner → S part inner)
    (hform : Form R value rule) : Form S value rule := by
  -- what is inside the argument of the keyword is inside the value
  have hargument {keyword : String} {argument : Json}
      (hfirst : value.firstOf? ruleKeywords = some (keyword, argument)) :
      ∀ part, Json.Inside part argument → ∀ inner, R part inner → S part inner := fun part hpart =>
    h part (hpart.trans (Json.inside_of_field? (Json.field?_of_firstOf? hfirst)))
  cases hform with
  | path => exact .path
  | unsupported htext hfirst => exact .unsupported htext hfirst
  | multiple hfirst hentries =>
    refine .multiple hfirst (forall₂_imp (fun field hfield entry => Named.imp ?_) hentries)
    exact hargument hfirst field.2 (Json.inside_field hfield)
  | conditional hfirst hbranches =>
    refine .conditional hfirst (forall₂_imp (fun item hitem read => ReadsBranch.imp ?_) hbranches)
    exact fun part hpart => hargument hfirst part (hpart.trans (Json.inside_item hitem))
  | array hfirst hselection hprojection =>
    exact .array hfirst hselection (hprojection.imp (hargument hfirst))
  | pattern hfirst hrule => exact .pattern hfirst hrule
  | located hfirst hrule => exact .located hfirst hrule
  | computed hfirst => exact .computed hfirst

theorem ruleOf_eq_ok_iff : ruleOf value = .ok rule ↔ Reads value rule := by
  induction value using Json.inside_induct generalizing rule with
  | h value ih =>
    constructor
    · intro h
      exact .intro ((form_of_ruleOf h).imp fun part hpart _ => (ih part hpart).1)
    · rintro ⟨h⟩
      exact ruleOf_of_form (h.imp fun part hpart _ => (ih part hpart).2)

theorem Form.exists_form
    (h : ∀ part, Json.Inside part value → ∀ inner, R part inner → ∃ other, S part other)
    (hform : Form R value rule) : ∃ other, Form S value other := by
  have hargument {keyword : String} {argument : Json}
      (hfirst : value.firstOf? ruleKeywords = some (keyword, argument)) {part : Json}
      (hpart : Json.Inside part argument) {inner : Rule} (hinner : R part inner) :
      ∃ other, S part other :=
    h part (hpart.trans (Json.inside_of_field? (Json.field?_of_firstOf? hfirst))) inner hinner
  cases hform with
  | path => exact ⟨_, .path⟩
  | unsupported htext hfirst => exact ⟨_, .unsupported htext hfirst⟩
  | @multiple _ fields entries hfirst hentries =>
    have hrules : ∀ field ∈ fields, ∃ other, S field.2 other := by
      intro field hfield
      obtain ⟨inner, hinner⟩ := exists_of_forall₂_named hentries hfield
      exact hargument hfirst (Json.inside_field hfield) hinner
    obtain ⟨others, hothers⟩ := exists_forall₂_named hrules
    exact ⟨_, .multiple hfirst hothers⟩
  | @conditional _ items branches hfirst hbranches =>
    have hreads : ∀ item ∈ items, ∃ other, ReadsBranch S item other := by
      intro item hitem
      obtain ⟨_, -, ⟨hif, hthen, hcondition, hrule⟩⟩ := exists_of_forall₂_left hbranches hitem
      have hinside := (Json.inside_of_field? hthen).trans (Json.inside_item hitem)
      obtain ⟨other, hother⟩ := hargument hfirst hinside hrule
      exact ⟨_, .intro hif hthen hcondition hother⟩
    obtain ⟨others, hothers⟩ := exists_forall₂ hreads
    exact ⟨_, .conditional hfirst hothers⟩
  | @array _ fields selection projection hfirst hselection hprojection =>
    generalize hkeyword : (Json.object fields).firstOf? projectionKeywords = keyword at hprojection
    have hreads : ∃ other, ReadsProjection S keyword other := by
      cases hprojection with
      | elements => exact ⟨_, .elements⟩
      | mapped hrule =>
        have hinside := Json.inside_of_field? (Json.field?_of_firstOf? hkeyword)
        obtain ⟨other, hother⟩ := hargument hfirst hinside hrule
        exact ⟨_, .mapped hother⟩
      | first hcondition => exact ⟨_, .first hcondition⟩
      | pluck => exact ⟨_, .pluck⟩
    obtain ⟨other, hother⟩ := hreads
    exact ⟨_, .array hfirst hselection (hkeyword ▸ hother)⟩
  | pattern hfirst hrule => exact ⟨_, .pattern hfirst hrule⟩
  | located hfirst hrule => exact ⟨_, .located hfirst hrule⟩
  | computed hfirst => exact ⟨_, .computed hfirst⟩

theorem accepted_iff : Accepted value ↔ ∃ rule, Reads value rule := by
  induction value using Json.inside_induct with
  | h value ih =>
    constructor
    · rintro ⟨h⟩
      obtain ⟨rule, hrule⟩ := h.exists_form fun part hpart _ => (ih part hpart).1
      exact ⟨rule, .intro hrule⟩
    · rintro ⟨rule, ⟨h⟩⟩
      exact .intro (h.imp fun part hpart inner hinner => (ih part hpart).2 ⟨inner, hinner⟩)

/-- Data are extraction rules exactly if they are an object of which every entry has one of the
forms of a rule. They stand for one rule for each entry, in order and under its name. -/
theorem rules_of_specOf (value : Json) :
    ((∃ entries, specOf value = .ok entries) ↔
        ∃ fields, value = .object fields ∧ ∀ field ∈ fields, Accepted field.2) ∧
      ∀ entries, specOf value = .ok entries ↔
        ∃ fields, value = .object fields ∧ List.Forall₂ (Named Reads) fields entries := by
  have hreads : ∀ entries, specOf value = .ok entries ↔
      ∃ fields, value = .object fields ∧ List.Forall₂ (Named Reads) fields entries := by
    intro entries
    simp only [specOf_eq_ok_iff, ruleOf_eq_ok_iff]
  refine ⟨?_, hreads⟩
  simp only [hreads, accepted_iff]
  constructor
  · rintro ⟨entries, fields, rfl, hentries⟩
    exact ⟨fields, rfl, fun field hfield => exists_of_forall₂_named hentries hfield⟩
  · rintro ⟨fields, rfl, hfields⟩
    obtain ⟨entries, hentries⟩ := exists_forall₂_named hfields
    exact ⟨entries, fields, rfl, hentries⟩

end Grammar

end HttpScenario.Extraction
