import HttpScenario.Proofs.Extraction.Elements
import HttpScenario.Proofs.Extraction.Keys

/-! Where problems come from. All problems of an entry are noted under its name or further down, and
no failure goes unnoted: that of an entry stands under its name, and that of an entry within under
the names that lead there. -/

namespace HttpScenario.Extraction

def dotted (key : String) (names : List String) : String := ".".intercalate (key :: names)

def LiesUnder (outer key : String) : Prop := key = outer ∨ ∃ more, key = outer ++ "." ++ more

def outcome (table : Table) (rule : Rule) (response : Response) : Outcome :=
  (evaluate table rule response "").value

/-- Evaluating a rule comes to evaluating another one, by way of entries with these names. Of the
branches it is the one that is taken; of the elements, those that are kept, up to the first on which
the rule fails. -/
inductive Reached (table : Table) : Rule → Response → List String → Rule → Response → Prop
  | here {rule response} : Reached table rule response [] rule response
  | entry {entries response name sub names inner element} (hmem : (name, sub) ∈ entries)
      (hinner : Reached table sub response names inner element) :
      Reached table (.multiple entries) response (name :: names) inner element
  | branch {before condition sub after default response names inner element}
      (hbefore : ∀ earlier ∈ before, earlier.1.holds response = false)
      (htaken : condition.holds response = true)
      (hinner : Reached table sub response names inner element) :
      Reached table (.conditional (before ++ (condition, sub) :: after) default) response names
        inner element
  | element {selection sub response items before item after names inner element}
      (hitems : Path.resolve? selection.path response = some (.array items))
      (hkept : items.filter (passes selection.filter response) = before ++ item :: after)
      (hbefore : ∀ earlier ∈ before, ∃ value,
        outcome table sub (response.withData earlier) = .ok value)
      (hinner : Reached table sub (response.withData item) names inner element) :
      Reached table (.array selection (.mapped sub)) response names inner element

variable {α : Type} {table : Table} {response element : Response} {rule inner sub : Rule}
  {failure : Failure}

theorem LiesUnder.of_below {outer name key : String}
    (h : LiesUnder (outer ++ "." ++ name) key) : LiesUnder outer key := by
  rcases h with rfl | ⟨more, rfl⟩
  · exact .inr ⟨name, rfl⟩
  · exact .inr ⟨name ++ "." ++ more, by simp only [String.append_assoc]⟩

def Attributed (f : String → Noted Problem α) : Prop :=
  ∀ key, ∀ problem ∈ (f key).notes, LiesUnder key problem.diagnostic.key

theorem Attributed.stepwiseClosed : StepwiseClosed Attributed where
  pure _ _ := nofun
  bind hf hg key problem hmem := by
    rw [Noted.notes_bind, List.mem_append] at hmem
    exact hmem.elim (hf key problem) (hg _ key problem)
  check condition response key problem hmem := by
    unfold check at hmem
    split at hmem
    · cases hmem
    · obtain rfl := List.mem_singleton.mp hmem
      exact .inl rfl
  note failure key problem hmem := by
    obtain rfl := List.mem_singleton.mp hmem
    exact .inl rfl
  below hf name key problem hmem := (hf _ problem hmem).of_below

theorem value_evaluate (table : Table) (rule : Rule) (response : Response) (key : String) :
    (evaluate table rule response key).value = outcome table rule response := by
  have hkey : evaluate table rule response (key ++ "") =
      (evaluate table rule response "").mapNotes (Problem.under key) :=
    relative_evaluate table rule response key ""
  rw [String.append_empty] at hkey
  rw [hkey]
  rfl

theorem outcome_multiple (table : Table) (entries : List (String × Rule)) (response : Response) :
    outcome table (.multiple entries) response =
      .ok (some (.object (extract table entries response).value)) := by
  have hentries :
      evaluateEntries table entries response (fun name => "" ++ "." ++ name) [] =
        (extract table entries response).mapNotes (Problem.under ("" ++ ".")) :=
    evaluateEntries_under table entries response id [] ("" ++ ".")
  rw [outcome, evaluate_multiple, Noted.value_bind, hentries]
  rfl

/-- What the outcome of an entry adds to the problems on the way to it. -/
def ownProblems (key : String) : Outcome → List Problem
  | .ok _ => []
  | .error failure => [.entry key failure]

section Contribution

variable (table : Table) (entry : String × Rule) (response : Response) (key : String)

theorem notes_contribution :
    (contribution table entry response key).notes =
      (evaluate table entry.2 response key).notes ++
        ownProblems key (outcome table entry.2 response) := by
  rw [← value_evaluate table entry.2 response key, contribution]
  rcases (evaluate table entry.2 response key).value with failure | _ | value
  · rfl
  · exact (List.append_nil _).symm
  · exact (List.append_nil _).symm

theorem mem_names_contribution (name : String) :
    name ∈ (contribution table entry response key).value.names ↔
      entry.1 = name ∧ ∃ value, outcome table entry.2 response = .ok (some value) := by
  rw [← value_evaluate table entry.2 response key, contribution]
  rcases (evaluate table entry.2 response key).value with failure | _ | value
  · simp
  · simp
  · simp [eq_comm]

theorem attributed_contribution : Attributed (contribution table entry response) := by
  intro key problem hmem
  rw [notes_contribution, List.mem_append] at hmem
  rcases hmem with hmem | hmem
  · exact Attributed.stepwiseClosed.evaluate table entry.2 response key problem hmem
  · cases houtcome : outcome table entry.2 response with
    | ok value => simp [houtcome, ownProblems] at hmem
    | error failure =>
      rw [houtcome] at hmem
      obtain rfl := List.mem_singleton.mp hmem
      exact .inl rfl

end Contribution

theorem evaluateBranches_of_taken {before : List (Condition × Rule)} {condition : Condition}
    (hbefore : ∀ earlier ∈ before, earlier.1.holds response = false)
    (htaken : condition.holds response = true) (after : List (Condition × Rule))
    (default : Option Json) (key : String) :
    ∃ notes, evaluateBranches table (before ++ (condition, sub) :: after) default response key =
      ⟨(evaluate table sub response key).value,
        notes ++ (evaluate table sub response key).notes⟩ := by
  induction before with
  | nil =>
    refine ⟨(check key condition response).notes, ?_⟩
    rw [List.nil_append, evaluateBranches]
    simp only [Bind.bind, value_check, htaken, if_true]
  | cons first rest ih =>
    obtain ⟨notes, hrest⟩ :=
      ih fun earlier hearlier => hbefore earlier (List.mem_cons_of_mem _ hearlier)
    refine ⟨(check key first.1 response).notes ++ notes, ?_⟩
    have hfirst := hbefore first List.mem_cons_self
    rw [List.cons_append, evaluateBranches, List.append_assoc]
    simp only [Bind.bind, value_check, hfirst, Bool.false_eq_true, if_false, hrest]

theorem mapElements_of_before (f : Response → Noted Problem Outcome) {before : List Json}
    (hbefore : ∀ earlier ∈ before, ∃ value, (f (response.withData earlier)).value = .ok value)
    (item : Json) (after : List Json) :
    (∀ failure, (f (response.withData item)).value = .error failure →
      (mapElements f response (before ++ item :: after)).value = .error failure) ∧
    (f (response.withData item)).notes ⊆
      (mapElements f response (before ++ item :: after)).notes := by
  induction before with
  | nil =>
    rw [List.nil_append, mapElements]
    refine ⟨fun failure hfailure => ?_, List.subset_append_left _ _⟩
    rw [Noted.value_bind, hfailure]
    rfl
  | cons first rest ih =>
    obtain ⟨value, hfirst⟩ := hbefore first List.mem_cons_self
    obtain ⟨hfails, hnotes⟩ :=
      ih fun earlier hearlier => hbefore earlier (List.mem_cons_of_mem _ hearlier)
    rw [List.cons_append, mapElements]
    simp only [Bind.bind, hfirst]
    refine ⟨fun failure hfailure => ?_, ?_⟩
    · rw [hfails failure hfailure]
      rfl
    · refine List.Subset.trans hnotes (List.Subset.trans ?_ (List.subset_append_right _ _))
      exact List.subset_append_left _ _

/-- A failure is noted under the names that lead to it, or is that of the rule as a whole. -/
theorem noted_of_reached {names : List String}
    (hreached : Reached table rule response names inner element)
    (hfails : outcome table inner element = .error failure) (key : String) :
    names = [] ∧ outcome table rule response = .error failure ∨
      Problem.entry (dotted key names) failure ∈ (evaluate table rule response key).notes := by
  -- A failure passes through branches and elements as it is, up to the entry around them; there it is
  -- noted and goes no further.
  induction hreached generalizing key with
  | here => exact .inl ⟨rfl, hfails⟩
  | @entry entries response name sub names inner element hmem hinner ih =>
    have hown : Problem.entry (dotted key (name :: names)) failure ∈
        (contribution table (name, sub) response (key ++ "." ++ name)).notes := by
      rw [notes_contribution, List.mem_append]
      rcases ih hfails (key ++ "." ++ name) with ⟨rfl, hsub⟩ | hnoted
      · rw [hsub]
        exact .inr (List.mem_singleton.mpr rfl)
      · exact .inl hnoted
    right
    rw [evaluate_multiple, Noted.notes_bind, notes_evaluateEntries]
    exact List.mem_append_left _ (List.mem_flatMap.mpr ⟨(name, sub), hmem, hown⟩)
  | @branch before condition sub after default response names inner element hbefore htaken hinner
      ih =>
    obtain ⟨notes, hbranches⟩ := evaluateBranches_of_taken hbefore htaken after default key
    rcases ih hfails key with ⟨hnames, hsub⟩ | hnoted
    · refine .inl ⟨hnames, ?_⟩
      rw [← value_evaluate _ _ _ key, evaluate, hbranches, value_evaluate, hsub]
    · right
      rw [evaluate, hbranches]
      exact List.mem_append_right _ hnoted
  | @element selection sub response items before item after names inner element hitems hkept hbefore
      hinner ih =>
    have hearlier : ∀ earlier ∈ before, ∃ value,
        (evaluate table sub (response.withData earlier) key).value = .ok value := by
      simpa only [value_evaluate] using hbefore
    obtain ⟨hfirst, hnotes⟩ :=
      mapElements_of_before (fun element => evaluate table sub element key) hearlier item after
    have hselected :
        (select selection.filter response key items).value = before ++ item :: after := by
      rw [value_select, hkept]
    rcases ih hfails key with ⟨hnames, hsub⟩ | hnoted
    · refine .inl ⟨hnames, ?_⟩
      rw [← value_evaluate _ _ _ key] at hsub
      rw [← value_evaluate _ _ _ key, evaluate_array_of_items hitems, Noted.value_bind, hselected,
        project, Noted.value_bind, hfirst failure hsub]
      rfl
    · right
      rw [evaluate_array_of_items hitems, Noted.notes_bind, hselected, project, Noted.notes_bind]
      exact List.mem_append_right _ (List.mem_append_left _ (hnotes hnoted))

theorem noted_contribution_of_reached {entry : String × Rule} {names : List String}
    (hreached : Reached table entry.2 response names inner element)
    (hfails : outcome table inner element = .error failure) (key : String) :
    Problem.entry (dotted key names) failure ∈ (contribution table entry response key).notes := by
  rw [notes_contribution, List.mem_append]
  rcases noted_of_reached hreached hfails key with ⟨rfl, hentry⟩ | hnoted
  · rw [hentry]
    exact .inr (List.mem_singleton.mpr rfl)
  · exact .inl hnoted

theorem Reached.nested {entries : List (String × Rule)} {name : String} {names : List String}
    (hreached : Reached table rule response names (.multiple entries) element)
    (hmem : (name, sub) ∈ entries) : Reached table rule response (names ++ [name]) sub element := by
  generalize hmultiple : Rule.multiple entries = reached at hreached
  induction hreached with
  | here =>
    subst hmultiple
    exact .entry hmem .here
  | entry hfirst hinner ih => exact .entry hfirst (ih hmultiple)
  | branch hbefore htaken hinner ih => exact .branch hbefore htaken (ih hmultiple)
  | element hitems hkept hbefore hinner ih => exact .element hitems hkept hbefore (ih hmultiple)

section Spec

variable {spec : Spec} {entry : String × Rule}

theorem diagnostics_singleton (table : Table) (entry : String × Rule) (response : Response) :
    diagnostics table [entry] response =
      (contribution table entry response entry.1).notes.map Problem.diagnostic := by
  rw [diagnostics, extract, notes_evaluateEntries, List.flatMap_singleton]
  rfl

theorem diagnostics_eq_flatMap (table : Table) (spec : Spec) (response : Response) :
    diagnostics table spec response =
      spec.flatMap fun entry => diagnostics table [entry] response := by
  induction spec with
  | nil => rfl
  | cons entry rest ih => 
    rw [← List.singleton_append, diagnostics_append, ih]
    rfl

theorem mem_names_extract {name : String} :
    name ∈ (extract table spec response).value.names ↔
      ∃ entry ∈ spec, entry.1 = name ∧
        ∃ value, outcome table entry.2 response = .ok (some value) := by
  rw [extract, value_evaluateEntries, Fields.mem_names_merge, Fields.names_nil, Fields.names,
    List.map_flatMap, List.mem_flatMap]
  simp only [List.not_mem_nil, false_or]
  exact exists_congr fun entry => and_congr_right fun _ => mem_names_contribution ..

theorem mem_names_extract_of_mem (hnames : (Fields.names spec).Nodup) (hentry : entry ∈ spec) :
    entry.1 ∈ (extract table spec response).value.names ↔
      ∃ value, outcome table entry.2 response = .ok (some value) := by
  rw [mem_names_extract]
  constructor
  · rintro ⟨other, hother, hname, hvalue⟩
    exact Fields.eq_of_name_eq hnames hother hentry hname ▸ hvalue
  · exact fun hvalue => ⟨entry, hentry, rfl, hvalue⟩

end Spec

/-- The diagnostics are those of the entries, in their order, and lie under the names of these. An
entry that fails has no value, and the last of its diagnostics tells why under its own name; without a
value and a diagnostic it has come to nothing. Within an entry, entries that are put together always
make an object, and each of them that fails is told of under the names that lead to it. -/
theorem attribution_of_extract (table : Table) (spec : Spec) (response : Response)
    (hnames : (Fields.names spec).Nodup) :
    (diagnostics table spec response =
      spec.flatMap fun entry => diagnostics table [entry] response) ∧
    ∀ entry ∈ spec,
      let own := diagnostics table [entry] response
      let hasValue := entry.1 ∈ (extract table spec response).value.names
      (∀ d ∈ own, LiesUnder entry.1 d.key) ∧
      (∀ failure, outcome table entry.2 response = .error failure →
        ¬hasValue ∧ own.getLast? = some ⟨entry.1, failure.message⟩) ∧
      (¬hasValue → own = [] → outcome table entry.2 response = .ok none) ∧
      ∀ names entries element,
        Reached table entry.2 response names (.multiple entries) element →
        outcome table (.multiple entries) element =
            .ok (some (.object (extract table entries element).value)) ∧
        ∀ name sub failure, (name, sub) ∈ entries → outcome table sub element = .error failure →
          ⟨dotted entry.1 (names ++ [name]), failure.message⟩ ∈ own := by
  refine ⟨diagnostics_eq_flatMap table spec response, fun entry hentry => ?_⟩
  intro own hasValue
  have hown : own = (contribution table entry response entry.1).notes.map Problem.diagnostic :=
    diagnostics_singleton table entry response
  have hvalue : hasValue ↔ ∃ value, outcome table entry.2 response = .ok (some value) :=
    mem_names_extract_of_mem hnames hentry
  have hlast (failure : Failure) (hfails : outcome table entry.2 response = .error failure) :
      own.getLast? = some ⟨entry.1, failure.message⟩ := by
    rw [hown, notes_contribution, hfails, List.map_append]
    exact List.getLast?_concat
  refine ⟨fun d hd => ?_, fun failure hfails => ⟨?_, hlast failure hfails⟩,
    fun habsent hsilent => ?_,
    fun names entries element hreached => ⟨?_, fun name sub failure hmem hfails => ?_⟩⟩
  · rw [hown] at hd
    obtain ⟨problem, hproblem, rfl⟩ := List.mem_map.mp hd
    exact attributed_contribution table entry response entry.1 problem hproblem
  · rw [hvalue, hfails]
    rintro ⟨value, ⟨⟩⟩
  · cases houtcome : outcome table entry.2 response with
    | error failure =>
      have hsome := hlast failure houtcome
      rw [hsilent] at hsome
      cases hsome
    | ok found =>
      cases found with
      | none => rfl
      | some value => exact absurd (hvalue.mpr ⟨value, houtcome⟩) habsent
  · exact outcome_multiple table entries element
  · rw [hown]
    exact List.mem_map.mpr
      ⟨_, noted_contribution_of_reached (hreached.nested hmem) hfails entry.1, rfl⟩

namespace Sample

def profile : Spec :=
  [("id", .path "data"),
    ("profile", .multiple [("age", .unsupported .null), ("name", .path "data")])]

def person : Response := (Response.ofStatus 200).withData (.string "ada")

end Sample

theorem attribution_of_sample_extract :
    (Fields.names Sample.profile).Nodup ∧
    ⟨"profile.age", "unsupported extraction rule: null"⟩ ∈
      diagnostics [] Sample.profile Sample.person := by
  have hnames : (Fields.names Sample.profile).Nodup := by decide
  refine ⟨hnames, ?_⟩
  obtain ⟨hdiagnostics, hentries⟩ := attribution_of_extract [] Sample.profile Sample.person hnames
  have hprofile := hentries ("profile", _) (List.mem_cons_of_mem _ List.mem_cons_self)
  obtain ⟨-, hage⟩ := hprofile.2.2.2 [] _ Sample.person .here
  rw [hdiagnostics]
  exact List.mem_flatMap.mpr ⟨("profile", _), List.mem_cons_of_mem _ List.mem_cons_self,
    hage "age" (.unsupported .null) (.unsupported .null) List.mem_cons_self rfl⟩

end HttpScenario.Extraction
