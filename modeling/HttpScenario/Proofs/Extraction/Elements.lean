import HttpScenario.Extraction.Evaluation

/-! Rules for the elements of a list. The filter judges each element by itself and keeps those that
pass in their order; what is made of them lines up with them, one for one. -/

namespace HttpScenario

namespace Path

def leadsToHead (path : String) : Bool :=
  path = "status" ∨ path = "statusText" ∨ ("headers.".toList.isPrefixOf? path.toList).isSome

def leadsWithData (path : String) : Bool :=
  path = "data" ∨ ("data.".toList.isPrefixOf? path.toList).isSome ∨
    "data[".toList.isPrefixOf path.toList

theorem resolve?_of_leadsToHead {path : String} (h : leadsToHead path = true)
    (response : Response) (data : Json) :
    resolve? path (response.withData data) = resolve? path response := by
  rcases of_decide_eq_true h with rfl | rfl | hheaders
  · rfl
  · rfl
  · obtain ⟨name, hname⟩ := Option.isSome_iff_exists.mp hheaders
    simp only [resolve?, hname]
    rfl

theorem resolve?_of_not_leadsToHead {path : String} (h : leadsToHead path = false)
    (hdata : leadsWithData path = false) (response : Response) :
    resolve? path response = resolveIn? path response.data := by
  simp only [leadsToHead, decide_eq_false_iff_not, not_or, Bool.not_eq_true,
    Option.isSome_eq_false_iff, Option.isNone_iff_eq_none] at h
  simp only [leadsWithData, decide_eq_false_iff_not, not_or, Bool.not_eq_true,
    Option.isSome_eq_false_iff, Option.isNone_iff_eq_none] at hdata
  obtain ⟨hstatus, htext, hheaders⟩ := h
  obtain ⟨hwhole, hdot, hbracket⟩ := hdata
  have hwithin : withinData path.toList = path.toList := by
    rw [withinData, if_neg (mt String.toList_inj.mp hwhole), hdot]
    simp only [hbracket, Bool.false_eq_true, if_false]
  rw [resolve?, if_neg hstatus, if_neg htext, hheaders, hwithin, String.ofList_toList]

end Path

/-- A condition that cannot be evaluated does not hold. -/
def Condition.holds (condition : Condition) (response : Response) : Bool :=
  match condition.evaluate response with
  | .ok result => result
  | .error _ => false

namespace Extraction

def passes (filter : Option Condition) (response : Response) (item : Json) : Bool :=
  filter.all fun condition => condition.holds (response.withData item)

/-- What comes of a list whose members may fail: a value for each of them, with null for nothing, or
the first failure. -/
inductive Mapped (f : Json → Outcome) (items : List Json) : Except Failure (List Json) → Prop
  | values (values : List (Option Json)) (h : items.map f = values.map .ok) :
      Mapped f items (.ok (values.map fun value => value.getD .null))
  | failure (before : List Json) {item after failure} (happend : items = before ++ item :: after)
      (hbefore : ∀ earlier ∈ before, ∃ value, f earlier = .ok value)
      (hitem : f item = .error failure) : Mapped f items (.error failure)

section Lists

variable (response : Response) (key : String) (items : List Json)

theorem value_check (condition : Condition) :
    (check key condition response).value = condition.holds response := by
  unfold check Condition.holds
  cases condition.evaluate response <;> rfl

theorem value_select (filter : Option Condition) :
    (select filter response key items).value = items.filter (passes filter response) := by
  induction items with
  | nil => rfl
  | cons item rest ih =>
    rw [List.filter_cons, ← ih]
    cases filter with
    | none => rfl
    | some condition =>
      rw [passes, Option.all_some, ← value_check _ key]
      rfl

theorem value_findFirst (condition : Condition) :
    (findFirst condition response key items).value =
      items.find? fun item => condition.holds (response.withData item) := by
  induction items with
  | nil => rfl
  | cons item rest ih =>
    rw [findFirst, Noted.value_bind, value_check, List.find?_cons]
    cases condition.holds (response.withData item) with
    | true => rfl
    | false => exact ih

theorem Mapped.cons {f : Json → Outcome} {item : Json} {rest : List Json} {value : Option Json}
    {mapped : Except Failure (List Json)} (hitem : f item = .ok value) (h : Mapped f rest mapped) :
    Mapped f (item :: rest) (mapped.map (value.getD .null :: ·)) := by
  cases h with
  | values values h =>
    refine .values (value :: values) ?_
    rw [List.map_cons, List.map_cons, hitem, h]
  | failure before happend hbefore hfails =>
    refine .failure (item :: before) (congrArg (item :: ·) happend) ?_ hfails
    intro earlier hearlier
    rcases List.mem_cons.mp hearlier with rfl | hearlier
    · exact ⟨value, hitem⟩
    · exact hbefore earlier hearlier

theorem mapped_mapElements (rule : Response → Noted Problem Outcome) :
    Mapped (fun item => (rule (response.withData item)).value) items
      (mapElements rule response items).value := by
  induction items with
  | nil => exact .values [] rfl
  | cons item rest ih =>
    rw [mapElements, Noted.value_bind]
    cases hitem : (rule (response.withData item)).value with
    | error failure => exact .failure [] rfl nofun hitem
    | ok value => exact ih.cons hitem

end Lists

section Arrays

variable {selection : Selection} {response : Response} {items : List Json}

theorem evaluate_array_of_items
    (hitems : Path.resolve? selection.path response = some (.array items)) (table : Table)
    (projection : Projection Rule) (key : String) :
    evaluate table (.array selection projection) response key = (do
      let selected ← select selection.filter response key items
      project table projection selection.default selected response key) := by
  rw [evaluate, hitems]

theorem evaluate_array_of_not_items
    (hnone : ∀ items, Path.resolve? selection.path response = some (.array items) → False)
    (table : Table) (projection : Projection Rule) (key : String) :
    evaluate table (.array selection projection) response key =
      pure (.ok (some (selection.default.getD (.array [])))) := by
  rw [evaluate]
  split
  · rename_i items hitems
    exact (hnone items hitems).elim
  · rfl

end Arrays

/-- The elements that pass the filter are the result, or each of them is replaced by what stands at
a path in it or by its value of a rule, or the first of them is the result of which a condition holds.
Neither are elements lost nor do they change places, and only a rule that fails on one of them makes
the whole fail. -/
theorem projection_of_array (table : Table) (selection : Selection) (projection : Projection Rule)
    (response : Response) (key : String) :
    let result := (evaluate table (.array selection projection) response key).value
    match Path.resolve? selection.path response with
    | some (.array items) =>
      let kept := items.filter (passes selection.filter response)
      match projection with
      | .elements => result = .ok (some (.array kept))
      | .pluck path =>
        result = .ok (some (.array (kept.map fun item => (Path.resolveIn? path item).getD .null)))
      | .mapped rule =>
        ∃ mapped,
          Mapped (fun item => (evaluate table rule (response.withData item) key).value) kept
            mapped ∧
          result = mapped.map fun values => some (.array values)
      | .first condition =>
        result = .ok ((kept.find? fun item => condition.holds (response.withData item)).or
          selection.default)
    | _ => result = .ok (some (selection.default.getD (.array []))) := by
  intro result
  split
  · rename_i items hitems
    have hresult : result = (project table projection selection.default
        (items.filter (passes selection.filter response)) response key).value := by
      simp only [result, evaluate_array_of_items hitems, Noted.value_bind, value_select]
    cases projection with
    | elements => exact hresult
    | pluck path => exact hresult
    | mapped rule =>
      have hmapped := mapped_mapElements response (items.filter (passes selection.filter response))
        fun element => evaluate table rule element key
      exact ⟨_, hmapped, hresult⟩
    | first condition =>
      rw [project, Noted.value_bind, value_findFirst] at hresult
      exact hresult
  · rename_i hnone
    simp only [result, evaluate_array_of_not_items hnone, Noted.value_pure]

theorem select_equals (path : String) (expected : Json) (response : Response) (key : String)
    (items : List Json) :
    select (some (.equals path expected)) response key items =
      pure (items.filter (passes (some (.equals path expected)) response)) := by
  induction items with
  | nil => rfl
  | cons item rest ih =>
    have hitem : select (some (.equals path expected)) response key (item :: rest) = (do
        let others ← select (some (.equals path expected)) response key rest
        return if passes (some (.equals path expected)) response item then item :: others
          else others) := rfl
    rw [hitem, ih, List.filter_cons]
    rfl

/-- A filter that compares the value at a path looks at the element alone, unless the path leads to
the status or to a header: these are taken from the response even if the element has a field of the
same name, so then all elements are kept or none. -/
theorem elements_of_equals {selection : Selection} {path : String} {expected : Json}
    {response : Response} {items : List Json}
    (hfilter : selection.filter = some (.equals path expected))
    (hitems : Path.resolve? selection.path response = some (.array items))
    (hdata : Path.leadsWithData path = false) (table : Table) (projection : Projection Rule)
    (key : String) :
    let comparesAt (found : Option Json) := found.any fun value => value.looselyEqual expected
    (Path.leadsToHead path = false →
      evaluate table (.array selection projection) response key =
        project table projection selection.default
          (items.filter fun item => comparesAt (Path.resolveIn? path item)) response key) ∧
    (Path.leadsToHead path = true →
      evaluate table (.array selection projection) response key =
        project table projection selection.default
          (if comparesAt (Path.resolve? path response) then items else []) response key) := by
  intro comparesAt
  have hrule : evaluate table (.array selection projection) response key =
      project table projection selection.default
        (items.filter fun item => comparesAt (Path.resolve? path (response.withData item)))
        response key := by
    rw [evaluate_array_of_items hitems, hfilter, select_equals]
    rfl
  refine ⟨fun hhead => ?_, fun hhead => ?_⟩
  · simp only [hrule, Path.resolve?_of_not_leadsToHead hhead hdata, Response.withData]
  · simp only [hrule, Path.resolve?_of_leadsToHead hhead]
    cases comparesAt (Path.resolve? path response) with
    | true => rw [List.filter_eq_self.mpr fun _ _ => rfl, if_pos rfl]
    | false =>
      rw [List.filter_eq_nil_iff.mpr fun _ _ => Bool.false_ne_true, if_neg Bool.false_ne_true]

namespace Sample

def tickets : List Json :=
  [.object [("id", .nat 1), ("status", .string "open")],
    .object [("id", .nat 2), ("status", .string "closed")]]

def ticketList : Response := (Response.ofStatus 200).withData (.array tickets)

def openTickets : Selection := ⟨"data", some (.equals "status" (.string "open")), none⟩

end Sample

theorem elements_of_sample_equals :
    Path.resolve? Sample.openTickets.path Sample.ticketList = some (.array Sample.tickets) ∧
    Path.leadsWithData "status" = false ∧
    evaluate [] (.array Sample.openTickets .elements) Sample.ticketList "open" =
      pure (.ok (some (.array []))) := by
  have hitems : Path.resolve? Sample.openTickets.path Sample.ticketList =
      some (.array Sample.tickets) := by rfl
  have hdata : Path.leadsWithData "status" = false := by decide
  refine ⟨hitems, hdata, ?_⟩
  exact (elements_of_equals rfl hitems hdata [] .elements "open").2 (by decide)

end Extraction

end HttpScenario
