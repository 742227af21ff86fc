import HttpScenario.Proofs.Path.Steps

/-! Resolution walks through a path segment by segment. What a dot joins to a path is resolved in
what the path leads to, and so every part of a value has a path, in each of the ways in which its
location can be written. -/

namespace HttpScenario.Path

variable {value inner part root : Json} {path name : String}

def segments (cs : List Char) : List (List Char) := (splitDots cs).filter fun part => !part.isEmpty

def walk? (value : Json) (segment : List Char) : Option Json :=
  (segment? segment).bind fun steps => follow? steps value

theorem follow?_append (steps more : List Step) (value : Json) :
    follow? (steps ++ more) value = (follow? steps value).bind (follow? more) := by
  induction steps generalizing value with
  | nil => rfl
  | cons step rest ih =>
    have hrest : follow? (rest ++ more) = fun inner => (follow? rest inner).bind (follow? more) :=
      funext ih
    rw [List.cons_append, follow?, follow?, hrest, Option.bind_assoc]

theorem follow?_singleton (step : Step) (value : Json) :
    follow? [step] value = step.descend? value :=
  Option.bind_fun_some (step.descend? value)

/-- All segments are read before the first step is taken, but a segment that cannot be read and a
step that leads nowhere come to the same. -/
theorem bind_mapM_segment? (parts : List (List Char)) (value : Json) :
    ((parts.mapM segment?).map List.flatten).bind (fun steps => follow? steps value) =
      parts.foldlM walk? value := by
  induction parts generalizing value with
  | nil => rfl
  | cons first rest ih =>
    rw [List.mapM_cons, List.foldlM_cons, walk?]
    cases segment? first with
    | none => rfl
    | some steps =>
      have hrest : rest.foldlM walk? = fun inner =>
          ((rest.mapM segment?).map List.flatten).bind fun steps => follow? steps inner :=
        funext fun inner => (ih inner).symm
      show _ = (follow? steps value).bind (rest.foldlM walk?)
      rw [hrest]
      cases rest.mapM segment? with
      | none => cases follow? steps value <;> rfl
      | some later => exact follow?_append steps later.flatten value

theorem resolveIn?_eq_foldlM (path : String) (value : Json) :
    resolveIn? path value = (segments path.toList).foldlM walk? value :=
  bind_mapM_segment? (segments path.toList) value

theorem segments_append_dot (cs ds : List Char) :
    segments (cs ++ '.' :: ds) = segments cs ++ segments ds := by
  rw [segments, splitDots_append_dot, List.filter_append]
  rfl

theorem resolveIn?_append_dot (p q : String) (value : Json) :
    resolveIn? (p ++ "." ++ q) value = (resolveIn? p value).bind (resolveIn? q) := by
  have htext : (p ++ "." ++ q).toList = p.toList ++ '.' :: q.toList := by simp
  have hrest : resolveIn? q = fun inner => (segments q.toList).foldlM walk? inner :=
    funext (resolveIn?_eq_foldlM q)
  rw [resolveIn?_eq_foldlM, resolveIn?_eq_foldlM, hrest, htext, segments_append_dot,
    List.foldlM_append]
  rfl

/-- A path that is joined to another by a dot is resolved in what that one leads to, whether or not
the two can be read. -/
theorem composition_of_resolveIn (p q : String) (value : Json) :
    resolveIn? (p ++ "." ++ q) value =
      match resolveIn? p value with
      | some inner => resolveIn? q inner
      | none => none := by
  rw [resolveIn?_append_dot]
  cases resolveIn? p value with
  | none => rfl
  | some inner => rfl

section Locations

inductive Below : Json → Step → Json → Prop
  | field {fields : Fields Json} {name : String} {inner : Json}
      (hfield : fields.get? name = some inner) : Below (.object fields) (.named name) inner
  | item {items : List Json} {i : Nat} {inner : Json} (hitem : items[i]? = some inner) :
      Below (.array items) (.index i) inner

/-- The part of a value at a location, which is a list of steps. -/
inductive Located : Json → List Step → Json → Prop
  | here (value : Json) : Located value [] value
  | next {value inner part : Json} {step : Step} {place : List Step}
      (hstep : Below value step inner) (hinner : Located inner place part) :
      Located value (step :: place) part

def Step.Spellable : Step → Prop
  | .named name => name ≠ "" ∧ '.' ∉ name.toList ∧ '[' ∉ name.toList
  | .index _ => True

/-- One step of a location as a path shows it: an index stands in brackets, or between dots like a
name. -/
inductive Mark
  | name (name : String)
  | bracketed (i : Nat)
  | segment (i : Nat)

namespace Mark

def step : Mark → Step
  | .name n => .named n
  | .bracketed i => .index i
  | .segment i => .index i

def later : Mark → String
  | .name n => "." ++ n
  | .bracketed i => "[" ++ toString i ++ "]"
  | .segment i => "." ++ toString i

def first : Mark → String
  | .name n => n
  | .bracketed i => "[" ++ toString i ++ "]"
  | .segment i => toString i

end Mark

def continued (marks : List Mark) : String := String.join (marks.map Mark.later)

def written : List Mark → String
  | [] => ""
  | mark :: rest => mark.first ++ continued rest

theorem continued_cons (mark : Mark) (rest : List Mark) :
    continued (mark :: rest) = mark.later ++ continued rest := String.join_cons

theorem resolveIn?_empty (value : Json) : resolveIn? "" value = some value := by
  rw [resolveIn?_eq_foldlM]
  rfl

theorem resolveIn?_name (hname : (Step.named name).Spellable) (value : Json) :
    resolveIn? name value = (Step.named name).descend? value := by
  obtain ⟨hne, hdot, hbracket⟩ := hname
  have hsteps : steps? name.toList = some [.named name] := by
    rw [steps?_name (mt String.toList_eq_nil_iff.mp hne) hdot hbracket, String.ofList_toList]
  rw [resolveIn?, hsteps, Option.bind_some, follow?_singleton]

theorem descend?_toString (items : List Json) (i : Nat) :
    (Step.named (toString i)).descend? (.array items) = items[i]? := by
  show (Integer.unboundedOfList? (toString i).toList).bind (fun i => items[i]?) = _
  rw [Integer.toList_toString, Integer.unboundedOfList?_toDigits]
  rfl

theorem spellable_toString (i : Nat) : (Step.named (toString i)).Spellable := by
  have hdigit : ∀ c ∈ (toString i).toList, c.isDigit = true := by
    intro c hc
    rw [Integer.toList_toString] at hc
    exact Integer.isDigit_of_mem_toDigits hc
  refine ⟨?_, fun hdot => ?_, fun hbracket => ?_⟩
  · intro hempty
    have hnil := congrArg String.toList hempty
    rw [Integer.toList_toString] at hnil
    exact Nat.toDigits_ne_nil hnil
  · exact absurd (hdigit _ hdot) (by decide)
  · exact absurd (hdigit _ hbracket) (by decide)

theorem resolveIn?_append_name (h : resolveIn? path root = some value)
    (hname : (Step.named name).Spellable) :
    resolveIn? (path ++ ("." ++ name)) root = (Step.named name).descend? value := by
  rw [← String.append_assoc, resolveIn?_append_dot, h, Option.bind_some, resolveIn?_name hname]

theorem resolveIn?_append_bracketed (h : resolveIn? path root = some value) (i : Nat) :
    resolveIn? (path ++ ("[" ++ toString i ++ "]")) root = (Step.index i).descend? value := by
  obtain ⟨steps, hsteps, hfollow⟩ := Option.bind_eq_some_iff.mp h
  have htext : (path ++ ("[" ++ toString i ++ "]")).toList = path.toList ++ bracketed i := by
    simp [bracketed]
  rw [resolveIn?, htext, steps?_append_index hsteps, Option.bind_some, follow?_append, hfollow,
    Option.bind_some, follow?_singleton]

theorem resolveIn?_later (hpath : resolveIn? path root = some value) {mark : Mark}
    (hmark : mark.step.Spellable) (hstep : Below value mark.step inner) :
    resolveIn? (path ++ mark.later) root = some inner := by
  cases mark with
  | name n =>
    have hname := resolveIn?_append_name hpath hmark
    cases hstep with
    | field hfield => exact hname.trans hfield
  | bracketed i =>
    have hindex := resolveIn?_append_bracketed hpath i
    cases hstep with
    | item hitem => exact hindex.trans hitem
  | segment i =>
    have hname := resolveIn?_append_name hpath (spellable_toString i)
    cases hstep with
    | item hitem => exact hname.trans ((descend?_toString _ i).trans hitem)

theorem resolveIn?_continued {place : List Step} (hplace : Located value place part)
    (hspellable : ∀ step ∈ place, step.Spellable) {marks : List Mark}
    (hmarks : marks.map Mark.step = place) (hpath : resolveIn? path root = some value) :
    resolveIn? (path ++ continued marks) root = some part := by
  -- The text is added mark by mark, so the path changes with the part that it leads to.
  induction hplace generalizing path marks with
  | here value =>
    obtain rfl := List.map_eq_nil_iff.mp hmarks
    show resolveIn? (path ++ "") root = some value
    rw [String.append_empty, hpath]
  | next hstep _ ih =>
    obtain ⟨hmark, hrest⟩ := List.forall_mem_cons.mp hspellable
    obtain ⟨mark, rest, rfl, rfl, hplace⟩ := List.map_eq_cons_iff.mp hmarks
    rw [continued_cons, ← String.append_assoc]
    exact ih hrest hplace (resolveIn?_later hpath hmark hstep)

theorem resolveIn?_dot (path : String) (value : Json) :
    resolveIn? ("." ++ path) value = resolveIn? path value := by
  have hempty : "." ++ path = "" ++ "." ++ path := by rw [String.empty_append]
  rw [hempty, resolveIn?_append_dot, resolveIn?_empty, Option.bind_some]

theorem resolveIn?_written (marks : List Mark) (value : Json) :
    resolveIn? (written marks) value = resolveIn? (continued marks) value := by
  cases marks with
  | nil => rfl
  | cons mark rest =>
    rw [written, continued_cons]
    cases mark with
    | bracketed i => rfl
    | name n => rw [Mark.later, String.append_assoc, resolveIn?_dot, Mark.first]
    | segment i => rw [Mark.later, String.append_assoc, resolveIn?_dot, Mark.first]

theorem withinData_dot (cs : List Char) : withinData ("data".toList ++ '.' :: cs) = cs := rfl

theorem withinData_bracket (cs : List Char) :
    withinData ("data".toList ++ '[' :: cs) = '[' :: cs := rfl

theorem resolve?_data (response : Response) (rest : String) :
    resolve? ("data" ++ rest) response =
      resolveIn? (String.ofList (withinData ("data".toList ++ rest.toList))) response.data := by
  have hother : ∀ text : String, ¬"data".toList <+: text.toList → "data" ++ rest ≠ text := by
    intro text htext heq
    apply htext
    rw [← heq, String.toList_append]
    exact List.prefix_append _ _
  have hheaders : "headers.".toList.isPrefixOf? ("data".toList ++ rest.toList) = none := rfl
  rw [resolve?, if_neg (hother "status" (by decide)), if_neg (hother "statusText" (by decide)),
    String.toList_append, hheaders]

theorem resolve?_data_dot (path : String) (response : Response) :
    resolve? ("data." ++ path) response = resolveIn? path response.data := by
  have hdata : "data." ++ path = "data" ++ ("." ++ path) := by rw [← String.append_assoc]; rfl
  have hdot : ("." ++ path).toList = '.' :: path.toList := by rw [String.toList_append]; rfl
  rw [hdata, resolve?_data, hdot, withinData_dot, String.ofList_toList]

theorem resolve?_continued (marks : List Mark) (response : Response) :
    resolve? ("data" ++ continued marks) response = resolveIn? (written marks) response.data := by
  cases marks with
  | nil => rfl
  | cons mark rest =>
    rw [written, continued_cons]
    cases mark with
    | name n => exact resolve?_data_dot (n ++ continued rest) response
    | segment i => exact resolve?_data_dot (toString i ++ continued rest) response
    | bracketed i =>
      have hbracket : (Mark.later (.bracketed i) ++ continued rest).toList =
          '[' :: ((toString i).toList ++ ']' :: (continued rest).toList) := by simp [Mark.later]
      rw [resolve?_data, hbracket, withinData_bracket, ← hbracket, String.ofList_toList]
      rfl

/-- Every part of a value is found under every text for its location, in the value and, behind a
data segment, in a response with that data. -/
theorem locations_of_resolve {value part : Json} {place : List Step}
    (hplace : Located value place part) (hspellable : ∀ step ∈ place, step.Spellable)
    {marks : List Mark} (hmarks : marks.map Mark.step = place) :
    resolveIn? (written marks) value = some part ∧
      ∀ response : Response, response.data = value →
        resolve? ("data" ++ continued marks) response = some part ∧
        resolve? ("data." ++ written marks) response = some part := by
  have hvalue : resolveIn? (written marks) value = some part := by
    have hcontinued :=
      resolveIn?_continued hplace hspellable hmarks (resolveIn?_empty value)
    rwa [String.empty_append, ← resolveIn?_written] at hcontinued
  refine ⟨hvalue, ?_⟩
  rintro response rfl
  exact ⟨(resolve?_continued marks response).trans hvalue,
    (resolve?_data_dot (written marks) response).trans hvalue⟩

namespace Sample

def rows : Json :=
  .object [("0", .array [.null, .array [.null, .object [("]", .bool true)]]])]

def marks : List Mark := [.name "0", .segment 1, .bracketed 1, .name "]"]

theorem located_rows : Located rows (marks.map Mark.step) (.bool true) :=
  .next (.field rfl) <| .next (.item rfl) <| .next (.item rfl) <| .next (.field rfl) (.here _)

end Sample

theorem locations_of_sample_resolve :
    Located Sample.rows (Sample.marks.map Mark.step) (.bool true) ∧
    (∀ step ∈ Sample.marks.map Mark.step, step.Spellable) ∧
    written Sample.marks = "0.1[1].]" ∧
    resolveIn? "0.1[1].]" Sample.rows = some (.bool true) ∧
    resolve? "data.0.1[1].]" ((Response.ofStatus 200).withData Sample.rows) =
      some (.bool true) := by
  have hspellable : ∀ step ∈ Sample.marks.map Mark.step, step.Spellable := by
    simp [Sample.marks, Mark.step, Step.Spellable]
  obtain ⟨hvalue, hresponse⟩ := locations_of_resolve Sample.located_rows hspellable rfl
  have hdata := (hresponse ((Response.ofStatus 200).withData Sample.rows) rfl).1
  exact ⟨Sample.located_rows, hspellable, by decide, hvalue, hdata⟩

end Locations

end HttpScenario.Path
