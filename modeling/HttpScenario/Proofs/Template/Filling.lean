import Mathlib
import HttpScenario.Proofs.Json.Distinct
import HttpScenario.Template

/-! Templates that are read from values. To render one is to substitute in the value itself, where an
object that asks for a generator stands for what the generator makes. Whatever lies within such an
object are its parameters, in which no further generator is asked for. -/

namespace HttpScenario

namespace Json

mutual

/-- Equal but for what the texts are: lists have the same lengths, and objects the same names in the
same order. -/
inductive Alike : Json → Json → Prop
  | null : Alike .null .null
  | bool (b) : Alike (.bool b) (.bool b)
  | number (n) : Alike (.number n) (.number n)
  | string (s t) : Alike (.string s) (.string t)
  | array {as bs} (h : AlikeItems as bs) : Alike (.array as) (.array bs)
  | object {as bs} (h : AlikeFields as bs) : Alike (.object as) (.object bs)

inductive AlikeItems : List Json → List Json → Prop
  | nil : AlikeItems [] []
  | cons {a b as bs} (h : Alike a b) (hrest : AlikeItems as bs) : AlikeItems (a :: as) (b :: bs)

inductive AlikeFields : List (String × Json) → List (String × Json) → Prop
  | nil : AlikeFields [] []
  | cons {a b as bs} (name) (h : Alike a b) (hrest : AlikeFields as bs) :
      AlikeFields ((name, a) :: as) ((name, b) :: bs)

end

end Json

namespace Placeholder

mutual

theorem alike_substituteValue (context : Context) (v : Json) :
    Json.Alike v (substituteValue context v) := by
  match v with
  | .null => exact .null
  | .bool b => exact .bool b
  | .number n => exact .number n
  | .string s => exact .string s _
  | .array items => exact .array (alikeItems_substituteItems context items)
  | .object fields => exact .object (alikeFields_substituteFields context fields)

theorem alikeItems_substituteItems (context : Context) (items : List Json) :
    Json.AlikeItems items (substituteItems context items) := by
  match items with
  | [] => exact .nil
  | item :: rest =>
    exact .cons (alike_substituteValue context item) (alikeItems_substituteItems context rest)

theorem alikeFields_substituteFields (context : Context) (fields : List (String × Json)) :
    Json.AlikeFields fields (substituteFields context fields) := by
  match fields with
  | [] => exact .nil
  | (name, value) :: rest =>
    exact .cons name (alike_substituteValue context value)
      (alikeFields_substituteFields context rest)

end

theorem substituteItems_eq_map (context : Context) (items : List Json) :
    substituteItems context items = items.map (substituteValue context) := by
  induction items with
  | nil => rfl
  | cons item rest ih => rw [substituteItems, ih, List.map_cons]

end Placeholder

namespace Template

/-- An object that asks for a generator: its field `func` is a text, and it has no other field but
`params`. -/
def isCall (fields : Fields Json) : Bool :=
  ((fields.get? "func").bind Json.asString?).isSome &&
    fields.names.all fun name => name == "func" || name == "params"

def calledName (fields : Fields Json) : String :=
  ((fields.get? "func").bind Json.asString?).getD ""

def givenParams (fields : Fields Json) : List Json :=
  match fields.get? "params" with
  | none => []
  | some .null => []
  | some (.array items) => items
  | some value => [value]

variable {m : Type → Type} [Monad m]

def answer (env : Environment m) (name : String) (params : List Json) : m Json :=
  match env.generators.get? name with
  | some make => make params
  | none => do
    env.warn s!"unknown generator '{name}', using null"
    return .null

mutual

/-- Substitution in every text of a value, in which objects that ask for a generator stand for the
answers to them. -/
def fill (env : Environment m) (context : Context) : Json → m Json
  | .string s => return .string (Placeholder.substitute context s)
  | .array items => return .array (← fillItems env context items)
  | .object fields =>
    if isCall fields then
      answer env (calledName fields)
        ((givenParams fields).map (Placeholder.substituteValue context))
    else return .object (← fillFields env context fields)
  | value => return value

def fillItems (env : Environment m) (context : Context) : List Json → m (List Json)
  | [] => return []
  | item :: rest => do
    let value ← fill env context item
    return value :: (← fillItems env context rest)

def fillFields (env : Environment m) (context : Context) :
    List (String × Json) → m (List (String × Json))
  | [] => return []
  | (name, item) :: rest => do
    let value ← fill env context item
    return (name, value) :: (← fillFields env context rest)

end

variable {env : Environment m} {context : Context} {fields : Fields Json}

theorem call?_eq (fields : Fields Json) :
    call? fields = if isCall fields then some (calledName fields, givenParams fields) else none := by
  have hnames : (fields.any fun entry => entry.1 != "func" && entry.1 != "params") =
      !(fields.names.all fun name => name == "func" || name == "params") := by
    rw [Fields.names, List.all_map, List.not_all_eq_any_not]
    simp [Bool.not_or, bne]
  unfold call? isCall calledName givenParams
  cases (fields.get? "func").bind Json.asString? with
  | none => rfl
  | some name =>
    rw [hnames]
    cases fields.names.all fun name => name == "func" || name == "params" with
    | false => rfl
    | true => rfl

theorem generate_named (name : String) (params : List Json) :
    generate env (.named name) params = answer env name params := rfl

theorem fillFields_bind_congr [LawfulMonad m] {β : Type} (fields : Fields Json) {f g : Fields Json → m β}
    (h : ∀ filled : Fields Json, filled.names = fields.names → f filled = g filled) :
    (fillFields env context fields >>= f) = fillFields env context fields >>= g := by
  induction fields generalizing f g with
  | nil =>
    rw [fillFields, pure_bind, pure_bind]
    exact h [] rfl
  | cons entry rest ih =>
    obtain ⟨name, item⟩ := entry
    simp only [fillFields, bind_assoc, pure_bind]
    refine bind_congr fun value => ?_
    refine ih fun filled hfilled => h _ ?_
    rw [Fields.names_cons, Fields.names_cons, hfilled]

mutual

theorem render_ofJson [LawfulMonad m] {v : Json} (h : v.Distinct) :
    render env context (ofJson v) = fill env context v := by
  match v with
  | .null => rfl
  | .bool b => rfl
  | .number n => rfl
  | .string s => rfl
  | .array items =>
    rw [ofJson, render, fill, renderItems_ofItems (Json.eachObject_array_iff.mp h)]
  | .object fields =>
    obtain ⟨hnodup, hfields⟩ := Json.eachObject_object_iff.mp h
    rw [ofJson, call?_eq, fill]
    cases isCall fields with
    | true =>
      simp only [if_true]
      rw [render, Placeholder.substituteItems_eq_map, generate_named]
    | false =>
      simp only [Bool.false_eq_true, if_false]
      rw [render, renderFields_ofFields hfields]
      refine fillFields_bind_congr fields fun filled hfilled => ?_
      rw [Fields.ofList_eq_self (hfilled ▸ hnodup)]

theorem renderItems_ofItems [LawfulMonad m] {items : List Json} (h : ∀ item ∈ items, item.Distinct) :
    renderItems env context (ofItems items) = fillItems env context items := by
  match items with
  | [] => rfl
  | item :: rest =>
    obtain ⟨hitem, hrest⟩ := List.forall_mem_cons.mp h
    rw [ofItems, renderItems, fillItems, render_ofJson hitem, renderItems_ofItems hrest]

theorem renderFields_ofFields [LawfulMonad m] {fields : List (String × Json)}
    (h : ∀ entry ∈ fields, entry.2.Distinct) :
    renderFields env context (ofFields fields) = fillFields env context fields := by
  match fields with
  | [] => rfl
  | (name, item) :: rest =>
    obtain ⟨hitem, hrest⟩ := List.forall_mem_cons.mp h
    rw [ofFields, renderFields, fillFields, render_ofJson hitem, renderFields_ofFields hrest]

end

theorem render_of_parse [LawfulMonad m] {format : SourceFormat} {text : String} {doc : Document}
    {v : Json} (hparse : Document.parse? format text = some doc) (h : doc.toJson? = some v) :
    render env context (ofJson v) = fill env context v :=
  render_ofJson (Document.distinct_of_parse? hparse h)

def CallFree (v : Json) : Prop := v.EachObject fun fields => isCall fields = false

mutual

theorem fill_of_callFree [LawfulMonad m] {v : Json} (h : CallFree v) :
    fill env context v = pure (Placeholder.substituteValue context v) := by
  match v with
  | .null => rfl
  | .bool b => rfl
  | .number n => rfl
  | .string s => rfl
  | .array items =>
    rw [fill, fillItems_of_callFree (Json.eachObject_array_iff.mp h), pure_bind]
    rfl
  | .object fields =>
    obtain ⟨hcall, hfields⟩ := Json.eachObject_object_iff.mp h
    rw [fill, hcall, fillFields_of_callFree hfields]
    simp only [Bool.false_eq_true, if_false, pure_bind]
    rfl

theorem fillItems_of_callFree [LawfulMonad m] {items : List Json} (h : ∀ item ∈ items, CallFree item) :
    fillItems env context items = pure (Placeholder.substituteItems context items) := by
  match items with
  | [] => rfl
  | item :: rest =>
    obtain ⟨hitem, hrest⟩ := List.forall_mem_cons.mp h
    rw [fillItems, fill_of_callFree hitem, fillItems_of_callFree hrest, pure_bind, pure_bind]
    rfl

theorem fillFields_of_callFree [LawfulMonad m] {fields : List (String × Json)}
    (h : ∀ entry ∈ fields, CallFree entry.2) :
    fillFields env context fields = pure (Placeholder.substituteFields context fields) := by
  match fields with
  | [] => rfl
  | (name, item) :: rest =>
    obtain ⟨hitem, hrest⟩ := List.forall_mem_cons.mp h
    rw [fillFields, fill_of_callFree hitem, fillFields_of_callFree hrest, pure_bind, pure_bind]
    rfl

end

/-- A template that is read from a value renders to what filling the value gives. Where no generator
is asked for that is the value with its texts substituted, and all else as it was. -/
theorem filling_of_render [LawfulMonad m] (env : Environment m) (context : Context) {v : Json}
    (h : v.Distinct) :
    render env context (ofJson v) = fill env context v ∧
    (CallFree v →
      render env context (ofJson v) = pure (Placeholder.substituteValue context v) ∧
      Json.Alike v (Placeholder.substituteValue context v)) := by
  refine ⟨render_ofJson h, fun hfree => ⟨?_, Placeholder.alike_substituteValue context v⟩⟩
  rw [render_ofJson h, fill_of_callFree hfree]

namespace Sample

def echo : Environment Id := ⟨[("echo", fun params => .array params)], fun _ => ()⟩

def given : Context := [("who", .string "kit")]

/-- A call whose parameter looks like a call, a call of no generator, and an object that is no call
because of a third field. -/
def body : Json :=
  .object
    [("a", .object
      [("params", .array [.object [("func", .string "{who}")], .string "{who}{x}"]),
       ("func", .string "echo")]),
     ("b", .array [.object [("func", .string "none")], .null]),
     ("c", .object [("func", .string "echo"), ("other", .string "{who}")])]

def filled : Json :=
  .object
    [("a", .array [.object [("func", .string "kit")], .string "kit{x}"]),
     ("b", .array [.null, .null]),
     ("c", .object [("func", .string "echo"), ("other", .string "kit")])]

def note : Json := .object [("to", .string "{who}"), ("marks", .array [.int 1, .string "{x}"])]

theorem distinct_body : body.Distinct := by
  simp [Json.Distinct, body, Json.eachObject_of_ne]

theorem distinct_note : note.Distinct := by
  simp [Json.Distinct, note, Json.eachObject_of_ne, Json.int]

theorem callFree_note : CallFree note := by
  refine Json.eachObject_object_iff.mpr ⟨rfl, ?_⟩
  simp [Json.eachObject_of_ne, Json.int]

end Sample

theorem filling_of_sample_render :
    Sample.body.Distinct ∧
    render Sample.echo Sample.given (ofJson Sample.body) =
      fill Sample.echo Sample.given Sample.body ∧
    fill Sample.echo Sample.given Sample.body = Sample.filled ∧
    Sample.note.Distinct ∧ CallFree Sample.note ∧
    render Sample.echo Sample.given (ofJson Sample.note) =
      Placeholder.substituteValue Sample.given Sample.note := by
  have hbody := filling_of_render Sample.echo Sample.given Sample.distinct_body
  have hnote := filling_of_render Sample.echo Sample.given Sample.distinct_note
  have hfilled : fill Sample.echo Sample.given Sample.body = Sample.filled := by cbv
  exact ⟨Sample.distinct_body, hbody.1, hfilled, Sample.distinct_note, Sample.callFree_note,
    (hnote.2 Sample.callFree_note).1⟩

end Template

end HttpScenario
