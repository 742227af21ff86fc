import HttpScenario.Proofs.Fields
import HttpScenario.Scenario.Form

/-! Names that are not repeated. A map may repeat a key, but in the value it is read as every object
has each of its names once. -/

namespace HttpScenario

namespace Json

inductive Part : Json → Json → Prop
  | self {value} : Part value value
  | item {part item items} (hitem : item ∈ items) (h : Part part item) : Part part (.array items)
  | field {part entry fields} (hentry : entry ∈ fields) (h : Part part entry.2) :
      Part part (.object fields)

def EachObject (P : Fields Json → Prop) (value : Json) : Prop :=
  ∀ fields, Part (.object fields) value → P fields

def Distinct (value : Json) : Prop := value.EachObject fun fields => fields.names.Nodup

variable {P : Fields Json → Prop} {items : List Json} {fields : Fields Json}

@[simp]
theorem eachObject_array_iff :
    EachObject P (.array items) ↔ ∀ item ∈ items, EachObject P item := by
  constructor
  · intro h item hitem fields hpart
    exact h fields (.item hitem hpart)
  · rintro h fields (_ | ⟨hitem, hpart⟩)
    exact h _ hitem fields hpart

@[simp]
theorem eachObject_object_iff :
    EachObject P (.object fields) ↔ P fields ∧ ∀ entry ∈ fields, EachObject P entry.2 := by
  constructor
  · intro h
    exact ⟨h fields .self, fun _ hentry inner hpart => h inner (.field hentry hpart)⟩
  · rintro ⟨hself, hfields⟩ inner (_ | _ | ⟨hentry, hpart⟩)
    · exact hself
    · exact hfields _ hentry inner hpart

theorem eachObject_of_ne {value : Json} (harray : ∀ items, value ≠ .array items)
    (hobject : ∀ fields, value ≠ .object fields) : EachObject P value := by
  rintro fields (_ | _ | _)
  · exact absurd rfl (hobject fields)
  · exact absurd rfl (harray _)
  · exact absurd rfl (hobject _)

@[simp]
theorem distinct_null : Distinct .null := eachObject_of_ne nofun nofun

@[simp]
theorem distinct_bool (b : Bool) : Distinct (.bool b) := eachObject_of_ne nofun nofun

@[simp]
theorem distinct_number (n : Number) : Distinct (.number n) := eachObject_of_ne nofun nofun

@[simp]
theorem distinct_string (s : String) : Distinct (.string s) := eachObject_of_ne nofun nofun

end Json

namespace Document

/-- The values of its scalars have no repeated names, as those that are no collections do not. -/
inductive Simple : Document → Prop
  | scalar {s} (h : ∀ value, s.value = some value → value.Distinct) : Simple (.scalar s)
  | list {items positional} (h : ∀ item ∈ items, Simple item) : Simple (.list items positional)
  | map {entries choice} (h : ∀ entry ∈ entries, Simple entry.2) : Simple (.map entries choice)
  | tagged {inner} (h : Simple inner) : Simple (.tagged inner)

mutual

theorem Simple.distinct {doc : Document} {value : Json} (hsimple : doc.Simple)
    (h : doc.toJson? = some value) : value.Distinct := by
  match doc, hsimple with
  | .scalar s, .scalar hscalar => exact hscalar value h
  | .list items _, .list hitems =>
    obtain ⟨values, hvalues, rfl⟩ := Option.map_eq_some_iff.mp h
    exact Json.eachObject_array_iff.mpr (distinct_items hitems hvalues)
  | .map entries _, .map hentries =>
    obtain ⟨fields, hfields, rfl⟩ := Option.map_eq_some_iff.mp h
    refine Json.eachObject_object_iff.mpr ⟨Fields.nodup_names_ofList fields, ?_⟩
    intro entry hentry
    have hin := (Fields.mem_of_mem_merge hentry).resolve_left List.not_mem_nil
    exact distinct_fields hentries hfields entry hin
  | .tagged _, _ => cases h

theorem distinct_items {items : List Document} {values : List Json}
    (hsimple : ∀ item ∈ items, item.Simple) (h : itemsToJson? items = some values) :
    ∀ value ∈ values, value.Distinct := by
  match items with
  | [] =>
    cases h
    exact fun _ => nofun
  | item :: rest =>
    simp only [itemsToJson?, Option.bind_eq_bind, Option.bind_eq_some_iff] at h
    obtain ⟨first, hfirst, others, hothers, h⟩ := h
    cases h
    have hitem := (hsimple item List.mem_cons_self).distinct hfirst
    have hrest := distinct_items (fun item hitem => hsimple item (List.mem_cons_of_mem _ hitem))
      hothers
    exact List.forall_mem_cons.mpr ⟨hitem, hrest⟩

theorem distinct_fields {entries : List (Document × Document)} {fields : List (String × Json)}
    (hsimple : ∀ entry ∈ entries, entry.2.Simple) (h : entriesToJson? entries = some fields) :
    ∀ field ∈ fields, field.2.Distinct := by
  match entries with
  | [] =>
    cases h
    exact fun _ => nofun
  | (key, item) :: rest =>
    simp only [entriesToJson?, Option.bind_eq_bind, Option.bind_eq_some_iff] at h
    obtain ⟨name, _, first, hfirst, others, hothers, h⟩ := h
    cases h
    have hitem := (hsimple (key, item) List.mem_cons_self).distinct hfirst
    have hrest := distinct_fields (fun entry hentry => hsimple entry (List.mem_cons_of_mem _ hentry))
      hothers
    exact List.forall_mem_cons.mpr ⟨hitem, hrest⟩

end

theorem simple_unreadable : (scalar .unreadable).Simple := .scalar nofun

theorem simple_scalar {s : Scalar} {value : Json} (hvalue : s.value = some value)
    (h : value.Distinct) : (scalar s).Simple := by
  refine .scalar fun other hother => ?_
  rw [hvalue, Option.some.injEq] at hother
  exact hother ▸ h

mutual

theorem simple_ofJson (v : Json) : (ofJson v).Simple := by
  match v with
  | .null => exact simple_scalar rfl Json.distinct_null
  | .bool b => exact simple_scalar rfl (Json.distinct_bool b)
  | .number n => exact simple_scalar rfl (Json.distinct_number n)
  | .string s => exact simple_scalar rfl (Json.distinct_string s)
  | .array items => exact .list (simple_ofItems items)
  | .object fields => exact .map (simple_ofFields fields)

theorem simple_ofItems (items : List Json) : ∀ item ∈ ofItems items, item.Simple := by
  match items with
  | [] => exact fun _ => nofun
  | item :: rest => exact List.forall_mem_cons.mpr ⟨simple_ofJson item, simple_ofItems rest⟩

theorem simple_ofFields (fields : List (String × Json)) :
    ∀ entry ∈ ofFields fields, entry.2.Simple := by
  match fields with
  | [] => exact fun _ => nofun
  | (name, value) :: rest =>
    exact List.forall_mem_cons.mpr ⟨simple_ofJson value, simple_ofFields rest⟩

end

end Document

namespace Json.Parser

theorem simple_scalarOf (v : Option Json) : (scalarOf v).Simple := by
  cases v with
  | none => exact Document.simple_unreadable
  | some v => exact Document.simple_ofJson v

mutual

theorem simple_value {depth fuel : Nat} {cs rest : List Char} {doc : Document}
    (h : value depth fuel cs = some (doc, rest)) : doc.Simple := by
  match fuel with
  | 0 => simp [value] at h
  | fuel + 1 =>
    rw [value] at h
    split at h
    · obtain ⟨⟨s, _⟩, _, hdoc⟩ := Option.map_eq_some_iff.mp h
      cases hdoc
      exact simple_scalarOf _
    · obtain ⟨⟨found, _⟩, hfound, hdoc⟩ := Option.map_eq_some_iff.mp h
      have hitems : ∀ item ∈ found, item.Simple := by
        split at hfound
        · cases hfound
          exact fun _ => nofun
        · exact simple_items hfound
      cases hdoc
      split
      · exact Document.simple_unreadable
      · exact .list hitems
    · obtain ⟨⟨found, _⟩, hfound, hdoc⟩ := Option.map_eq_some_iff.mp h
      have hentries : ∀ entry ∈ found, entry.2.Simple := by
        split at hfound
        · cases hfound
          exact fun _ => nofun
        · exact simple_entries hfound
      cases hdoc
      split
      · exact Document.simple_unreadable
      · exact .map hentries
    · obtain ⟨⟨n, _⟩, _, hdoc⟩ := Option.map_eq_some_iff.mp h
      cases hdoc
      exact simple_scalarOf _
    · split at h
      · obtain ⟨⟨n, _⟩, _, hdoc⟩ := Option.map_eq_some_iff.mp h
        cases hdoc
        exact simple_scalarOf _
      · have hword {after : Option (List Char)} {v : Json}
            (h : after.map (fun rest => (scalarOf v, rest)) = some (doc, rest)) : doc.Simple := by
          obtain ⟨_, _, hdoc⟩ := Option.map_eq_some_iff.mp h
          cases hdoc
          exact simple_scalarOf _
        simp only [Option.or_eq_some_iff] at h
        rcases h with h | ⟨_, h | ⟨_, h⟩⟩
        · exact hword h
        · exact hword h
        · exact hword h
    · cases h

theorem simple_items {depth fuel : Nat} {cs rest : List Char} {items : List Document}
    (h : Parser.items depth fuel cs = some (items, rest)) : ∀ item ∈ items, item.Simple := by
  match fuel with
  | 0 => simp [Parser.items] at h
  | fuel + 1 =>
    rw [Parser.items] at h
    split at h
    · cases h
    · next item _ hvalue =>
      have hitem := simple_value hvalue
      split at h
      · obtain ⟨⟨found, _⟩, hfound, hlist⟩ := Option.map_eq_some_iff.mp h
        cases hlist
        exact List.forall_mem_cons.mpr ⟨hitem, simple_items hfound⟩
      · cases h
        exact List.forall_mem_cons.mpr ⟨hitem, fun _ => nofun⟩
      · cases h

theorem simple_entries {depth fuel : Nat} {cs rest : List Char}
    {entries : List (Document × Document)}
    (h : Parser.entries depth fuel cs = some (entries, rest)) :
    ∀ entry ∈ entries, entry.2.Simple := by
  match fuel with
  | 0 => simp [Parser.entries] at h
  | fuel + 1 =>
    rw [Parser.entries] at h
    split at h
    · split at h
      · cases h
      · split at h
        · split at h
          · cases h
          · next item _ hvalue =>
            have hitem := simple_value hvalue
            simp only at h
            split at h
            · obtain ⟨⟨found, _⟩, hfound, hlist⟩ := Option.map_eq_some_iff.mp h
              cases hlist
              exact List.forall_mem_cons.mpr ⟨hitem, simple_entries hfound⟩
            · cases h
              exact List.forall_mem_cons.mpr ⟨hitem, fun _ => nofun⟩
            · cases h
        · cases h
    · cases h

end

end Json.Parser

theorem Json.simple_parseDocument? {text : String} {doc : Document}
    (h : parseDocument? text = some doc) : doc.Simple := by
  unfold parseDocument? at h
  simp only at h
  split at h
  · next read rest hvalue =>
    split at h
    · cases h
      exact Parser.simple_value hvalue
    · cases h
  · cases h

namespace Yaml

namespace Plain

theorem distinct_of_integer? {text : String} {v : Json} (h : integer? text = some (some v)) :
    v.Distinct := by
  unfold integer? at h
  grind [Json.distinct_number, Json.nat, Json.int]

theorem distinct_of_fraction? {text : String} {v : Json} (h : fraction? text = some v) :
    v.Distinct := by
  unfold fraction? at h
  simp only at h
  split at h
  · cases h
  · split at h
    · cases h
      exact Json.distinct_null
    · obtain ⟨x, _, rfl⟩ := Option.map_eq_some_iff.mp h
      exact Json.distinct_number _

theorem distinct_of_value? {text : String} {v : Json} (h : value? text = some v) :
    v.Distinct := by
  unfold value? at h
  split at h
  · cases h
    exact Json.distinct_null
  · split at h
    · cases h
      exact Json.distinct_bool _
    · next found hinteger =>
      cases h
      exact distinct_of_integer? hinteger
    · split at h
      · cases h
        exact Json.distinct_string text
      · rcases Option.or_eq_some_iff.mp h with h | ⟨_, h⟩
        · exact distinct_of_fraction? h
        · cases h
          exact Json.distinct_string text

end Plain

theorem distinct_of_taggedValue? {tag text : String} {v : Json} (h : taggedValue? tag text = some v) :
    v.Distinct := by
  unfold taggedValue? at h
  split at h
  · cases h
  · split at h
    · obtain ⟨b, _, rfl⟩ := Option.map_eq_some_iff.mp h
      exact Json.distinct_bool b
    · split at h
      · exact Plain.distinct_of_integer? (Option.join_eq_some_iff.mp h)
      · split at h
        · exact Plain.distinct_of_fraction? h
        · split at h
          · split at h
            · cases h
              exact Json.distinct_null
            · cases h
          · cases h
            exact Json.distinct_string text

theorem simple_scalarOf (style : ScalarStyle) (tag : Option String) (text : String) :
    (Document.scalar (scalarOf style tag text)).Simple := by
  refine .scalar fun value h => ?_
  cases tag with
  | some tag => exact distinct_of_taggedValue? h
  | none =>
    change (if style = .plain then _ else _) = _ at h
    split at h
    · exact Plain.distinct_of_value? h
    · cases h
      exact Json.distinct_string text

theorem simple_underTag {doc : Document} (h : doc.Simple) (tag : Option String) :
    (underTag tag doc).Simple := by
  unfold underTag
  split
  · exact .tagged h
  · exact h

namespace Node

mutual

theorem simple_toDocument (levels : Nat) (node : Node) : (node.toDocument levels).Simple := by
  match node with
  | .scalar style tag text => exact simple_scalarOf style tag text
  | .list tag items =>
    rw [toDocument]
    split
    · exact Document.simple_unreadable
    · exact simple_underTag (.list (simple_itemsToDocuments (levels - 1) items)) tag
  | .map tag entries =>
    rw [toDocument]
    split
    · exact Document.simple_unreadable
    · exact simple_underTag (.map (simple_entriesToDocuments (levels - 1) entries)) tag
  | .endless => exact Document.simple_unreadable

theorem simple_itemsToDocuments (levels : Nat) (items : List Node) :
    ∀ item ∈ itemsToDocuments levels items, item.Simple := by
  match items with
  | [] => exact fun _ => nofun
  | item :: rest =>
    exact List.forall_mem_cons.mpr
      ⟨simple_toDocument levels item, simple_itemsToDocuments levels rest⟩

theorem simple_entriesToDocuments (levels : Nat) (entries : List (Node × Node)) :
    ∀ entry ∈ entriesToDocuments levels entries, entry.2.Simple := by
  match entries with
  | [] => exact fun _ => nofun
  | (key, value) :: rest =>
    exact List.forall_mem_cons.mpr
      ⟨simple_toDocument levels value, simple_entriesToDocuments levels rest⟩

end

end Node

theorem simple_parseDocument? {text : String} {doc : Document} (h : parseDocument? text = some doc) :
    doc.Simple := by
  obtain ⟨root, _, rfl⟩ := Option.map_eq_some_iff.mp h
  cases root with
  | none => exact Document.simple_scalar rfl Json.distinct_null
  | some node => exact node.simple_toDocument levelLimit

end Yaml

theorem Document.distinct_of_parse? {format : SourceFormat} {text : String} {doc : Document}
    {value : Json} (hparse : parse? format text = some doc) (h : doc.toJson? = some value) :
    value.Distinct := by
  have hsimple : doc.Simple := by
    cases format with
    | json => exact Json.simple_parseDocument? hparse
    | yaml => exact Yaml.simple_parseDocument? hparse
  exact hsimple.distinct h

end HttpScenario
