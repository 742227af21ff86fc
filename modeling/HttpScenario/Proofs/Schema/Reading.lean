import HttpScenario.Proofs.Fields
import HttpScenario.Proofs.Schema.Order
import HttpScenario.Schema.Form

/-! Schemas that are read from data have their properties in order, whatever the order in the data. -/

namespace HttpScenario.Schema

theorem names_sortedProperties (properties : List (String × Schema)) :
    ((sortedProperties properties).map Prod.fst).Pairwise (· < ·) := by
  have hsorted : (sortedProperties properties).Pairwise fun a b => a.1 ≤ b.1 :=
    (List.pairwise_mergeSort (fun a b c => by simpa using String.le_trans)
      (fun a b => by simpa using String.le_total a.1 b.1) (Fields.ofList properties)).imp (by simp)
  have hnodup : ((sortedProperties properties).map Prod.fst).Nodup :=
    ((List.mergeSort_perm _ _).map Prod.fst).nodup_iff.mpr (Fields.nodup_names_ofList properties)
  rw [List.pairwise_map]
  refine (hsorted.and (List.pairwise_map.mp hnodup)).imp fun ⟨hle, hne⟩ => ?_
  exact Decidable.not_not.mp fun hnot => hne (String.le_antisymm hle (String.not_lt.mp hnot))

theorem mem_of_mem_sortedProperties {properties : List (String × Schema)} {entry : String × Schema}
    (h : entry ∈ sortedProperties properties) : entry ∈ properties :=
  (Fields.mem_of_mem_merge (List.mem_mergeSort.mp h)).resolve_left List.not_mem_nil

theorem exists_of_mem_mapM {α β : Type} {f : α → Option β} {l : List α} {bs : List β} {b : β}
    (h : l.mapM f = some bs) (hb : b ∈ bs) : ∃ a ∈ l, f a = some b := by
  induction l generalizing bs with
  | nil =>
    cases h
    cases hb
  | cons a rest ih =>
    simp only [List.mapM_cons, Option.bind_eq_bind, Option.bind_eq_some_iff] at h
    obtain ⟨first, hfirst, others, hothers, ⟨⟩⟩ := h
    rcases List.mem_cons.mp hb with rfl | hb
    · exact ⟨a, List.mem_cons_self, hfirst⟩
    · obtain ⟨c, hc, hfc⟩ := ih hothers hb
      exact ⟨c, List.mem_cons_of_mem _ hc, hfc⟩

theorem of_withDefault {α : Type} {fields : Fields Document} {name : String} {default a : α}
    {read : Document → Option α} (h : Document.withDefault fields name default read = some a) :
    a = default ∨ ∃ doc, read doc = some a := by
  unfold Document.withDefault at h
  split at h
  · exact .inl (Option.some.inj h).symm
  · exact .inr ⟨_, h⟩

theorem of_argument? {α : Type} {fields : Fields Document} {name : String} {a : α}
    {read : Document → Option α} (h : argument? fields name read = some (some a)) :
    ∃ doc, read doc = some a := by
  obtain h | ⟨doc, h⟩ := of_withDefault h
  · cases h
  · unfold Document.optional at h
    split at h
    · cases h
    · obtain ⟨b, hread, ⟨⟩⟩ := Option.map_eq_some_iff.mp h
      exact ⟨doc, hread⟩

theorem ordered_of_ofDocument? {levels : Nat} {doc : Document} {schema : Schema}
    (h : ofDocument? levels doc = some schema) : schema.Ordered := by
  induction levels generalizing doc schema with
  | zero => cases h
  | succ levels ih =>
    unfold ofDocument? at h
    -- Of all that is read, only what lies below the schema has a part in its order.
    iterate 4 obtain ⟨_, -, h⟩ := Option.bind_eq_some_iff.mp h
    obtain ⟨properties, hproperties, h⟩ := Option.bind_eq_some_iff.mp h
    obtain ⟨items, hitems, h⟩ := Option.bind_eq_some_iff.mp h
    iterate 7 obtain ⟨_, -, h⟩ := Option.bind_eq_some_iff.mp h
    cases h
    refine .node (names_sortedProperties properties) (fun entry hentry => ?_) fun inner hinner => ?_
    · have hmem := mem_of_mem_sortedProperties hentry
      obtain rfl | ⟨doc, hread⟩ := of_withDefault hproperties
      · cases hmem
      · obtain ⟨entries, -, hread⟩ := Option.bind_eq_some_iff.mp hread
        obtain ⟨⟨key, inner⟩, -, hread⟩ := exists_of_mem_mapM hread hmem
        obtain ⟨name, -, hread⟩ := Option.bind_eq_some_iff.mp hread
        obtain ⟨schema, hschema, ⟨⟩⟩ := Option.bind_eq_some_iff.mp hread
        exact ih hschema
    · subst hinner
      obtain ⟨doc, hread⟩ := of_argument? hitems
      exact ih hread

theorem ordered_of_ofJson? {value : Json} {schema : Schema} (h : ofJson? value = some schema) :
    schema.Ordered := ordered_of_ofDocument? h

end HttpScenario.Schema
