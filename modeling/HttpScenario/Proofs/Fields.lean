import HttpScenario.Json.Basic

/-! What insertion does to the names and values of fields. An entry that is there keeps its place,
and the last value that was inserted under a name is the one that is found. -/

namespace HttpScenario.Fields

variable {α β : Type}

def without (fields : Fields α) (name : String) : Fields α :=
  fields.filter fun entry => entry.1 != name

@[simp]
theorem get?_nil (name : String) : get? ([] : Fields α) name = none := rfl

@[simp]
theorem names_nil : names ([] : Fields α) = [] := rfl

@[simp]
theorem names_cons (entry : String × α) (fields : Fields α) :
    names (entry :: fields) = entry.1 :: names fields := rfl

theorem get?_cons (entry : String × α) (fields : Fields α) (name : String) :
    get? (entry :: fields) name = if entry.1 = name then some entry.2 else get? fields name := by
  by_cases h : entry.1 = name <;> simp [get?, h]

theorem get?_map (f : α → β) (fields : Fields α) (name : String) :
    get? (fields.map fun entry => (entry.1, f entry.2)) name = (get? fields name).map f := by
  induction fields with
  | nil => rfl
  | cons entry rest ih =>
    rw [List.map_cons, get?_cons, get?_cons, ih]
    split <;> rfl

theorem get?_append (fields others : Fields α) (name : String) :
    get? (fields ++ others) name = (get? fields name).or (get? others name) := by
  induction fields with
  | nil => rfl
  | cons entry rest ih =>
    rw [List.cons_append, get?_cons, get?_cons, ih]
    split <;> rfl

theorem get?_eq_none_iff {fields : Fields α} {name : String} :
    get? fields name = none ↔ name ∉ fields.names := by
  induction fields with
  | nil => simp
  | cons entry rest ih =>
    rw [get?_cons, names_cons, List.mem_cons, not_or, ← ih]
    by_cases h : entry.1 = name
    · simp [h]
    · simp [h, Ne.symm h]

theorem mem_of_get? {fields : Fields α} {name : String} {value : α}
    (h : get? fields name = some value) : (name, value) ∈ fields := by
  induction fields with
  | nil => cases h
  | cons entry rest ih =>
    rw [get?_cons] at h
    split at h
    · next hname =>
      obtain rfl := Option.some.inj h
      exact hname ▸ List.mem_cons_self
    · exact List.mem_cons_of_mem _ (ih h)

theorem contains_iff {fields : Fields α} {name : String} :
    fields.contains name = true ↔ name ∈ fields.names := by
  simp only [contains, names, List.any_eq_true, List.mem_map, beq_iff_eq]

theorem insert_cons_self {entry : String × α} {name : String} (h : entry.1 = name)
    (rest : Fields α) (value : α) : insert (entry :: rest) name value = (name, value) :: rest := by
  rw [insert, if_pos (beq_iff_eq.mpr h)]

theorem insert_cons_of_ne {entry : String × α} {name : String} (h : entry.1 ≠ name)
    (rest : Fields α) (value : α) :
    insert (entry :: rest) name value = entry :: insert rest name value := by
  rw [insert, if_neg (mt beq_iff_eq.mp h)]

theorem get?_insert (fields : Fields α) (inserted : String) (value : α) (name : String) :
    (fields.insert inserted value).get? name =
      if inserted = name then some value else fields.get? name := by
  induction fields with
  | nil => simp only [insert, get?_cons]
  | cons entry rest ih =>
    by_cases hentry : entry.1 = inserted
    · rw [insert_cons_self hentry, get?_cons, get?_cons, hentry]
      split <;> rfl
    · rw [insert_cons_of_ne hentry, get?_cons, get?_cons, ih]
      by_cases hname : entry.1 = name
      · rw [if_pos hname, if_pos hname, if_neg fun h => hentry (hname.trans h.symm)]
      · rw [if_neg hname, if_neg hname]

theorem names_insert (fields : Fields α) (name : String) (value : α) :
    (fields.insert name value).names =
      if name ∈ fields.names then fields.names else fields.names ++ [name] := by
  induction fields with
  | nil => rfl
  | cons entry rest ih =>
    by_cases hentry : entry.1 = name
    · simp [insert_cons_self hentry, hentry]
    · have hname : name ∈ names (entry :: rest) ↔ name ∈ names rest := by
        rw [names_cons, List.mem_cons, or_iff_right_iff_imp]
        exact fun h => absurd h.symm hentry
      rw [insert_cons_of_ne hentry, names_cons, ih]
      simp only [hname]
      split <;> rfl

theorem mem_names_insert {fields : Fields α} {name other : String} {value : α} :
    other ∈ (fields.insert name value).names ↔ other = name ∨ other ∈ fields.names := by
  by_cases h : name ∈ fields.names
  · rw [names_insert, if_pos h]
    exact (or_iff_right_of_imp fun heq => heq ▸ h).symm
  · rw [names_insert, if_neg h, List.mem_append, List.mem_singleton, or_comm]

theorem nodup_names_insert {fields : Fields α} (h : fields.names.Nodup) (name : String) (value : α) :
    (fields.insert name value).names.Nodup := by
  rw [names_insert]
  split
  · exact h
  · rename_i hname
    refine List.nodup_append.mpr ⟨h, List.pairwise_singleton _ _, fun a ha b hb heq => hname ?_⟩
    rw [← List.mem_singleton.mp hb, ← heq]
    exact ha

theorem mem_of_mem_insert {fields : Fields α} {name : String} {value : α} {entry : String × α}
    (h : entry ∈ fields.insert name value) : entry = (name, value) ∨ entry ∈ fields := by
  induction fields with
  | nil => exact .inl (List.mem_singleton.mp h)
  | cons first rest ih =>
    by_cases hfirst : first.1 = name
    · rw [insert_cons_self hfirst] at h
      exact (List.mem_cons.mp h).imp_right (List.mem_cons_of_mem _)
    · rw [insert_cons_of_ne hfirst] at h
      rcases List.mem_cons.mp h with rfl | h
      · exact .inr List.mem_cons_self
      · exact (ih h).imp_right (List.mem_cons_of_mem _)

theorem insert_insert (fields : Fields α) (name : String) (value final : α) :
    (fields.insert name value).insert name final = fields.insert name final := by
  induction fields with
  | nil => exact insert_cons_self rfl [] final
  | cons entry rest ih =>
    by_cases h : entry.1 = name
    · rw [insert_cons_self h, insert_cons_self h, insert_cons_self rfl]
    · rw [insert_cons_of_ne h, insert_cons_of_ne h, insert_cons_of_ne h, ih]

theorem insert_comm {fields : Fields α} {name other : String} (hname : name ∈ fields.names)
    (hne : other ≠ name) (value final : α) :
    (fields.insert other value).insert name final =
      (fields.insert name final).insert other value := by
  induction fields with
  | nil => exact absurd hname List.not_mem_nil
  | cons entry rest ih =>
    by_cases h : entry.1 = name
    · have hother : entry.1 ≠ other := fun heq => hne (heq.symm.trans h)
      rw [insert_cons_of_ne hother, insert_cons_self h, insert_cons_self h,
        insert_cons_of_ne (h ▸ hother)]
    · have hrest : name ∈ names rest := (List.mem_cons.mp hname).resolve_left (Ne.symm h)
      by_cases hother : entry.1 = other
      · rw [insert_cons_self hother, insert_cons_of_ne h, insert_cons_self hother,
          insert_cons_of_ne hne]
      · rw [insert_cons_of_ne hother, insert_cons_of_ne h, insert_cons_of_ne h,
          insert_cons_of_ne hother, ih hrest]

theorem without_cons_self {entry : String × α} {name : String} (h : entry.1 = name)
    (rest : Fields α) : without (entry :: rest) name = without rest name :=
  List.filter_cons_of_neg (by simp [h])

theorem without_cons_of_ne {entry : String × α} {name : String} (h : entry.1 ≠ name)
    (rest : Fields α) : without (entry :: rest) name = entry :: without rest name :=
  List.filter_cons_of_pos (by simp [h])

theorem get?_without_of_ne {name other : String} (h : other ≠ name) (fields : Fields α) :
    get? (fields.without name) other = get? fields other := by
  induction fields with
  | nil => rfl
  | cons entry rest ih =>
    by_cases hentry : entry.1 = name
    · have hother : entry.1 ≠ other := fun heq => h (heq.symm.trans hentry)
      rw [without_cons_self hentry, ih, get?_cons, if_neg hother]
    · rw [without_cons_of_ne hentry, get?_cons, get?_cons, ih]

theorem get?_without_self (fields : Fields α) (name : String) :
    get? (fields.without name) name = none := by
  rw [get?_eq_none_iff, names, List.mem_map]
  rintro ⟨entry, hmem, hname⟩
  have hother : (entry.1 != name) = true := (List.mem_filter.1 hmem).2
  exact absurd hname (bne_iff_ne.1 hother)

theorem without_insert_self (fields : Fields α) (name : String) (value : α) :
    (fields.insert name value).without name = fields.without name := by
  induction fields with
  | nil => exact without_cons_self rfl []
  | cons entry rest ih =>
    by_cases h : entry.1 = name
    · rw [insert_cons_self h, without_cons_self rfl, without_cons_self h]
    · rw [insert_cons_of_ne h, without_cons_of_ne h, without_cons_of_ne h, ih]

theorem without_insert_of_ne {name other : String} (h : other ≠ name) (fields : Fields α)
    (value : α) :
    (fields.insert other value).without name = (fields.without name).insert other value := by
  induction fields with
  | nil => exact without_cons_of_ne h []
  | cons entry rest ih =>
    by_cases hother : entry.1 = other
    · have hentry : entry.1 ≠ name := hother ▸ h
      rw [insert_cons_self hother, without_cons_of_ne h, without_cons_of_ne hentry,
        insert_cons_self hother]
    · rw [insert_cons_of_ne hother]
      by_cases hentry : entry.1 = name
      · rw [without_cons_self hentry, without_cons_self hentry, ih]
      · rw [without_cons_of_ne hentry, without_cons_of_ne hentry, insert_cons_of_ne hother, ih]

@[simp]
theorem merge_nil (fields : Fields α) : merge fields [] = fields := rfl

@[simp]
theorem merge_cons (fields others : Fields α) (entry : String × α) :
    merge fields (entry :: others) = merge (fields.insert entry.1 entry.2) others := rfl

theorem merge_append (fields others more : Fields α) :
    merge fields (others ++ more) = merge (merge fields others) more :=
  List.foldl_append

theorem merge_insert_of_not_mem {fields others : Fields α} {name : String}
    (hname : name ∈ fields.names) (hothers : name ∉ others.names) (value : α) :
    merge (fields.insert name value) others = (merge fields others).insert name value := by
  induction others generalizing fields with
  | nil => rfl
  | cons entry rest ih =>
    obtain ⟨hne, hrest⟩ := not_or.mp (mt List.mem_cons.mpr hothers)
    rw [merge_cons, merge_cons, ← ih (mem_names_insert.mpr (.inr hname)) hrest,
      insert_comm hname (Ne.symm hne)]

theorem merge_insert {others : Fields α} (h : others.names.Nodup) (fields : Fields α)
    (name : String) (value : α) :
    merge fields (others.insert name value) = (merge fields others).insert name value := by
  induction others generalizing fields with
  | nil => rfl
  | cons entry rest ih =>
    obtain ⟨hentry, hrest⟩ := List.nodup_cons.mp h
    by_cases hname : entry.1 = name
    · subst hname
      rw [insert_cons_self rfl, merge_cons, merge_cons,
        ← merge_insert_of_not_mem (mem_names_insert.mpr (.inl rfl)) hentry, insert_insert]
    · rw [insert_cons_of_ne hname, merge_cons, merge_cons, ih hrest]

theorem merge_merge {others : Fields α} (h : others.names.Nodup) (fields more : Fields α) :
    merge fields (merge others more) = merge (merge fields others) more := by
  induction more generalizing others with
  | nil => rfl
  | cons entry rest ih =>
    rw [merge_cons, merge_cons, ih (nodup_names_insert h _ _), merge_insert h]

theorem merge_ofList (fields : Fields α) (entries : List (String × α)) :
    merge fields (ofList entries) = merge fields entries := by
  have hnil : (names ([] : Fields α)).Nodup := List.nodup_nil
  exact merge_merge hnil fields entries

theorem insert_of_not_mem {fields : Fields α} {name : String} (h : name ∉ fields.names) (value : α) :
    fields.insert name value = fields ++ [(name, value)] := by
  induction fields with
  | nil => rfl
  | cons entry rest ih =>
    obtain ⟨hentry, hrest⟩ := List.ne_and_not_mem_of_not_mem_cons h
    rw [insert_cons_of_ne (Ne.symm hentry), ih hrest, List.cons_append]

theorem merge_eq_append {fields others : Fields α} (h : (names (fields ++ others)).Nodup) :
    merge fields others = fields ++ others := by
  induction others generalizing fields with
  | nil => exact (List.append_nil fields).symm
  | cons entry rest ih =>
    have hcons : fields ++ entry :: rest = fields ++ [(entry.1, entry.2)] ++ rest := by simp
    have hname : entry.1 ∉ fields.names := by
      intro hmem
      rw [names, List.map_append] at h
      exact (List.nodup_append.mp h).2.2 _ hmem _ (List.mem_cons_self ..) rfl
    rw [merge_cons, insert_of_not_mem hname, ih (hcons ▸ h), hcons]

theorem ofList_eq_self {fields : Fields α} (h : fields.names.Nodup) : ofList fields = fields := by
  have hmerge : merge [] fields = [] ++ fields := merge_eq_append h
  exact hmerge

theorem nodup_names_merge {fields : Fields α} (h : fields.names.Nodup) (others : Fields α) :
    (merge fields others).names.Nodup := by
  induction others generalizing fields with
  | nil => exact h
  | cons entry rest ih => exact ih (nodup_names_insert h entry.1 entry.2)

theorem nodup_names_ofList (entries : List (String × α)) : (ofList entries).names.Nodup := by
  have hnil : (names ([] : Fields α)).Nodup := List.nodup_nil
  exact nodup_names_merge hnil entries

theorem eq_of_name_eq {fields : Fields α} (h : fields.names.Nodup) {entry other : String × α}
    (hentry : entry ∈ fields) (hother : other ∈ fields) (hname : entry.1 = other.1) :
    entry = other := by
  induction fields with
  | nil => cases hentry
  | cons first rest ih =>
    obtain ⟨hfirst, hrest⟩ := List.nodup_cons.mp h
    have hne : ∀ later ∈ rest, first.1 ≠ later.1 := fun later hlater heq =>
      hfirst (heq ▸ List.mem_map_of_mem hlater)
    rcases List.mem_cons.mp hentry with rfl | hin
    · rcases List.mem_cons.mp hother with rfl | hin
      · rfl
      · exact absurd hname (hne other hin)
    · rcases List.mem_cons.mp hother with rfl | hin'
      · exact absurd hname.symm (hne entry hin)
      · exact ih hrest hin hin'

theorem mem_of_mem_merge {fields others : Fields α} {entry : String × α}
    (h : entry ∈ merge fields others) : entry ∈ fields ∨ entry ∈ others := by
  induction others generalizing fields with
  | nil => exact .inl h
  | cons first rest ih =>
    rcases ih h with hin | hin
    · rcases mem_of_mem_insert hin with rfl | hin
      · exact .inr List.mem_cons_self
      · exact .inl hin
    · exact .inr (List.mem_cons_of_mem _ hin)

theorem without_merge (fields others : Fields α) (name : String) :
    (merge fields others).without name = merge (fields.without name) (others.without name) := by
  induction others generalizing fields with
  | nil => rfl
  | cons entry rest ih =>
    rw [merge_cons, ih]
    by_cases h : entry.1 = name
    · rw [without_cons_self h, h, without_insert_self]
    · rw [without_cons_of_ne h, merge_cons, without_insert_of_ne h]

theorem get?_merge (fields others : Fields α) (name : String) :
    (merge fields others).get? name = (get? others.reverse name).or (fields.get? name) := by
  induction others generalizing fields with
  | nil => rfl
  | cons entry rest ih =>
    rw [merge_cons, ih, List.reverse_cons, get?_append, get?_insert, Option.or_assoc, get?_cons]
    split <;> rfl

theorem get?_reverse {fields : Fields α} (h : fields.names.Nodup) (name : String) :
    get? fields.reverse name = get? fields name := by
  induction fields with
  | nil => rfl
  | cons entry rest ih =>
    obtain ⟨hentry, hrest⟩ := List.nodup_cons.mp h
    rw [List.reverse_cons, get?_append, ih hrest, get?_cons, get?_cons, get?_nil]
    by_cases hname : entry.1 = name
    · have habsent : get? rest name = none := get?_eq_none_iff.mpr (hname ▸ hentry)
      rw [if_pos hname, if_pos hname, habsent, Option.none_or]
    · rw [if_neg hname, if_neg hname, Option.or_none]

/-- Names that are there keep their places, and new ones come last in the order in which they are
inserted first. -/
theorem names_merge (fields others : Fields α) :
    (merge fields others).names =
      fields.names ++ (others.names.removeAll fields.names).eraseDups := by
  induction others generalizing fields with
  | nil => exact (List.append_nil _).symm
  | cons entry rest ih =>
    rw [merge_cons, ih, names_insert, names_cons, List.cons_removeAll]
    -- A name that is inserted anew is not inserted again later on.
    by_cases h : entry.1 ∈ fields.names
    · simp [h]
    · have hremoved : (names rest).removeAll (fields.names ++ [entry.1]) =
          ((names rest).removeAll fields.names).filter fun name => !name == entry.1 := by
        rw [List.removeAll, List.removeAll, List.filter_filter]
        refine List.filter_congr fun name _ => ?_
        by_cases hname : name = entry.1 <;> simp [hname]
      simp [h, hremoved, List.eraseDups_cons]

theorem names_merge_nil (others : Fields α) :
    (merge [] others).names = others.names.eraseDups := by
  rw [names_merge, names_nil, List.removeAll_nil, List.nil_append]

theorem names_prefix_merge (fields others : Fields α) :
    fields.names <+: (merge fields others).names := by
  rw [names_merge]
  exact List.prefix_append _ _

theorem mem_names_merge {fields others : Fields α} {name : String} :
    name ∈ (merge fields others).names ↔ name ∈ fields.names ∨ name ∈ others.names := by
  by_cases h : name ∈ fields.names <;> simp [names_merge, List.removeAll, h]

end HttpScenario.Fields
