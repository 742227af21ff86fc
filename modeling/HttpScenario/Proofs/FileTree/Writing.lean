import HttpScenario.FileTree

/-! Writing files into a tree. A name in a directory leads one step further than the directory. A
write puts its text at that place and leaves all other files as they are, and what the directory
holds afterwards is that name beside those it held before. In a directory that is there, all names
can be written to that no directory has. -/

namespace HttpScenario

namespace FilePath

structure IsName (name : String) : Prop where
  not_slash : '/' ∉ name.toList
  ne_empty : name ≠ ""
  ne_dot : name ≠ "."
  ne_dots : name ≠ ".."

theorem exists_of_endsWith_slash {path : String} (h : path.endsWith "/" = true) :
    ∃ before, path = before ++ "/" := by
  rw [String.endsWith_eq_endsWith_toSlice, String.Slice.endsWith_string_iff,
    String.copy_toSlice] at h
  obtain ⟨before, hbefore⟩ := h
  refine ⟨String.ofList before, ?_⟩
  rw [← String.toList_inj, String.toList_append, String.toList_ofList, hbefore]

theorem parts_slash (before after : String) :
    parts (before ++ "/" ++ after) = parts before ++ parts after := by
  have htext : (before ++ "/" ++ after).toList = before.toList ++ '/' :: after.toList := by
    simp [String.toList_append]
  have hsplit : (before.toList ++ '/' :: after.toList).splitOn '/' =
      before.toList.splitOn '/' ++ after.toList.splitOn '/' :=
    List.splitOnP_append_cons before.toList after.toList (beq_self_eq_true '/')
  simp only [parts, htext, hsplit, List.map_append, List.filter_append]

theorem parts_name {name : String} (h : IsName name) : parts name = [name] := by
  have hsplit : name.toList.splitOn '/' = [name.toList] := List.splitOn_eq_singleton h.not_slash
  simp [parts, hsplit, h.ne_empty, h.ne_dot]

theorem parts_join {name : String} (h : IsName name) (directory : String) :
    parts (join directory name) = parts directory ++ [name] := by
  rw [← parts_name h, join]
  split
  · rename_i hends
    rcases hends with rfl | hends
    · rw [String.empty_append]
      rfl
    · obtain ⟨before, rfl⟩ := exists_of_endsWith_slash hends
      have hbefore : parts (before ++ "/") = parts before := by
        have hslash := parts_slash before ""
        rw [String.append_empty] at hslash
        rw [hslash]
        exact List.append_nil _
      rw [parts_slash, hbefore]
  · exact parts_slash directory name

end FilePath

namespace FileTree

open FilePath

variable {tree changed : FileTree} {path text directory name given : String}
  {location other found : List String} {parts : List String}

theorem follow_append (location parts more : List String) :
    follow location (parts ++ more) = follow (follow location parts) more := by
  induction parts generalizing location with
  | nil => rfl
  | cons part rest ih => exact ih _

theorem place_join (h : IsName name) (directory : String) :
    place (join directory name) = place directory ++ [name] := by
  rw [place, parts_join h, follow_append, follow, if_neg h.ne_dots]
  rfl

theorem lookup_filter {β : Type} (keep : List String → Bool) (entries : List (List String × β))
    (location : List String) :
    (entries.filter fun entry => keep entry.1).lookup location =
      if keep location then entries.lookup location else none := by
  induction entries with
  | nil => simp
  | cons entry rest ih =>
    obtain ⟨first, value⟩ := entry
    by_cases hfirst : location = first
    · subst hfirst
      cases hkeep : keep location
      · simpa [hkeep] using ih
      · simp [hkeep]
    · have hne : (location == first) = false := beq_eq_false_iff_ne.mpr hfirst
      cases hkeep : keep first <;> simp [hkeep, List.lookup_cons, hne, ih]

theorem makeDirectory_eq_ok (h : tree.makeDirectory path = .ok changed) :
    changed = tree ∨ changed = { tree with directories := tree.directories ++ [place path] } := by
  unfold makeDirectory at h
  split at h
  · exact .inl (Except.ok.inj h).symm
  · cases h
  · split at h
    · exact .inl (Except.ok.inj h).symm
    · exact .inr (Except.ok.inj h).symm
  · cases h

theorem write_eq_ok (h : tree.write path text = .ok changed) :
    changed = { tree with
      files := (tree.files.filter fun entry => !(entry.1 == place path)) ++
        [(place path, some text)] } := by
  unfold write at h
  split at h
  · cases h
  all_goals
    simp only at h
    split at h
    · exact (Except.ok.inj h).symm
    · cases h

theorem lookup_makeDirectory (h : tree.makeDirectory path = .ok changed) (location : List String) :
    changed.files.lookup location = tree.files.lookup location := by
  rcases makeDirectory_eq_ok h with rfl | rfl <;> rfl

theorem lookup_write (h : tree.write path text = .ok changed) (location : List String) :
    changed.files.lookup location =
      if location = place path then some (some text) else tree.files.lookup location := by
  rw [write_eq_ok h, List.lookup_append, lookup_filter fun other => !(other == place path)]
  by_cases hplace : location = place path
  · simp [hplace]
  · simp [hplace, List.lookup_cons, beq_eq_false_iff_ne.mpr hplace]

theorem nodup_eraseDups (names : List String) : names.eraseDups.Nodup := by
  match names with
  | [] => exact List.nodup_nil
  | name :: rest =>
    have hshorter := List.length_filter_le (fun other => !other == name) rest
    have hrest := nodup_eraseDups (rest.filter fun other => !other == name)
    rw [List.eraseDups_cons]
    exact List.nodup_cons.2 ⟨by simp, hrest⟩
termination_by names.length
decreasing_by exact Nat.lt_succ_of_le hshorter

theorem nodup_names (tree : FileTree) (location : List String) : (tree.names location).Nodup :=
  nodup_eraseDups _

theorem mem_names : name ∈ tree.names location ↔
    ∃ other ∈ tree.known, ∃ rest, other = location ++ name :: rest := by
  rw [names, List.mem_eraseDups, List.mem_filterMap]
  refine exists_congr fun other => and_congr_right fun _ => ?_
  constructor
  · intro h
    split at h
    · rename_i hprefix
      obtain ⟨rest, rfl⟩ := List.isPrefixOf_iff_prefix.1 hprefix
      rw [List.getElem?_append_right (Nat.le_refl _), Nat.sub_self, ← List.head?_eq_getElem?] at h
      obtain ⟨rest, rfl⟩ := List.head?_eq_some_iff.1 h
      exact ⟨rest, rfl⟩
    · cases h
  · rintro ⟨rest, rfl⟩
    rw [if_pos (List.isPrefixOf_iff_prefix.2 (List.prefix_append location _)),
      List.getElem?_append_right (Nat.le_refl _), Nat.sub_self]
    rfl

theorem mem_known_makeDirectory (h : tree.makeDirectory path = .ok changed)
    (hother : other ≠ place path) : other ∈ changed.known ↔ other ∈ tree.known := by
  rcases makeDirectory_eq_ok h with rfl | rfl
  · exact Iff.rfl
  · simp [known, hother]

theorem mem_files_write (h : tree.write path text = .ok changed) :
    other ∈ changed.files.map Prod.fst ↔ other ∈ tree.files.map Prod.fst ∨ other = place path := by
  have hothers : (tree.files.filter fun entry => !(entry.1 == place path)).map Prod.fst =
      (tree.files.map Prod.fst).filter fun location => !(location == place path) := by
    rw [List.filter_map]
    rfl
  rw [write_eq_ok h, List.map_append, hothers]
  by_cases hother : other = place path
  · simp [hother]
  · simp [hother]

theorem mem_known_write (h : tree.write path text = .ok changed) :
    other ∈ changed.known ↔ other ∈ tree.known ∨ other = place path := by
  have hdirectories : changed.directories = tree.directories := by rw [write_eq_ok h]
  rw [known, known, List.mem_append, List.mem_append, mem_files_write h, hdirectories,
    or_right_comm]

theorem mem_names_makeDirectory (h : tree.makeDirectory directory = .ok changed) :
    name ∈ changed.names (place directory) ↔ name ∈ tree.names (place directory) := by
  rw [mem_names, mem_names]
  refine exists_congr fun other => and_congr_left ?_
  rintro ⟨rest, rfl⟩
  exact mem_known_makeDirectory h (by simp)

theorem mem_names_write (hgiven : IsName given)
    (h : tree.write (join directory given) text = .ok changed) :
    name ∈ changed.names (place directory) ↔
      name ∈ tree.names (place directory) ∨ name = given := by
  rw [mem_names, mem_names]
  simp only [mem_known_write h, place_join hgiven, or_and_right, exists_or]
  refine or_congr_right ?_
  constructor
  · rintro ⟨other, rfl, rest, heq⟩
    exact (List.cons.inj (List.append_cancel_left heq)).1.symm
  · rintro rfl
    exact ⟨_, rfl, [], rfl⟩

theorem isFile_iff : tree.isFile location = true ↔ location ∈ tree.files.map Prod.fst := by
  rw [isFile, List.any_eq_true, List.mem_map]
  simp only [beq_iff_eq]

theorem isDirectory_iff : tree.isDirectory location = true ↔
    location = [] ∨ location ∈ tree.directories ∨
      ∃ other ∈ tree.known, location <+: other ∧ location.length < other.length := by
  simp only [isDirectory, Bool.or_eq_true, List.isEmpty_iff, List.contains_iff_mem,
    List.any_eq_true, Bool.and_eq_true, List.isPrefixOf_iff_prefix, decide_eq_true_eq, or_assoc]

theorem eq_follow_of_reach (h : tree.reach location parts = .ok found) :
    found = follow location parts := by
  induction parts generalizing location with
  | nil => exact (Except.ok.inj h).symm
  | cons part rest ih =>
    rw [reach] at h
    split at h
    · exact ih h
    · cases h

/-- A path leads to a directory if one stands at its place, and no file, and it can be followed. -/
theorem find_eq_directory_iff : tree.find path = .ok .directory ↔
    ¬(path = "" ∨ path.startsWith "/" = true) ∧
      tree.reach [] (FilePath.parts path) = .ok (place path) ∧
      tree.isFile (place path) = false ∧ tree.isDirectory (place path) = true := by
  rw [find]
  split
  · rename_i h
    exact ⟨nofun, fun hfound => absurd h hfound.1⟩
  · rename_i hpath
    cases hreach : tree.reach [] (FilePath.parts path) with
    | error error => exact ⟨nofun, fun hfound => nomatch hfound.2.1⟩
    | ok found =>
      obtain rfl : found = place path := eq_follow_of_reach hreach
      show (if tree.isFile (place path) = true then _ else _) = _ ↔ _
      cases tree.isFile (place path) with
      | true =>
        refine ⟨fun h => ?_, fun h => nomatch h.2.2.1⟩
        simp only [if_true] at h
        split at h <;> cases h
      | false =>
        cases tree.isDirectory (place path) with
        | true => exact ⟨fun _ => ⟨hpath, rfl, rfl, rfl⟩, fun _ => rfl⟩
        | false => exact ⟨nofun, fun h => nomatch h.2.2.2⟩

theorem isDirectory_write (h : tree.write path text = .ok changed) :
    changed.isDirectory location = true ↔ tree.isDirectory location = true ∨
      (location <+: place path ∧ location.length < (place path).length) := by
  have hdirectories : changed.directories = tree.directories := by rw [write_eq_ok h]
  rw [isDirectory_iff, isDirectory_iff, hdirectories]
  simp only [mem_known_write h, or_and_right, exists_or, exists_eq_left, or_assoc]

theorem isFile_write (h : tree.write path text = .ok changed) :
    changed.isFile location = true ↔ tree.isFile location = true ∨ location = place path := by
  rw [isFile_iff, isFile_iff, mem_files_write h]

theorem reach_write (h : tree.write path text = .ok changed)
    (hreach : tree.reach location parts = .ok found) :
    changed.reach location parts = .ok found := by
  induction parts generalizing location with
  | nil => exact hreach
  | cons part rest ih =>
    rw [reach] at hreach ⊢
    split at hreach
    · rename_i hdirectory
      rw [if_pos ((isDirectory_write h).2 (.inl hdirectory))]
      exact ih hreach
    · cases hreach

theorem makeDirectory_of_find (h : tree.find path = .ok .directory) :
    tree.makeDirectory path = .ok tree := by
  rw [makeDirectory, h]

theorem exists_write (hgiven : IsName given)
    (hdirectory : tree.find directory = .ok .directory)
    (hfree : tree.isDirectory (place directory ++ [given]) = false) (text : String) :
    ∃ changed, tree.write (join directory given) text = .ok changed ∧
      changed.find directory = .ok .directory := by
  have hplace := place_join hgiven directory
  have hkind : tree.kind? (join directory given) ≠ some .directory := by
    intro hkind
    rw [kind?] at hkind
    cases hfind : tree.find (join directory given) with
    | error error =>
      rw [hfind] at hkind
      cases hkind
    | ok kind =>
      rw [hfind] at hkind
      cases hkind
      have hstands := (find_eq_directory_iff.1 hfind).2.2.2
      rw [hplace, hfree] at hstands
      cases hstands
  obtain ⟨hpath, hreach, hfile, hstands⟩ := find_eq_directory_iff.1 hdirectory
  have hwritten : ∃ changed, tree.write (join directory given) text = .ok changed := by
    unfold write
    split
    · exact absurd ‹_› hkind
    all_goals
      simp only [hplace, List.dropLast_concat, if_pos hstands]
      exact ⟨_, rfl⟩
  obtain ⟨changed, hchanged⟩ := hwritten
  refine ⟨changed, hchanged, find_eq_directory_iff.2 ⟨hpath, reach_write hchanged hreach, ?_, ?_⟩⟩
  · rw [Bool.eq_false_iff, Ne, isFile_write hchanged, hplace, hfile]
    simp
  · exact (isDirectory_write hchanged).2 (.inl hstands)

end FileTree

end HttpScenario
