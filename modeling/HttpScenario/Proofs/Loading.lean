import HttpScenario.CommandLine
import HttpScenario.Proofs.FileTree.Writing

/-! What the command line loads when it is given no path. As long as files stay as they are, the
scenarios that are loaded depend on them alone. The scenarios of `tests/scenarios` are loaded twice,
since that directory is one of the loader's own as well as one of the usual ones, and those of
`scenarios` once. -/

namespace HttpScenario

variable {σ α β : Type}

def Always (x : StateM σ α) (a : α) : Prop := ∀ state, (x.run state).1 = a

namespace Always

protected theorem pure (a : α) : Always (pure a : StateM σ α) a := fun _ => rfl

protected theorem bind {x : StateM σ α} {f : α → StateM σ β} {a : α} {b : β} (hx : Always x a)
    (hf : Always (f a) b) : Always (x >>= f) b := by
  intro state
  have hrun : ((x >>= f).run state) = (f (x.run state).1).run (x.run state).2 := rfl
  rw [hrun, hx state]
  exact hf _

theorem unit (x : StateM σ Unit) : Always x () := fun _ => rfl

end Always

namespace FilePath

theorem join_injective (directory : String) : Function.Injective (join directory) := by
  intro name other h
  unfold join at h
  split at h
  · exact (String.append_right_inj _).1 h
  · exact (String.append_right_inj _).1 h

theorem exists_join (directory name : String) : ∃ rest, join directory name = directory ++ rest := by
  unfold join
  split
  · exact ⟨name, rfl⟩
  · exact ⟨"/" ++ name, String.append_assoc⟩

end FilePath

/-- The files as they are at one time. A directory holds no name twice. -/
structure Snapshot where
  kind : String → Option FileKind
  content : String → Except FileError String
  entries : String → Except FileError (List String)
  nodup_entries : ∀ directory names, entries directory = .ok names → names.Nodup

namespace Snapshot

def reading (snapshot : Snapshot) (files : Files (StateM σ)) : Files (StateM σ) :=
  { files with
    kind? := fun path => pure (snapshot.kind path)
    read := fun path => pure (snapshot.content path)
    list := fun directory => pure (snapshot.entries directory) }

def scenario? (snapshot : Snapshot) (path : String) : Option (Scenario (StateM σ)) :=
  match snapshot.content path with
  | .error _ => none
  | .ok text => (Scenario.parse (Loader.formatOf path) text).toOption

def LiesIn (snapshot : Snapshot) (directory path : String) : Prop :=
  snapshot.kind directory = some .directory ∧
  (∃ names name, snapshot.entries directory = .ok names ∧ name ∈ names ∧
    FilePath.join directory name = path) ∧
  snapshot.kind path = some .file ∧ Loader.isScenarioFile path = true

def isScenarioFile (snapshot : Snapshot) (path : String) : Bool :=
  decide (snapshot.kind path = some .file ∧ Loader.isScenarioFile path)

def pathsOf (snapshot : Snapshot) (directory : String) (names : List String) : List String :=
  ((names.mergeSort fun a b => a ≤ b).map (FilePath.join directory)).filter snapshot.isScenarioFile

def pathsIn (snapshot : Snapshot) (directory : String) : List String :=
  match snapshot.kind directory, snapshot.entries directory with
  | some .directory, .ok names => snapshot.pathsOf directory names
  | _, _ => []

def loader (snapshot : Snapshot) (files : Files (StateM σ)) (log : LogLine → StateM σ Unit)
    (directories : List String) : Loader (StateM σ) :=
  ⟨snapshot.reading files, log, directories⟩

theorem mem_pathsOf {snapshot : Snapshot} {directory path : String} {names : List String} :
    path ∈ snapshot.pathsOf directory names ↔
      (∃ name ∈ names, FilePath.join directory name = path) ∧
        snapshot.kind path = some .file ∧ Loader.isScenarioFile path = true := by
  rw [pathsOf, List.mem_filter, List.mem_map, isScenarioFile, decide_eq_true_iff]
  simp only [List.mem_mergeSort]

theorem mem_pathsIn {snapshot : Snapshot} {directory path : String} :
    path ∈ snapshot.pathsIn directory ↔ snapshot.LiesIn directory path := by
  rw [pathsIn, LiesIn]
  split
  · next names hkind hentries =>
      rw [mem_pathsOf]
      constructor
      · rintro ⟨⟨name, hname, hpath⟩, hfile⟩
        exact ⟨hkind, ⟨names, name, hentries, hname, hpath⟩, hfile⟩
      · rintro ⟨-, ⟨others, name, hothers, hname, hpath⟩, hfile⟩
        rw [hentries, Except.ok.injEq] at hothers
        exact ⟨⟨name, hothers ▸ hname, hpath⟩, hfile⟩
  · next hnone =>
      constructor
      · intro h
        exact absurd h List.not_mem_nil
      · rintro ⟨hkind, ⟨names, _, hentries, _⟩, _⟩
        exact absurd hentries (hnone names hkind)

theorem nodup_pathsIn (snapshot : Snapshot) (directory : String) :
    (snapshot.pathsIn directory).Nodup := by
  rw [pathsIn]
  split
  · next names _ hentries =>
      have hnames := snapshot.nodup_entries directory names hentries
      have hsorted := (names.mergeSort_perm fun a b => a ≤ b).nodup_iff.2 hnames
      refine (List.Pairwise.map (FilePath.join directory) ?_ hsorted).filter _
      exact fun name other hne h => hne (FilePath.join_injective directory h)
  · exact List.nodup_nil

theorem count_pathsIn_of_liesIn {snapshot : Snapshot} {directory path : String}
    (h : snapshot.LiesIn directory path) : (snapshot.pathsIn directory).count path = 1 := by
  rw [(snapshot.nodup_pathsIn directory).count, if_pos (mem_pathsIn.2 h)]

theorem count_pathsIn_of_not_liesIn {snapshot : Snapshot} {directory path : String}
    (h : ¬ snapshot.LiesIn directory path) : (snapshot.pathsIn directory).count path = 0 :=
  List.count_eq_zero_of_not_mem (mt mem_pathsIn.1 h)

theorem LiesIn.not_scenarios {snapshot : Snapshot} {path : String}
    (h : snapshot.LiesIn "tests/scenarios" path) : ¬ snapshot.LiesIn "scenarios" path := by
  rintro ⟨_, ⟨_, other, _, _, hother⟩, _⟩
  obtain ⟨_, ⟨_, name, _, _, hname⟩, _⟩ := h
  obtain ⟨rest, hrest⟩ := FilePath.exists_join "scenarios" other
  obtain ⟨rest', hrest'⟩ := FilePath.exists_join "tests/scenarios" name
  have hchars : "scenarios".toList ++ rest.toList = "tests/scenarios".toList ++ rest'.toList := by
    rw [← String.toList_append, ← String.toList_append, ← hrest, ← hrest', hother, hname]
  -- One starts with an s, the other with a t.
  have hhead := congrArg List.head? hchars
  simp at hhead

theorem flatMap_pathsIn_filter (snapshot : Snapshot) (names : List String) :
    (names.filter fun name => (snapshot.kind name).isSome).flatMap snapshot.pathsIn =
      names.flatMap snapshot.pathsIn := by
  induction names with
  | nil => rfl
  | cons name rest ih =>
    rw [List.flatMap_cons, ← ih]
    cases hkind : snapshot.kind name with
    | some kind => rw [List.filter_cons_of_pos (by simp [hkind]), List.flatMap_cons]
    | none =>
      have hpaths : snapshot.pathsIn name = [] := by rw [pathsIn, hkind]
      rw [List.filter_cons_of_neg (by simp [hkind]), hpaths, List.nil_append]

end Snapshot

namespace FileTree

def snapshot (tree : FileTree) : Snapshot where
  kind := tree.kind?
  content := tree.read
  entries := tree.list
  nodup_entries := by
    intro directory names h
    unfold list at h
    cases hfind : tree.find directory with
    | error error =>
      rw [hfind] at h
      cases h
    | ok kind =>
      rw [hfind] at h
      cases kind with
      | file => cases h
      | directory =>
        cases h
        exact nodup_names _ _

end FileTree

namespace Loader

variable {snapshot : Snapshot} {files : Files (StateM σ)} {log : LogLine → StateM σ Unit}
  {directories : List String}

theorem always_loadFile (path : String) :
    ∃ loaded, Always ((snapshot.loader files log directories).loadFile path) loaded ∧
      loaded.toOption = snapshot.scenario? path := by
  unfold Snapshot.scenario?
  cases hcontent : snapshot.content path with
  | error error =>
    refine ⟨.error ⟨"Failed to read scenario file: " ++ path, [error.message]⟩, ?_, rfl⟩
    refine .bind (.unit _) (.bind (.pure (snapshot.content path)) ?_)
    rw [hcontent]
    exact .pure _
  | ok text =>
    simp only
    cases hparse : (Scenario.parse (formatOf path) text : Except Scenario.Error (Scenario (StateM σ)))
      with
    | error error =>
      refine ⟨.error ⟨"Invalid scenario in " ++ path, [error.message]⟩, ?_, rfl⟩
      refine .bind (.unit _) (.bind (.pure (snapshot.content path)) ?_)
      simp only [hcontent, hparse]
      exact .pure _
    | ok scenario =>
      refine ⟨.ok scenario, ?_, rfl⟩
      refine .bind (.unit _) (.bind (.pure (snapshot.content path)) ?_)
      simp only [hcontent, hparse]
      exact .bind (.unit _) (.pure _)

theorem always_scenarioFiles (paths : List String) :
    Always ((snapshot.loader files log directories).scenarioFiles paths)
      (paths.filter snapshot.isScenarioFile) := by
  induction paths with
  | nil => exact .pure []
  | cons path rest ih =>
    rw [scenarioFiles]
    refine .bind (.pure (snapshot.kind path)) (.bind ih ?_)
    by_cases h : snapshot.kind path = some .file ∧ isScenarioFile path = true
    · have hfile : snapshot.isScenarioFile path = true := decide_eq_true h
      rw [if_pos h, List.filter_cons_of_pos hfile]
      exact .pure _
    · have hfile : ¬ snapshot.isScenarioFile path = true := mt of_decide_eq_true h
      rw [if_neg h, List.filter_cons_of_neg hfile]
      exact .pure _

theorem always_loadEach (paths : List String) :
    Always ((snapshot.loader files log directories).loadEach paths)
      (paths.filterMap snapshot.scenario?) := by
  induction paths with
  | nil => exact .pure []
  | cons path rest ih =>
    obtain ⟨loaded, hload, hloaded⟩ := @always_loadFile σ snapshot files log directories path
    rw [loadEach]
    refine .bind hload ?_
    cases loaded with
    | error failure =>
      rw [List.filterMap_cons_none hloaded.symm]
      exact .bind (.unit _) ih
    | ok scenario =>
      rw [List.filterMap_cons_some hloaded.symm]
      exact .bind ih (.pure _)

theorem always_loadDirectory (directory : String) (names : List String)
    (hentries : snapshot.entries directory = .ok names) :
    Always ((snapshot.loader files log directories).loadDirectory directory)
      (.ok ((snapshot.pathsOf directory names).filterMap snapshot.scenario?)) := by
  refine .bind (.unit _) (.bind (.pure (snapshot.entries directory)) ?_)
  rw [hentries]
  refine .bind (always_scenarioFiles _) (.bind (always_loadEach _) ?_)
  exact .bind (.unit _) (.pure _)

theorem always_loadPresent (directory : String) :
    Always ((snapshot.loader files log directories).loadPresent directory)
      ((snapshot.pathsIn directory).filterMap snapshot.scenario?) := by
  refine .bind (.pure (snapshot.kind directory)) ?_
  by_cases hkind : snapshot.kind directory = some .directory
  · rw [if_pos hkind]
    cases hentries : snapshot.entries directory with
    | error error =>
      have hpaths : snapshot.pathsIn directory = [] := by
        rw [Snapshot.pathsIn, hkind, hentries]
      rw [hpaths]
      have hload : Always ((snapshot.loader files log directories).loadDirectory directory)
          (.error ⟨"Failed to read directory: " ++ directory, [error.message]⟩) := by
        refine .bind (.unit _) (.bind (.pure (snapshot.entries directory)) ?_)
        rw [hentries]
        exact .pure _
      exact .bind hload (.bind (.unit _) (.pure _))
    | ok names =>
      have hpaths : snapshot.pathsIn directory = snapshot.pathsOf directory names := by
        rw [Snapshot.pathsIn, hkind, hentries]
      rw [hpaths]
      exact .bind (always_loadDirectory directory names hentries) (.pure _)
  · have hpaths : snapshot.pathsIn directory = [] := by
      rw [Snapshot.pathsIn]
      split
      · next hother _ => exact absurd hother hkind
      · rfl
    rw [if_neg hkind, hpaths]
    exact .pure []

theorem always_loadFrom (searched : List String) :
    Always ((snapshot.loader files log directories).loadFrom searched)
      ((searched.flatMap snapshot.pathsIn).filterMap snapshot.scenario?) := by
  induction searched with
  | nil => exact .pure []
  | cons directory rest ih =>
    rw [loadFrom, List.flatMap_cons, List.filterMap_append]
    exact .bind (always_loadPresent directory) (.bind ih (.pure _))

end Loader

namespace CommandLine

variable {snapshot : Snapshot} {files : Files (StateM σ)} {log : LogLine → StateM σ Unit}

def Surroundings.withFiles (s : Surroundings (StateM σ)) (snapshot : Snapshot) :
    Surroundings (StateM σ) :=
  { s with files := snapshot.reading s.files }

def atLeastOne (scenarios : List (Scenario (StateM σ))) :
    Except Failure (List (Scenario (StateM σ))) :=
  if scenarios.isEmpty then .error (.ofText "No scenarios found") else .ok scenarios

theorem always_withPresent (directories names : List String) :
    Always (withPresent (snapshot.loader files log directories) names)
      (snapshot.loader files log
        (directories ++ names.filter fun name => (snapshot.kind name).isSome)) := by
  induction names generalizing directories with
  | nil =>
    rw [List.filter_nil, List.append_nil]
    exact .pure _
  | cons name rest ih =>
    refine .bind (.pure (snapshot.kind name)) ?_
    rw [List.filter_cons]
    cases (snapshot.kind name).isSome with
    | true =>
      rw [if_pos rfl, if_pos rfl, List.append_cons]
      exact ih (directories ++ [name])
    | false => exact ih directories

theorem always_load (directories : List String) :
    Always (load (snapshot.loader files log directories) none)
      (.ok ((directories.flatMap snapshot.pathsIn).filterMap snapshot.scenario?)) := by
  refine .bind (.bind (Loader.always_loadFrom directories) ?_) (.pure _)
  exact .bind (.unit _) (.pure _)

/-- Without a path, every scenario file of `tests/scenarios` that can be loaded is loaded twice,
every one of `scenarios` once, and no other file is. -/
theorem loaded_twice_of_loadScenarios (snapshot : Snapshot) (s : Surroundings (StateM σ)) :
    ∃ paths : List String,
      Always (loadScenarios (s.withFiles snapshot) none)
        (atLeastOne (paths.filterMap snapshot.scenario?)) ∧
      (∀ path, snapshot.LiesIn "tests/scenarios" path → paths.count path = 2) ∧
      (∀ path, snapshot.LiesIn "scenarios" path → paths.count path = 1) ∧
      ∀ path ∈ paths,
        snapshot.LiesIn "tests/scenarios" path ∨ snapshot.LiesIn "scenarios" path := by
  -- The loader's own directory comes first, and then once more among the usual ones.
  refine ⟨("tests/scenarios" :: usualDirectories).flatMap snapshot.pathsIn, ?_, ?_, ?_, ?_⟩
  · refine .bind (always_withPresent ["tests/scenarios"] usualDirectories) ?_
    refine .bind (always_load _) ?_
    rw [List.singleton_append, List.flatMap_cons, Snapshot.flatMap_pathsIn_filter, List.flatMap_cons]
    generalize List.filterMap _ _ = scenarios
    cases scenarios with
    | nil => exact .pure _
    | cons first rest => exact .pure _
  · intro path hpath
    simp [usualDirectories, List.count_append, Snapshot.count_pathsIn_of_liesIn hpath,
      Snapshot.count_pathsIn_of_not_liesIn hpath.not_scenarios]
  · intro path hpath
    have hother : ¬ snapshot.LiesIn "tests/scenarios" path := fun h => h.not_scenarios hpath
    simp [usualDirectories, List.count_append, Snapshot.count_pathsIn_of_liesIn hpath,
      Snapshot.count_pathsIn_of_not_liesIn hother]
  · intro path hpath
    obtain ⟨directory, hdirectory, hin⟩ := List.mem_flatMap.1 hpath
    have hlies := Snapshot.mem_pathsIn.1 hin
    simp only [usualDirectories, List.mem_cons, List.not_mem_nil, or_false] at hdirectory
    rcases hdirectory with rfl | rfl | rfl
    · exact .inl hlies
    · exact .inl hlies
    · exact .inr hlies

namespace Sample

def tree : FileTree :=
  FileTree.empty.add "tests/scenarios/a.json"
    (some "\x7b\"name\":\"A\",\"steps\":[\x7b\"name\":\"wait\",\"type\":\"wait\"\x7d]\x7d")

def silent : Surroundings (StateM Unit) :=
  ⟨⟨fun _ => pure (.error ""), fun _ => pure (), fun _ => pure ()⟩,
    FileTree.access fun change => pure (change tree).1, pure, pure 0⟩

end Sample

theorem loaded_twice_of_sample_loadScenarios :
    ∃ paths : List String,
      Always (loadScenarios (Sample.silent.withFiles Sample.tree.snapshot) none)
        (atLeastOne (paths.filterMap Sample.tree.snapshot.scenario?)) ∧
      (Sample.tree.snapshot.scenario? "tests/scenarios/a.json" :
        Option (Scenario (StateM Unit))).isSome ∧
      paths.count "tests/scenarios/a.json" = 2 := by
  have hloads : (Sample.tree.snapshot.scenario? "tests/scenarios/a.json" :
      Option (Scenario (StateM Unit))).isSome := by decide +kernel
  have hlies : Sample.tree.snapshot.LiesIn "tests/scenarios" "tests/scenarios/a.json" := by
    have hnames : (Sample.tree.list "tests/scenarios").toOption = some ["a.json"] := by
      decide +kernel
    have hentries : Sample.tree.snapshot.entries "tests/scenarios" = .ok ["a.json"] := by
      change Sample.tree.list "tests/scenarios" = _
      cases hlist : Sample.tree.list "tests/scenarios" with
      | error error =>
        rw [hlist] at hnames
        cases hnames
      | ok names =>
        rw [hlist] at hnames
        exact congrArg Except.ok (Option.some.inj hnames)
    refine ⟨by decide +kernel, ⟨["a.json"], "a.json", hentries, List.mem_cons_self, ?_⟩, ?_⟩
    · decide +kernel
    · decide +kernel
  obtain ⟨paths, hloaded, htwice, -⟩ :=
    loaded_twice_of_loadScenarios Sample.tree.snapshot Sample.silent
  exact ⟨paths, hloaded, hloads, htwice _ hlies⟩

end CommandLine

end HttpScenario
