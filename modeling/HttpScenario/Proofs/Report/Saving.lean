import HttpScenario.Proofs.FileTree.Writing
import HttpScenario.Proofs.Number.Digits
import HttpScenario.Report.Reporters
import Mathlib.Data.List.Dedup
import Mathlib.Data.List.Forall2

/-! Reports saved in one directory, run after run. The name of a file comes from the name of the
scenario and the millisecond in which the report is saved, so that runs that end in the same
millisecond can have one file, in which the last of them is left. All others have files of their
own. -/

namespace HttpScenario

open FilePath

namespace Report

def IsGap (c : Char) : Prop := c = ' ' ∨ c = '/' ∨ c = '_'

instance (c : Char) : Decidable (IsGap c) := inferInstanceAs (Decidable (_ ∨ _))

/-- Names that differ at most in blanks, slashes and underscores. -/
def Alike (name other : String) : Prop :=
  List.Forall₂ (fun c d => c = d ∨ IsGap c ∧ IsGap d) name.toList other.toList

instance (name other : String) : Decidable (Alike name other) :=
  inferInstanceAs (Decidable (List.Forall₂ _ _ _))

def safe (c : Char) : Char := if c = ' ' ∨ c = '/' then '_' else c

theorem safe_eq_iff (c d : Char) : safe c = safe d ↔ c = d ∨ IsGap c ∧ IsGap d := by
  unfold safe IsGap
  split <;> split <;> grind

theorem safe_ne_slash (c : Char) : safe c ≠ '/' := by
  unfold safe
  split
  · decide
  · rename_i h
    exact fun hc => h (.inr hc)

theorem map_safe_eq_iff {name other : String} :
    name.toList.map safe = other.toList.map safe ↔ Alike name other := by
  rw [Alike, ← List.forall₂_eq_eq_eq, List.forall₂_map_left_iff, List.forall₂_map_right_iff]
  simp only [safe_eq_iff]

theorem toList_fileName (report : Report) (format : ReportFormat) (millis : Nat) :
    (report.fileName format millis).toList =
      (report.scenarioName.toList.map safe ++ '-' :: Nat.toDigits 10 millis) ++
        '.' :: format.extension.toList := by
  show (report.scenarioName.map safe ++ "-" ++ toString millis ++ "." ++ format.extension).toList =
    _
  simp [String.toList_append, String.toList_map]

theorem append_dash_inj {before after digits later : List Char} (hdigits : '-' ∉ digits)
    (hlater : '-' ∉ later) :
    before ++ '-' :: digits = after ++ '-' :: later ↔ before = after ∧ digits = later := by
  constructor
  · intro h
    rcases List.append_eq_append_iff.1 h with ⟨more, rfl, hmore⟩ | ⟨more, rfl, hmore⟩
    · cases more with
      | nil => simpa using hmore
      | cons c more =>
        obtain ⟨rfl, rfl⟩ := List.cons.inj hmore
        exact absurd (List.mem_append_right more List.mem_cons_self) hdigits
    · cases more with
      | nil => simpa using hmore.symm
      | cons c more =>
        obtain ⟨rfl, rfl⟩ := List.cons.inj hmore
        exact absurd (List.mem_append_right more List.mem_cons_self) hlater
  · rintro ⟨rfl, rfl⟩
    rfl

theorem not_mem_toDigits {c : Char} (hc : c.isDigit = false) (n : Nat) :
    c ∉ Nat.toDigits 10 n := by
  intro hmem
  rw [Integer.isDigit_of_mem_toDigits hmem] at hc
  cases hc

theorem isName_fileName (report : Report) (format : ReportFormat) (millis : Nat) :
    IsName (report.fileName format millis) := by
  have hdash : '-' ∈ (report.fileName format millis).toList := by
    rw [toList_fileName]
    simp
  have hne : ∀ name : String, '-' ∉ name.toList → report.fileName format millis ≠ name := by
    rintro name hname rfl
    exact hname hdash
  refine ⟨?_, hne _ (by decide), hne _ (by decide), hne _ (by decide)⟩
  have hextension : '/' ∉ format.extension.toList := by cases format <;> decide
  rw [toList_fileName]
  simp [safe_ne_slash, not_mem_toDigits, hextension]

/-- Two reports in one format have the same file if they are saved in the same millisecond and their
names are alike, and only then. -/
theorem fileName_eq_iff {report other : Report} {format : ReportFormat} {millis later : Nat} :
    report.fileName format millis = other.fileName format later ↔
      Alike report.scenarioName other.scenarioName ∧ millis = later := by
  rw [← String.toList_inj, toList_fileName, toList_fileName, List.append_cancel_right_eq,
    append_dash_inj (not_mem_toDigits (by decide) _) (not_mem_toDigits (by decide) _),
    map_safe_eq_iff]
  refine and_congr_right fun _ => ⟨fun hdigits => ?_, congrArg _⟩
  have hread := congrArg Integer.digitsValue? hdigits
  rw [Integer.digitsValue?_toDigits, Integer.digitsValue?_toDigits] at hread
  exact Option.some.inj hread

end Report

/-- A run that has ended: its report, and what the clock shows in milliseconds as that is saved. -/
structure Ended where
  report : Report
  millis : Nat

namespace Ended

variable (directory : String) (format : ReportFormat)

def name (run : Ended) : String := run.report.fileName format run.millis

def place (run : Ended) : List String := FileTree.place directory ++ [run.name format]

def save (run : Ended) : StateM FileTree (Except Failure Unit) :=
  Reporter.saving (FileTree.access modifyGet) (pure run.millis) (fun _ => pure ())
    directory format run.report

def saveAll (runs : List Ended) : StateM FileTree (List (Except Failure Unit)) :=
  runs.mapM (save directory format)

def latest? (runs : List Ended) (location : List String) : Option Ended :=
  (runs.filter fun run => location = run.place directory format).getLast?

/-- Two runs that end in the same millisecond, with names that are alike. -/
def Coincide (run other : Ended) : Prop :=
  Report.Alike run.report.scenarioName other.report.scenarioName ∧ run.millis = other.millis

instance (run other : Ended) : Decidable (Coincide run other) :=
  inferInstanceAs (Decidable (_ ∧ _))

variable {directory format} {run : Ended} {runs : List Ended} {tree : FileTree}

theorem isName_name (run : Ended) (format : ReportFormat) : IsName (run.name format) :=
  run.report.isName_fileName format run.millis

theorem run_save (run : Ended) (tree : FileTree) :
    (run.save directory format).run tree =
      match tree.makeDirectory directory with
      | .error error => (.error (.ofText error.message), tree)
      | .ok made =>
        match made.write (join directory (run.name format)) (run.report.content format) with
        | .error error => (.error (.ofText error.message), made)
        | .ok changed => (.ok (), changed) := by
  simp only [save, Reporter.saving, Reporter.save, FileTree.access, FileTree.step, name, pure_bind,
    bind_assoc, StateT.run_bind, StateT.run_modifyGet]
  cases tree.makeDirectory directory with
  | error error => rfl
  | ok made =>
    simp only [FileTree.step, pure_bind, StateT.run_bind, StateT.run_modifyGet]
    cases made.write (join directory (run.report.fileName format run.millis))
      (run.report.content format) <;> rfl

theorem save_eq_ok (h : ((run.save directory format).run tree).1 = .ok ()) :
    ∃ made, tree.makeDirectory directory = .ok made ∧
      made.write (join directory (run.name format)) (run.report.content format) =
        .ok ((run.save directory format).run tree).2 := by
  rw [run_save] at h ⊢
  split at h
  · cases h
  · rename_i made hmade
    refine ⟨made, hmade, ?_⟩
    split at h
    · cases h
    · assumption

theorem lookup_save (h : ((run.save directory format).run tree).1 = .ok ())
    (location : List String) :
    ((run.save directory format).run tree).2.files.lookup location =
      if location = run.place directory format then
        some (some (run.report.content format)) else tree.files.lookup location := by
  obtain ⟨made, hmade, hwritten⟩ := save_eq_ok h
  rw [FileTree.lookup_write hwritten, FileTree.place_join (isName_name run format),
    FileTree.lookup_makeDirectory hmade]
  rfl

theorem mem_names_save (h : ((run.save directory format).run tree).1 = .ok ()) {name : String} :
    name ∈ ((run.save directory format).run tree).2.names (FileTree.place directory) ↔
      name ∈ tree.names (FileTree.place directory) ∨ name = run.name format := by
  obtain ⟨made, hmade, hwritten⟩ := save_eq_ok h
  rw [FileTree.mem_names_write (isName_name run format) hwritten,
    FileTree.mem_names_makeDirectory hmade]

theorem run_saveAll_cons (run : Ended) (rest : List Ended) (tree : FileTree) :
    (saveAll directory format (run :: rest)).run tree =
      let first := (run.save directory format).run tree
      let others := (saveAll directory format rest).run first.2
      (first.1 :: others.1, others.2) := by
  simp only [saveAll, List.mapM_cons, StateT.run_bind, StateT.run_pure]
  rfl

theorem latest?_cons (run : Ended) (rest : List Ended) (location : List String) :
    latest? directory format (run :: rest) location =
      (latest? directory format rest location).or
        (if location = run.place directory format then some run else none) := by
  unfold latest?
  by_cases h : location = run.place directory format
  · rw [List.filter_cons_of_pos (by simpa using h), if_pos h, List.getLast?_cons, Option.or_some]
  · rw [List.filter_cons_of_neg (by simpa using h), if_neg h, Option.or_none]

def Saves (directory : String) (format : ReportFormat) (runs : List Ended) (tree : FileTree) :
    Prop :=
  ∀ outcome ∈ ((saveAll directory format runs).run tree).1, outcome = .ok ()

theorem saves_cons {rest : List Ended} (h : Saves directory format (run :: rest) tree) :
    ((run.save directory format).run tree).1 = .ok () ∧
      Saves directory format rest ((run.save directory format).run tree).2 := by
  rw [Saves, run_saveAll_cons] at h
  exact List.forall_mem_cons.1 h

theorem lookup_saveAll (h : Saves directory format runs tree) (location : List String) :
    ((saveAll directory format runs).run tree).2.files.lookup location =
      ((latest? directory format runs location).map fun run =>
        some (run.report.content format)).or (tree.files.lookup location) := by
  induction runs generalizing tree with
  | nil => rfl
  | cons run rest ih =>
    obtain ⟨hfirst, hrest⟩ := saves_cons h
    rw [run_saveAll_cons, ih hrest, lookup_save hfirst, latest?_cons]
    cases latest? directory format rest location with
    | some other => rfl
    | none =>
      rw [Option.none_or]
      split <;> rfl

theorem mem_names_saveAll (h : Saves directory format runs tree) {name : String} :
    name ∈ ((saveAll directory format runs).run tree).2.names (FileTree.place directory) ↔
      name ∈ tree.names (FileTree.place directory) ∨ name ∈ runs.map (Ended.name format) := by
  induction runs generalizing tree with
  | nil =>
    rw [List.map_nil]
    exact (or_iff_left List.not_mem_nil).symm
  | cons run rest ih =>
    obtain ⟨hfirst, hrest⟩ := saves_cons h
    rw [run_saveAll_cons, ih hrest, mem_names_save hfirst, List.map_cons, List.mem_cons, or_assoc]

theorem name_eq_iff {run other : Ended} :
    run.name format = other.name format ↔ Coincide run other :=
  Report.fileName_eq_iff

theorem nodup_map_name : (runs.map (name format)).Nodup ↔
    runs.Pairwise fun run other => ¬Coincide run other := by
  rw [List.Nodup, List.pairwise_map]
  simp only [ne_eq, name_eq_iff]

theorem place_eq_iff {run other : Ended} :
    run.place directory format = other.place directory format ↔
      run.name format = other.name format := by
  rw [place, place, List.append_cancel_left_eq, List.cons.injEq, and_iff_left rfl]

theorem saves_of_find (hfind : tree.find directory = .ok .directory)
    (hfree : ∀ run ∈ runs, tree.isDirectory (run.place directory format) = false) :
    Saves directory format runs tree := by
  induction runs generalizing tree with
  | nil => exact fun outcome h => absurd h List.not_mem_nil
  | cons run rest ih =>
    obtain ⟨hrun, hrest⟩ := List.forall_mem_cons.1 hfree
    obtain ⟨changed, hwritten, hstill⟩ := FileTree.exists_write (isName_name run format) hfind hrun
      (run.report.content format)
    have hsaved : (run.save directory format).run tree = (.ok (), changed) := by
      rw [run_save, FileTree.makeDirectory_of_find hfind]
      simp only [hwritten]
    have hothers : ∀ other ∈ rest, changed.isDirectory (other.place directory format) = false := by
      intro other hother
      rw [Bool.eq_false_iff, Ne, FileTree.isDirectory_write hwritten, hrest other hother,
        FileTree.place_join (isName_name run format)]
      simp [place]
    rw [Saves, run_saveAll_cons, hsaved]
    exact List.forall_mem_cons.2 ⟨rfl, ih hstill hothers⟩

theorem length_eq_add_iff {kept before added : List String} (hkept : kept.Nodup)
    (hbefore : before.Nodup) (hmem : ∀ name, name ∈ kept ↔ name ∈ before ∨ name ∈ added) :
    kept.length = before.length + added.length ↔
      added.Nodup ∧ ∀ name ∈ added, name ∉ before := by
  have hperm : kept.Perm (before ++ added).dedup :=
    (List.perm_ext_iff_of_nodup hkept (List.nodup_dedup _)).2 fun name => by simp [hmem]
  have hlength : (before ++ added).dedup.length = (before ++ added).length ↔
      (before ++ added).Nodup :=
    ⟨fun h => List.dedup_eq_self.1 ((List.dedup_sublist _).eq_of_length h),
      fun h => by rw [h.dedup]⟩
  rw [hperm.length_eq, ← List.length_append, hlength, List.nodup_append', and_iff_right hbefore]
  exact and_congr_right fun _ => List.disjoint_right

end Ended

open Ended

/-- Saving goes well wherever the directory is there and no directory has the name of a file. If it
does each time, a file holds what was saved there last, and one in which nothing was saved is as it
was. Two runs have the same file exactly if they end in the same millisecond and their names differ
at most in blanks, slashes and underscores. So there is one file more for each run exactly if no two
runs coincide in this way and none of their files was there before. -/
theorem files_of_saved_reports (directory : String) (format : ReportFormat) (runs : List Ended)
    (tree : FileTree) :
    (tree.find directory = .ok .directory →
      (∀ run ∈ runs, tree.isDirectory (run.place directory format) = false) →
      Saves directory format runs tree) ∧
    (Saves directory format runs tree →
      let after := ((saveAll directory format runs).run tree).2
      let folder := FileTree.place directory
      (∀ location, after.files.lookup location =
        ((latest? directory format runs location).map fun run =>
          some (run.report.content format)).or (tree.files.lookup location)) ∧
      (∀ run other : Ended, run.place directory format = other.place directory format ↔
        Coincide run other) ∧
      (∀ name, name ∈ after.names folder ↔
        name ∈ tree.names folder ∨ ∃ run ∈ runs, run.name format = name) ∧
      ((after.names folder).length = (tree.names folder).length + runs.length ↔
        (runs.Pairwise fun run other => ¬Coincide run other) ∧
        ∀ run ∈ runs, run.name format ∉ tree.names folder)) := by
  refine ⟨saves_of_find, fun hsaves => ?_⟩
  intro after folder
  refine ⟨lookup_saveAll hsaves, fun run other => ?_, fun name => ?_, ?_⟩
  · rw [place_eq_iff, name_eq_iff]
  · rw [mem_names_saveAll hsaves, List.mem_map]
  · have hcount := length_eq_add_iff (FileTree.nodup_names after folder)
      (FileTree.nodup_names tree folder) fun name => mem_names_saveAll hsaves
    rw [List.length_map, nodup_map_name] at hcount
    simp only [List.forall_mem_map] at hcount
    exact hcount

namespace Sample

def tree : FileTree := FileTree.empty.add "reports/" none

def ended (name : String) : Ended := ⟨⟨name, true, none, [], [], "", .ofResults [], 0⟩, 5⟩

def runs : List Ended := [ended "a b", ended "a/b"]

end Sample

theorem files_of_sample_reports :
    Sample.tree.find "reports" = .ok .directory ∧
    Saves "reports" .text Sample.runs Sample.tree ∧
    Coincide (Sample.ended "a b") (Sample.ended "a/b") ∧
    ((saveAll "reports" .text Sample.runs).run Sample.tree).2.files.lookup
      ((Sample.ended "a b").place "reports" .text) =
      some (some ((Sample.ended "a/b").report.content .text)) ∧
    (((saveAll "reports" .text Sample.runs).run Sample.tree).2.names ["reports"]).length ≠
      Sample.runs.length := by
  have hfind : Sample.tree.find "reports" = .ok .directory := by decide +kernel
  have hfree : ∀ run ∈ Sample.runs,
      Sample.tree.isDirectory (run.place "reports" .text) = false := by decide +kernel
  have hcoincide : Coincide (Sample.ended "a b") (Sample.ended "a/b") := by decide
  obtain ⟨hsaved, hafter⟩ := files_of_saved_reports "reports" .text Sample.runs Sample.tree
  have hsaves := hsaved hfind hfree
  obtain ⟨hlookup, hshared, -, hcount⟩ := hafter hsaves
  refine ⟨hfind, hsaves, hcoincide, ?_, ?_⟩
  · have hplace := Eq.refl ((Sample.ended "a/b").place "reports" .text)
    rw [(hshared _ _).2 hcoincide, hlookup, Sample.runs, latest?_cons, latest?_cons, if_pos hplace]
    rfl
  · have hfolder : FileTree.place "reports" = ["reports"] := by decide +kernel
    have hempty : Sample.tree.names ["reports"] = [] := by decide +kernel
    rw [hfolder, hempty, List.length_nil, Nat.zero_add] at hcount
    intro hlength
    have hall := (hcount.1 hlength).1
    exact List.rel_of_pairwise_cons hall List.mem_cons_self hcoincide

end HttpScenario
