import Mathlib.Algebra.Ring.Int.Defs
import RepoSurvey.Proofs.Overview.Folders

/-!
# The folders of an overview divide the files

Every file lies in one folder, its own, as it was surveyed and with the findings that
name it. `Partition` says this of a whole overview: folders and the files in them come
in increasing order, none is missing and none is there twice, the sums are those of the
files, and of the findings those of surveyed files lie in the folders, each once.

Findings of other files lie nowhere, so what is conserved is the findings of the files
that there are (`perm_flatMap_filter_file`).
-/

namespace RepoSurvey.Overview

/-! ## What a partition is -/

/-- The file at a path as it was surveyed, with the findings that name the path, in the order
in which they were given. -/
structure Reports (files : Table SurveyedFile) (all : Findings) (path : String)
    (report : FileReport) : Prop where
  analysis : ∃ file, (path, file) ∈ files ∧ report.analysis = file.analysis
  endpoints : report.findings.endpoints = all.endpoints.filter fun e => e.file = path
  states : report.findings.states = all.states.filter fun s => s.file = path
  events : report.findings.events = all.events.filter fun e => e.file = path

/-- The files that lie in a folder, at least one, in increasing order of path. -/
def Holds (files : Table SurveyedFile) (all : Findings) (folder : String)
    (reports : List FileReport) : Prop :=
  ∃ paths : List String, paths ≠ [] ∧ paths.Pairwise (· < ·) ∧
    (∀ path, path ∈ paths ↔ path ∈ files.keys ∧ folderOf path = folder) ∧
    List.Forall₂ (Reports files all) paths reports

/-- The overview divides the files among folders, and the findings of these files among them. -/
structure Partition (files : Table SurveyedFile) (all : Findings) (o : Overview) : Prop where
  increasing : o.folders.keys.Pairwise (· < ·)
  holds : ∀ entry ∈ o.folders, Holds files all entry.1 entry.2
  complete : ∀ path ∈ files.keys, folderOf path ∈ o.folders.keys
  endpoints : (o.reports.flatMap fun report => report.findings.endpoints).Perm
    (all.endpoints.filter fun e => e.file ∈ files.keys)
  states : (o.reports.flatMap fun report => report.findings.states).Perm
    (all.states.filter fun s => s.file ∈ files.keys)
  events : (o.reports.flatMap fun report => report.findings.events).Perm
    (all.events.filter fun e => e.file ∈ files.keys)
  totalFiles : o.summary.totalFiles = files.length
  sizes : (o.folders.map fun entry => entry.2.length).sum = files.length
  totalLines : o.summary.totalLines =
    (files.map fun entry => entry.2.analysis.lines.getD 0).sum
  languages : o.summary.languages.values.sum =
    files.countP fun entry => entry.2.analysis.language ≠ ""
  extensions : o.summary.extensions.values.sum =
    files.countP fun entry => extensionOf entry.1 ≠ ""

/-! ## Folders -/

section

variable {reports : Table FileReport} {folder : String}

/-- The paths of the files in a folder, in increasing order. -/
def pathsIn (reports : Table FileReport) (folder : String) : List String :=
  (Table.sorted (reports.filter fun (path, _) => folderOf path == folder)).keys

theorem keys_byFolder (reports : Table FileReport) : (byFolder reports).keys =
    (distinct (reports.map fun (path, _) => folderOf path)).mergeSort
      fun a b => decide (a ≤ b) := by
  rw [byFolder, Table.keys, List.map_map]
  exact List.map_id _

theorem mem_keys_byFolder :
    folder ∈ (byFolder reports).keys ↔ ∃ path ∈ reports.keys, folderOf path = folder := by
  rw [keys_byFolder, List.mem_mergeSort, mem_distinct, List.mem_map]
  constructor
  · rintro ⟨entry, mem, rfl⟩
    exact ⟨entry.1, List.mem_map.mpr ⟨entry, mem, rfl⟩, rfl⟩
  · rintro ⟨path, mem, rfl⟩
    obtain ⟨entry, there, rfl⟩ := List.mem_map.mp mem
    exact ⟨entry, there, rfl⟩

theorem increasing_byFolder (reports : Table FileReport) :
    (byFolder reports).keys.Pairwise (· < ·) := by
  rw [keys_byFolder]
  exact pairwise_lt_mergeSort_labels (nodup_distinct _)

theorem eq_of_mem_byFolder {entry : String × List FileReport} (mem : entry ∈ byFolder reports) :
    entry.2 = filesIn reports entry.1 := by
  obtain ⟨folder, -, rfl⟩ := List.mem_map.mp mem
  rfl

theorem mem_pathsIn {path : String} :
    path ∈ pathsIn reports folder ↔ path ∈ reports.keys ∧ folderOf path = folder := by
  rw [pathsIn, Table.sorted, Table.keys, ((List.mergeSort_perm _ _).map _).mem_iff, Table.keys]
  simp only [List.mem_map, List.mem_filter, beq_iff_eq]
  constructor
  · rintro ⟨entry, ⟨mem, inside⟩, rfl⟩
    exact ⟨⟨entry, mem, rfl⟩, inside⟩
  · rintro ⟨⟨entry, mem, rfl⟩, inside⟩
    exact ⟨entry, ⟨mem, inside⟩, rfl⟩

theorem increasing_pathsIn (different : reports.keys.Nodup) (folder : String) :
    (pathsIn reports folder).Pairwise (· < ·) :=
  List.pairwise_map.mpr
    (pairwise_lt_mergeSort orders_sorted (different.sublist (List.filter_sublist.map _)))

/-- The files in a folder are those of its paths. -/
theorem forall₂_filesIn {good : String → FileReport → Prop}
    (each : ∀ entry ∈ reports, good entry.1 entry.2) (folder : String) :
    List.Forall₂ good (pathsIn reports folder) (filesIn reports folder) := by
  refine List.forall₂_map_left_iff.mpr (List.forall₂_map_right_iff.mpr ?_)
  refine List.forall₂_same.mpr fun entry mem => ?_
  exact each entry (List.mem_filter.mp (List.mem_mergeSort.mp mem)).1

end

/-! ## Findings -/

/-- The findings of all files, file by file, are those that name one of the files. -/
theorem perm_flatMap_filter_file {α : Type} (file : α → String) {paths : List String}
    (different : paths.Nodup) (found : List α) :
    (paths.flatMap fun path => found.filter fun x => file x == path).Perm
      (found.filter fun x => file x ∈ paths) := by
  have known : ∀ x ∈ found.filter (fun x => file x ∈ paths), file x ∈ paths :=
    fun x mem => of_decide_eq_true (List.mem_filter.mp mem).2
  refine .trans (.of_eq ?_) (perm_flatMap_withKey different known)
  refine List.flatMap_congr fun path mem => ?_
  rw [filter_beq_eq_withKey, withKey, withKey, List.filter_filter]
  refine List.filter_congr fun x _ => ?_
  by_cases of_path : file x = path
  · rw [decide_eq_true of_path, decide_eq_true (of_path ▸ mem), Bool.and_self]
  · rw [decide_eq_false of_path, Bool.false_and]

section

variable {files : Table SurveyedFile} {frameworks : List (FrameworkDetection Float)}
variable {settings : AggregationSettings} {repository : String} {all : Findings}

/-- What lies in the folders of one kind are the findings of that kind that name a file. -/
theorem perm_findings_ofSurvey {α : Type} {list : Findings → List α} {file : α → String}
    (different : files.keys.Nodup)
    (own : ∀ path, list (findingsIn all path) = (list all).filter fun x => file x == path) :
    ((ofSurvey settings repository files frameworks all).reports.flatMap
      fun report => list report.findings).Perm
        ((list all).filter fun x => file x ∈ files.keys) := by
  refine (perm_reports_ofSurvey.flatMap_right _).trans ?_
  rw [List.flatMap_map]
  have each : ((corpusOf files).flatMap fun entry => list (findingsIn all entry.1)) =
      files.keys.flatMap fun path => (list all).filter fun x => file x == path := by
    rw [← keys_corpusOf, Table.keys, List.flatMap_map]
    exact List.flatMap_congr fun entry _ => own entry.1
  exact (List.Perm.of_eq each).trans (perm_flatMap_filter_file file different (list all))

/-! ## Files -/

/-- The files of an overview, by path. -/
def reportTable (files : Table SurveyedFile) (all : Findings) : Table FileReport :=
  (corpusOf files).map fun (path, a) => (path, ⟨a, findingsIn all path⟩)

theorem keys_reportTable (files : Table SurveyedFile) (all : Findings) :
    (reportTable files all).keys = files.keys := by
  rw [reportTable, Table.keys_map, keys_corpusOf]
  exact fun _ => rfl

theorem folders_ofSurvey : (ofSurvey settings repository files frameworks all).folders =
    byFolder (reportTable files all) :=
  rfl

theorem reports_of_mem_reportTable :
    ∀ entry ∈ reportTable files all, Reports files all entry.1 entry.2 := by
  intro entry mem
  obtain ⟨⟨path, a⟩, there, rfl⟩ := List.mem_map.mp mem
  obtain ⟨⟨path', file⟩, surveyed, same⟩ := List.mem_map.mp there
  obtain ⟨rfl, rfl⟩ := Prod.mk.inj same
  exact {
    analysis := ⟨file, surveyed, rfl⟩
    endpoints := List.filter_congr fun e _ => beq_eq_decide _ _
    states := List.filter_congr fun s _ => beq_eq_decide _ _
    events := List.filter_congr fun e _ => beq_eq_decide _ _ }

theorem holds_of_mem_folders (different : files.keys.Nodup) {entry : String × List FileReport}
    (mem : entry ∈ byFolder (reportTable files all)) : Holds files all entry.1 entry.2 := by
  have known : entry.1 ∈ (byFolder (reportTable files all)).keys :=
    List.mem_map.mpr ⟨entry, mem, rfl⟩
  obtain ⟨path, there, inside⟩ := mem_keys_byFolder.mp known
  refine ⟨pathsIn (reportTable files all) entry.1, ?_, ?_, fun path => ?_, ?_⟩
  · exact List.ne_nil_of_mem (mem_pathsIn.mpr ⟨there, inside⟩)
  · exact increasing_pathsIn (by rwa [keys_reportTable]) entry.1
  · rw [mem_pathsIn, keys_reportTable]
  · rw [eq_of_mem_byFolder mem]
    exact forall₂_filesIn reports_of_mem_reportTable entry.1

/-! ## Sums -/

theorem sum_length_byFolder (reports : Table FileReport) :
    ((byFolder reports).map fun entry => entry.2.length).sum = reports.length := by
  rw [← List.length_flatMap, (perm_byFolder reports).length_eq, Table.values, List.length_map]

/-- The counts of the labels that are not empty are together the number of these. -/
theorem sum_values_tallyPresent {α : Type} (label : α → String) (l : List α) :
    (tallyPresent (l.map label)).values.sum = l.countP fun a => label a ≠ "" := by
  rw [tallyPresent, Table.sum_values_tally, ← List.countP_eq_length_filter, List.countP_map]
  refine List.countP_congr fun a _ => ?_
  rw [Function.comp_apply, Bool.not_eq_true', String.isEmpty_eq_false_iff, decide_eq_true_iff]

theorem totalLines_summarize (corpus : Corpus) : (summarize corpus frameworks).totalLines =
    (corpus.map fun (_, a) => a.lines.getD 0).sum := by
  rw [List.sum_eq_foldr, List.foldr_map]
  rfl

end

/-- An overview of surveyed files divides them, if no path is there twice. -/
theorem partition_ofSurvey (settings : AggregationSettings) (repository : String)
    (files : Table SurveyedFile) (frameworks : List (FrameworkDetection Float)) (all : Findings)
    (different : files.keys.Nodup) :
    Partition files all (ofSurvey settings repository files frameworks all) where
  increasing := increasing_byFolder (reportTable files all)
  holds := fun _ => holds_of_mem_folders different
  complete := by
    intro path mem
    rw [folders_ofSurvey, mem_keys_byFolder, keys_reportTable]
    exact ⟨path, mem, rfl⟩
  endpoints := perm_findings_ofSurvey different fun _ => rfl
  states := perm_findings_ofSurvey different fun _ => rfl
  events := perm_findings_ofSurvey different fun _ => rfl
  totalFiles := List.length_map _
  sizes := by
    rw [folders_ofSurvey, sum_length_byFolder, reportTable, List.length_map, corpusOf,
      Table.mapValues, List.length_map]
  totalLines := by
    refine (totalLines_summarize _).trans ?_
    rw [corpusOf, Table.mapValues, List.map_map]
    rfl
  languages := by
    refine (sum_values_tallyPresent (fun entry => entry.2.language) (corpusOf files)).trans ?_
    rw [corpusOf, Table.mapValues, List.countP_map]
    rfl
  extensions := by
    show (tallyPresent ((corpusOf files).keys.map extensionOf)).values.sum = _
    rw [keys_corpusOf, Table.keys, List.map_map, sum_values_tallyPresent]
    simp only [Function.comp_apply]

/-- A script in a folder, and a file that could not be analysed. -/
def scriptAndFailure : Table SurveyedFile := [
  ("src/b.js", {
    analysis := { path := "src/b.js", language := "javascript", lines := some 2 }
    tier := .regex
    language := "javascript" }),
  ("a.py", .failed "a.py" "Analysis failed: broken detector")]

/-- An event in the script, and one in a file that was not surveyed. -/
def eventsHereAndElsewhere : Findings where
  events := [
    { kind := "listener", framework := "DOM", file := "src/b.js", line := 2, event := "click" },
    { kind := "listener", framework := "DOM", file := "c.js", line := 1, event := "click" }]

theorem partition_ofSurvey_of_script :
    scriptAndFailure.keys.Nodup ∧
      Partition scriptAndFailure eventsHereAndElsewhere
        (ofSurvey {} "." scriptAndFailure [] eventsHereAndElsewhere) := by
  have different : scriptAndFailure.keys.Nodup := by decide
  exact ⟨different,
    partition_ofSurvey {} "." scriptAndFailure [] eventsHereAndElsewhere different⟩

/-- A file that could not be analysed counts as one of an unknown language. -/
example : (ofSurvey {} "." scriptAndFailure [] eventsHereAndElsewhere).summary.languages =
    [("javascript", 1), ("unknown", 1)] := by
  decide

end RepoSurvey.Overview
