import Mathlib.Data.List.Perm.Basic
import RepoSurvey.Proofs.Detection.Corpora
import RepoSurvey.Proofs.Overview.Reordering

/-!
# What lies in the folders

The folders of an overview hold every file once (`perm_reports_ofSurvey`), and
with each file the findings that name it. So the findings that lie in the
folders, taken file by file in order of path, are the findings that the
overview was made from (`attached_ofSurvey`): none is lost, and none is there
twice.
-/

namespace RepoSurvey.Overview

/-! ## Files -/

/-- The files in all folders. -/
def reports (o : Overview) : List FileReport :=
  o.folders.flatMap fun (_, files) => files

/-- What of one kind lies in the folders, file by file in order of path. -/
def attached {α : Type} (o : Overview) (list : Findings → List α) : List α :=
  (o.reports.mergeSort fun f g => decide (f.analysis.path ≤ g.analysis.path)).flatMap
    fun f => list f.findings

@[simp] theorem attached_empty {α : Type} (repository : String) (error : Option String)
    (list : Findings → List α) : (empty repository error).attached list = [] := by
  simp only [attached, reports, empty, List.flatMap_nil, List.mergeSort_nil]

theorem paths_eq (o : Overview) : o.paths = o.reports.map fun f => f.analysis.path := by
  rw [paths, reports, List.map_flatMap]

/-- The files by folder, each with its path. -/
def shelves (files : Table FileReport) : Table (Table FileReport) :=
  let folders := (distinct (files.map fun (path, _) => folderOf path)).mergeSort
    fun a b => decide (a ≤ b)
  folders.map fun folder =>
    (folder, Table.sorted (files.filter fun (path, _) => folderOf path == folder))

theorem byFolder_eq (files : Table FileReport) :
    byFolder files = (shelves files).mapValues Table.values := by
  rw [shelves, Table.mapValues, List.map_map]
  rfl

/-- Sorting files onto shelves loses none and repeats none. -/
theorem perm_shelves (files : Table FileReport) : ((shelves files).flatMap (·.2)).Perm files := by
  rw [shelves, List.flatMap_map]
  generalize sorted : (distinct (files.map fun entry => folderOf entry.1)).mergeSort
    (fun a b => decide (a ≤ b)) = folders
  have known : ∀ folder, folder ∈ folders ↔ ∃ entry ∈ files, folderOf entry.1 = folder := by
    intro folder
    rw [← sorted, List.mem_mergeSort, mem_distinct, List.mem_map]
  have different : folders.Nodup := by
    rw [← sorted, (List.mergeSort_perm _ _).nodup_iff]
    exact nodup_distinct _
  refine .trans (List.Perm.flatMap_left folders fun folder _ => ?_)
    (perm_flatMap_withKey different fun entry mem => (known _).mpr ⟨entry, mem, rfl⟩)
  rw [← filter_beq_eq_withKey, Table.sorted]
  exact List.mergeSort_perm _ _

/-- Sorting files into folders loses none and repeats none. -/
theorem perm_byFolder (files : Table FileReport) :
    ((byFolder files).flatMap fun (_, files) => files).Perm files.values := by
  have moved : ((byFolder files).flatMap fun (_, files) => files) =
      ((shelves files).flatMap (·.2)).map (·.2) := by
    rw [byFolder_eq, Table.mapValues, List.flatMap_map, List.map_flatMap]
    rfl
  rw [moved]
  exact (perm_shelves files).map _

section

variable {surveyed : Table SurveyedFile} {frameworks : List (FrameworkDetection Float)}
variable {settings : AggregationSettings} {repository : String} {all : Findings}

/-- The files in the folders of an overview are the surveyed ones. -/
theorem perm_reports_ofSurvey :
    (ofSurvey settings repository surveyed frameworks all).reports.Perm
      ((corpusOf surveyed).map fun (path, a) => ⟨a, findingsIn all path⟩) := by
  have files := perm_byFolder
    ((corpusOf surveyed).map fun (path, a) => (path, ⟨a, findingsIn all path⟩))
  rwa [Table.values, List.map_map] at files

/-- Where analyses carry the paths of their files, each file has its findings. -/
theorem findings_of_mem_reports (named : ∀ entry ∈ corpusOf surveyed, entry.2.path = entry.1)
    {f : FileReport} (mem : f ∈ (ofSurvey settings repository surveyed frameworks all).reports) :
    f.findings = findingsIn all f.analysis.path := by
  obtain ⟨⟨path, a⟩, there, rfl⟩ := List.mem_map.mp (perm_reports_ofSurvey.mem_iff.mp mem)
  rw [named _ there]

theorem perm_paths_ofSurvey (named : ∀ entry ∈ corpusOf surveyed, entry.2.path = entry.1) :
    (ofSurvey settings repository surveyed frameworks all).paths.Perm (corpusOf surveyed).keys := by
  rw [paths_eq]
  refine (perm_reports_ofSurvey.map _).trans (.of_eq ?_)
  rw [List.map_map]
  exact List.map_congr_left named

/-- The findings in the folders are all findings, when these come file by file. -/
theorem attached_ofSurvey {α : Type} {list : Findings → List α} {file : α → String}
    (named : ∀ entry ∈ corpusOf surveyed, entry.2.path = entry.1)
    (distinct : (corpusOf surveyed).keys.Nodup)
    (own : ∀ path, list (findingsIn all path) = (list all).filter fun x => file x == path)
    (whole : (((corpusOf surveyed).keys.mergeSort fun a b => decide (a ≤ b)).flatMap fun path =>
      (list all).filter fun x => file x == path) = list all) :
    (ofSurvey settings repository surveyed frameworks all).attached list = list all := by
  generalize made : ofSurvey settings repository surveyed frameworks all = o
  have findings : ∀ f ∈ o.reports, list f.findings =
      (list all).filter fun x => file x == f.analysis.path := by
    intro f mem
    rw [← made] at mem
    rw [findings_of_mem_reports named mem, own]
  -- sorted by path, the files in the folders have the sorted paths of the corpus
  have paths : (o.reports.mergeSort fun f g => decide (f.analysis.path ≤ g.analysis.path)).map
      (fun f => f.analysis.path) =
        (corpusOf surveyed).keys.mergeSort fun a b => decide (a ≤ b) := by
    have perm : (o.reports.map fun f => f.analysis.path).Perm (corpusOf surveyed).keys := by
      rw [← paths_eq, ← made]
      exact perm_paths_ofSurvey named
    rw [List.map_mergeSort (s := fun a b => decide (a ≤ b)) fun _ _ _ _ => rfl]
    refine mergeSort_eq_of_perm orders_labels perm ?_
    rw [List.map_id, perm.nodup_iff]
    exact distinct
  rw [attached, ← whole, ← paths, List.flatMap_map]
  exact List.flatMap_congr fun f mem => findings f (List.mem_mergeSort.mp mem)

end

end RepoSurvey.Overview
