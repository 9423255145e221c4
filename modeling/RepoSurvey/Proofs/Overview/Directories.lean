import RepoSurvey.Proofs.Overview.Partition

/-!
# Folders and directories

The folders of an overview are the directories of its files, save that the files
that lie in no directory have a folder with a name. A directory can have that
name too, and then its files are in one folder with those that lie in none.
These two are the only directories that share a folder (`folderOf_eq_iff`).

A folder lists what was found out about its files and not their paths, so what
it is for a file to be in a folder is said of the folders with the paths put
back (`Shelving`).
-/

namespace RepoSurvey.Overview

/-- The directory of a path; backslashes count as slashes. It is empty for a file that lies in
no directory. -/
def directoryOf (path : String) : String :=
  Path.directory (Text.replace '\\' "/" path)

/-- The shelves are the folders of the overview, with its path at every file. -/
structure Shelving (files : Table SurveyedFile) (all : Findings) (o : Overview)
    (shelves : Table (Table FileReport)) : Prop where
  /-- No two folders have the same name. -/
  different : shelves.keys.Nodup
  /-- The folders list what stands on the shelves, in the same order. -/
  folders : o.folders = shelves.mapValues Table.values
  /-- Every file stands on the shelves, once, with its analysis and its findings. -/
  complete : (shelves.flatMap (·.2)).Perm (reportTable files all)

/-! ## Files in one folder -/

section

variable {path other : String}

theorem folderOf_eq_ite (path : String) :
    folderOf path = if directoryOf path = "" then rootFolder else directoryOf path := by
  rw [folderOf, directoryOf]
  simp only [String.isEmpty_iff]

/-- Files are in one folder if they lie in the same directory, or one in none and the other in a
directory with the name of the folder for these. -/
theorem folderOf_eq_iff : folderOf path = folderOf other ↔
    directoryOf path = directoryOf other ∨
      (directoryOf path = "" ∧ directoryOf other = rootFolder) ∨
      (directoryOf path = rootFolder ∧ directoryOf other = "") := by
  have named : rootFolder ≠ "" := by decide
  rw [folderOf_eq_ite, folderOf_eq_ite]
  by_cases bare : directoryOf path = ""
  · by_cases bare' : directoryOf other = ""
    · simp [bare, bare']
    · simp [bare, bare', eq_comm, named]
  · by_cases bare' : directoryOf other = ""
    · simp [bare, bare']
    · simp [bare, bare']

end

section

variable {reports : Table FileReport} {path other : String}

theorem keys_shelves (reports : Table FileReport) :
    (shelves reports).keys = (byFolder reports).keys := by
  rw [byFolder_eq, Table.mapValues, Table.keys, Table.keys, List.map_map]
  rfl

/-- The shelf of a folder holds the files that have this folder. -/
theorem keys_of_mem_shelves {shelf : String × Table FileReport} (mem : shelf ∈ shelves reports) :
    shelf.2.keys = pathsIn reports shelf.1 := by
  obtain ⟨folder, -, rfl⟩ := List.mem_map.mp mem
  rfl

theorem exists_shelf_iff (there : path ∈ reports.keys) (there' : other ∈ reports.keys) :
    (∃ shelf ∈ shelves reports, path ∈ shelf.2.keys ∧ other ∈ shelf.2.keys) ↔
      folderOf path = folderOf other := by
  constructor
  · rintro ⟨shelf, mem, inside, inside'⟩
    rw [keys_of_mem_shelves mem] at inside inside'
    exact (mem_pathsIn.mp inside).2.trans (mem_pathsIn.mp inside').2.symm
  · intro same
    have known : folderOf path ∈ (shelves reports).keys := by
      rw [keys_shelves]
      exact mem_keys_byFolder.mpr ⟨path, there, rfl⟩
    obtain ⟨shelf, mem, name⟩ := List.mem_map.mp known
    refine ⟨shelf, mem, ?_⟩
    rw [keys_of_mem_shelves mem, name]
    exact ⟨mem_pathsIn.mpr ⟨there, rfl⟩, mem_pathsIn.mpr ⟨there', same.symm⟩⟩

end

section

variable {files : Table SurveyedFile} {frameworks : List (FrameworkDetection Float)}
variable {settings : AggregationSettings} {repository : String} {all : Findings}

theorem shelving_ofSurvey : Shelving files all
    (ofSurvey settings repository files frameworks all) (shelves (reportTable files all)) where
  different := by
    rw [keys_shelves]
    exact (increasing_byFolder _).imp fun less => (ne_of_lt less)
  folders := by
    rw [folders_ofSurvey, byFolder_eq]
  complete := perm_shelves _

/-- Where analyses carry the paths of their files, a folder lists those that stand on its shelf. -/
theorem Shelving.paths {o : Overview} {shelves : Table (Table FileReport)}
    (shelving : Shelving files all o shelves)
    (named : ∀ entry ∈ corpusOf files, entry.2.path = entry.1) :
    o.folders.mapValues (fun reports => reports.map fun f => f.analysis.path) =
      shelves.mapValues Table.keys := by
  have own : ∀ entry ∈ reportTable files all, entry.2.analysis.path = entry.1 := by
    intro entry mem
    obtain ⟨analysed, there, rfl⟩ := List.mem_map.mp mem
    exact named analysed there
  rw [shelving.folders, Table.mapValues, Table.mapValues, Table.mapValues, List.map_map]
  refine List.map_congr_left fun shelf mem => congrArg (Prod.mk shelf.1) ?_
  rw [Table.values, Table.keys, List.map_map]
  refine List.map_congr_left fun entry inside => own entry ?_
  exact shelving.complete.mem_iff.mp (List.mem_flatMap.mpr ⟨shelf, mem, inside⟩)

/-- Where analyses carry the paths of their files, two files are listed in one folder if they have
the same folder. -/
theorem exists_folder_iff (named : ∀ entry ∈ corpusOf files, entry.2.path = entry.1)
    {path other : String} (there : path ∈ files.keys) (there' : other ∈ files.keys) :
    (∃ entry ∈ (ofSurvey settings repository files frameworks all).folders,
      path ∈ entry.2.map (fun f => f.analysis.path) ∧
        other ∈ entry.2.map (fun f => f.analysis.path)) ↔ folderOf path = folderOf other := by
  have moved : ∀ {α : Type} (t : Table α) (f : α → List String),
      (∃ entry ∈ t.mapValues f, path ∈ entry.2 ∧ other ∈ entry.2) ↔
        ∃ entry ∈ t, path ∈ f entry.2 ∧ other ∈ f entry.2 := by
    simp [Table.mapValues]
  rw [← keys_reportTable files all] at there there'
  rw [← moved _ fun reports : List FileReport => reports.map fun f => f.analysis.path,
    shelving_ofSurvey.paths named, moved, exists_shelf_iff there there']

end

/-- Two files of an overview are in one folder exactly if they lie in the same directory, or one
in no directory and the other in one with the name of the folder for files that lie in none. The
folders show this where analyses carry the paths of their files. -/
theorem same_folder_iff (settings : AggregationSettings) (repository : String)
    (files : Table SurveyedFile) (frameworks : List (FrameworkDetection Float)) (all : Findings) :
    let o := ofSurvey settings repository files frameworks all
    ∃ shelves, Shelving files all o shelves ∧
      ∀ path ∈ files.keys, ∀ other ∈ files.keys,
        ((∃ shelf ∈ shelves, path ∈ shelf.2.keys ∧ other ∈ shelf.2.keys) ↔
          directoryOf path = directoryOf other ∨
            (directoryOf path = "" ∧ directoryOf other = rootFolder) ∨
            (directoryOf path = rootFolder ∧ directoryOf other = "")) ∧
        ((∀ entry ∈ corpusOf files, entry.2.path = entry.1) →
          ((∃ entry ∈ o.folders, path ∈ entry.2.map (fun f => f.analysis.path) ∧
              other ∈ entry.2.map (fun f => f.analysis.path)) ↔
            ∃ shelf ∈ shelves, path ∈ shelf.2.keys ∧ other ∈ shelf.2.keys)) := by
  refine ⟨shelves (reportTable files all), shelving_ofSurvey, ?_⟩
  intro path there other there'
  have onShelf := exists_shelf_iff ((keys_reportTable files all).symm ▸ there)
    ((keys_reportTable files all).symm ▸ there')
  refine ⟨onShelf.trans folderOf_eq_iff, fun named => ?_⟩
  exact (exists_folder_iff named there there').trans onShelf.symm

/-- A script at the top, and one in a directory that is called as the folder for such files. -/
def topAndRoot : Table SurveyedFile := [
  ("a.py", {
    analysis := { path := "a.py", language := "python", lines := some 1 }
    tier := .regex
    language := "python" }),
  ("root/b.py", {
    analysis := { path := "root/b.py", language := "python", lines := some 1 }
    tier := .regex
    language := "python" })]

/-- The two scripts are in one folder, and lie in different directories. -/
theorem top_shares_root : ¬ ∀ path ∈ topAndRoot.keys, ∀ other ∈ topAndRoot.keys,
    (∃ entry ∈ (ofSurvey {} "." topAndRoot [] {}).folders,
      path ∈ entry.2.map (fun f => f.analysis.path) ∧
        other ∈ entry.2.map (fun f => f.analysis.path)) ↔
      directoryOf path = directoryOf other := by
  have shared : ∃ entry ∈ (ofSurvey {} "." topAndRoot [] {}).folders,
      "a.py" ∈ entry.2.map (fun f => f.analysis.path) ∧
        "root/b.py" ∈ entry.2.map (fun f => f.analysis.path) :=
    (exists_folder_iff (by decide) (by decide) (by decide)).mpr (by decide +kernel)
  have apart : directoryOf "a.py" ≠ directoryOf "root/b.py" := by decide +kernel
  intro divided
  exact apart ((divided _ (by decide) _ (by decide)).mp shared)

end RepoSurvey.Overview
