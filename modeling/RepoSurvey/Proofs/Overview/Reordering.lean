import RepoSurvey.Overview
import RepoSurvey.Proofs.Detection.Frameworks
import RepoSurvey.Proofs.Sorting
import RepoSurvey.Proofs.Tally

/-!
# Overviews of files in another order

What an overview says about its files does not depend on the order in which
they came. Folders and the files in them are sorted by names that are all
different (`byFolder_eq_of_perm`), and the sums do not ask for an order. Each
file has one entry in the import graph, for which the other files count only as
there or not (`sameMap_importGraph`). `Alike` puts that together; the cycles of
the graph are left out of it, since the search for them starts from the first
file.
-/

namespace RepoSurvey.Overview

/-! ## Import graphs -/

/-- What a specifier stands for depends on which files there are, not on their order. -/
theorem dependencyOf_of_perm {known known' : List String} (perm : known.Perm known') :
    dependencyOf known = dependencyOf known' := by
  funext importer specifier
  have there : known.contains = known'.contains := funext fun path => perm.contains_eq
  rw [dependencyOf, dependencyOf, resolve?, resolve?, there]

/-- The import graphs of a corpus in two orders are one mapping. -/
theorem sameMap_importGraph {corpus corpus' : Corpus} (perm : corpus.Perm corpus')
    (distinct : corpus.keys.Nodup) : (importGraph corpus).SameMap (importGraph corpus') := by
  have keys : corpus.keys.Perm corpus'.keys := perm.map _
  constructor
  · simp only [importGraph, dependenciesOf, dependencyOf_of_perm keys]
    exact (perm.map _).filter _
  · refine List.Nodup.sublist (List.filter_sublist.map _) ?_
    rw [← Table.keys, Table.keys_map]
    · exact distinct
    · exact fun _ => rfl

/-! ## Folders -/

variable {files files' : Table FileReport}

theorem filesIn_eq_of_perm (perm : files.Perm files') (distinct : files.keys.Nodup)
    (folder : String) : filesIn files folder = filesIn files' folder := by
  have there : ((files.filter fun entry => folderOf entry.1 == folder).map (·.1)).Nodup :=
    distinct.sublist (List.filter_sublist.map _)
  rw [filesIn, filesIn, Table.sorted, Table.sorted,
    mergeSort_eq_of_perm orders_sorted (perm.filter _) there]

/-- The folders of files in two orders are the same, and so are the files in them. -/
theorem byFolder_eq_of_perm (perm : files.Perm files') (distinct : files.keys.Nodup) :
    byFolder files = byFolder files' := by
  have folders : (RepoSurvey.distinct (files.map fun entry => folderOf entry.1)).Perm
      (RepoSurvey.distinct (files'.map fun entry => folderOf entry.1)) :=
    perm_distinct (perm.map _)
  have different := nodup_distinct (files.map fun entry => folderOf entry.1)
  rw [byFolder, byFolder, mergeSort_eq_of_perm orders_labels folders (by rwa [List.map_id])]
  simp only [filesIn_eq_of_perm perm distinct]

/-! ## Sums -/

open Detection.Framework (confidences title)

/-- The confidence in frameworks goes by their titles. -/
theorem confidences_eq (found : List (FrameworkDetection Float)) :
    confidences found = (found.map title).foldl (fun t d => Table.set t d.1 d.2) [] := by
  rw [List.foldl_map]
  rfl

/-- Two overviews say the same about their files, whatever the order of their tables. -/
structure Alike (o o' : Overview) : Prop where
  /-- The same folders with the same files and findings, in the same order. -/
  folders : o.folders = o'.folders
  /-- The same number of files. -/
  totalFiles : o.summary.totalFiles = o'.summary.totalFiles
  /-- The same number of lines. -/
  totalLines : o.summary.totalLines = o'.summary.totalLines
  /-- The same languages. -/
  languages : o.summary.languages.SameMap o'.summary.languages
  /-- The same extensions. -/
  extensions : o.summary.extensions.SameMap o'.summary.extensions
  /-- The same frameworks. -/
  frameworks : o.summary.frameworks = o'.summary.frameworks
  /-- The same dependencies. -/
  dependencies : Table.SameMap o.dependencies o'.dependencies
  /-- The same repository. -/
  repository : o.repository = o'.repository
  /-- The same reason for being empty, if it is. -/
  error : o.error = o'.error

theorem alike_empty (repository : String) (error : Option String) :
    (empty repository error).Alike (empty repository error) where
  folders := rfl
  totalFiles := rfl
  totalLines := rfl
  languages := ⟨.refl _, List.nodup_nil⟩
  extensions := ⟨.refl _, List.nodup_nil⟩
  frameworks := rfl
  dependencies := ⟨.refl _, List.nodup_nil⟩
  repository := rfl
  error := rfl

theorem totalLines_of_perm {corpus corpus' : Corpus} (perm : corpus.Perm corpus') :
    corpus.foldr (fun (_, a) n => a.lines.getD 0 + n) (0 : Int) =
      corpus'.foldr (fun (_, a) n => a.lines.getD 0 + n) 0 :=
  perm.foldr_eq' (fun x _ y _ n => Int.add_left_comm (y.2.lines.getD 0) (x.2.lines.getD 0) n) 0

theorem frameworks_summarize_of_titles {found found' : List (FrameworkDetection Float)}
    (corpus corpus' : Corpus) (same : found.map title = found'.map title) :
    (summarize corpus found).frameworks = (summarize corpus' found').frameworks := by
  have empty : found.isEmpty = found'.isEmpty := by
    rw [← List.isEmpty_map, same, List.isEmpty_map]
  simp only [summarize, confidences_eq, same, empty]

theorem keys_corpusOf (surveyed : Table SurveyedFile) :
    (corpusOf surveyed).keys = surveyed.keys := by
  rw [corpusOf, Table.mapValues, Table.keys_map]
  exact fun _ => rfl

/-- The overviews of surveyed files in two orders are alike. -/
theorem alike_ofSurvey (settings : AggregationSettings) (repository : String)
    {surveyed surveyed' : Table SurveyedFile} {found found' : List (FrameworkDetection Float)}
    (all : Findings) (perm : surveyed.Perm surveyed') (distinct : surveyed.keys.Nodup)
    (same : found.map title = found'.map title) :
    (ofSurvey settings repository surveyed found all).Alike
      (ofSurvey settings repository surveyed' found' all) := by
  have corpora : (corpusOf surveyed).Perm (corpusOf surveyed') := perm.map _
  have keys : (corpusOf surveyed).keys.Nodup := by
    rw [keys_corpusOf]
    exact distinct
  have reports : (Table.keys ((corpusOf surveyed).map fun (path, a) =>
      (path, (⟨a, findingsIn all path⟩ : FileReport)))).Nodup := by
    rw [Table.keys_map]
    · exact keys
    · exact fun _ => rfl
  have included :
      (if settings.includeFrameworks then found else []).map title =
        (if settings.includeFrameworks then found' else []).map title := by
    split
    · exact same
    · rfl
  exact {
    folders := byFolder_eq_of_perm (corpora.map _) reports
    totalFiles := corpora.length_eq
    totalLines := totalLines_of_perm corpora
    languages := Table.sameMap_tally ((corpora.map _).filter _)
    extensions := Table.sameMap_tally (((corpora.map _).map _).filter _)
    frameworks := frameworks_summarize_of_titles _ _ included
    dependencies := sameMap_importGraph corpora keys
    repository := rfl
    error := rfl }

end RepoSurvey.Overview
