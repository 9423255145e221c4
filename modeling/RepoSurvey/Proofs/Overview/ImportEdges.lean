import RepoSurvey.Proofs.Overview.CycleSearch
import RepoSurvey.Proofs.Overview.Reordering

/-!
# What the edges of an import graph stand for

A specifier stands for a file of the repository where it is relative and leads to one,
and for itself otherwise (`StandsFor`). The import graph has an edge for each thing that
a specifier of a file stands for, the file itself apart (`Describes`): a file without
such an edge is not in the graph, and no file has an edge to itself.

So a ring of edges has at least two members, and since only files have edges all of them
are files (`Describes.importRing`). Nothing else is reported as a circular dependency.
-/

namespace RepoSurvey.Overview

/-! ## Specifiers -/

/-- What a specifier in a file stands for. -/
inductive StandsFor (known : List String) (importer specifier : String) : String → Prop where
  /-- A specifier that is not relative is kept. -/
  | kept (plain : ¬ ".".toList <+: specifier.toList) : StandsFor known importer specifier specifier
  /-- So is a relative one that leads to no file. -/
  | astray (relative : ".".toList <+: specifier.toList)
    (unknown : ∀ path ∈ candidates (targetPath importer specifier), path ∉ known) :
    StandsFor known importer specifier specifier
  /-- Of the places to which a relative one leads the first with a file counts. -/
  | file {path : String} {before after : List String} (relative : ".".toList <+: specifier.toList)
    (led : candidates (targetPath importer specifier) = before ++ path :: after)
    (there : path ∈ known) (first : ∀ earlier ∈ before, earlier ∉ known) :
    StandsFor known importer specifier path

section

variable {known : List String} {importer specifier path : String}

theorem resolve?_eq_some_iff : resolve? importer specifier known = some path ↔
    path ∈ known ∧ ∃ before after,
      candidates (targetPath importer specifier) = before ++ path :: after ∧
        ∀ earlier ∈ before, earlier ∉ known := by
  simp only [resolve?, List.find?_eq_some_iff_append, Bool.not_eq_true', ← Bool.not_eq_true,
    List.contains_iff_mem]

theorem resolve?_eq_none_iff : resolve? importer specifier known = none ↔
    ∀ path ∈ candidates (targetPath importer specifier), path ∉ known := by
  simp only [resolve?, List.find?_eq_none, List.contains_iff_mem]

/-- A specifier stands for its dependency. -/
theorem standsFor_dependencyOf (known : List String) (importer specifier : String) :
    StandsFor known importer specifier (dependencyOf known importer specifier) := by
  rw [dependencyOf]
  split
  next dotted =>
    have relative : ".".toList <+: specifier.toList := List.isPrefixOf_iff_prefix.mp dotted
    cases resolved : resolve? importer specifier known with
    | none => exact .astray relative (resolve?_eq_none_iff.mp resolved)
    | some path =>
      obtain ⟨there, before, after, led, first⟩ := resolve?_eq_some_iff.mp resolved
      exact .file relative led there first
  next plain => exact .kept fun relative => plain (List.isPrefixOf_iff_prefix.mpr relative)

/-- A specifier stands for one thing. -/
theorem standsFor_iff :
    StandsFor known importer specifier path ↔ dependencyOf known importer specifier = path := by
  refine ⟨fun stands => ?_, fun same => same ▸ standsFor_dependencyOf known importer specifier⟩
  cases stands with
  | kept plain =>
    exact if_neg fun dotted => plain (List.isPrefixOf_iff_prefix.mp dotted)
  | astray relative unknown =>
    rw [dependencyOf, resolve?_eq_none_iff.mpr unknown]
    exact if_pos (List.isPrefixOf_iff_prefix.mpr relative)
  | file relative led there first =>
    rw [dependencyOf, resolve?_eq_some_iff.mpr ⟨there, _, _, led, first⟩]
    exact if_pos (List.isPrefixOf_iff_prefix.mpr relative)

end

/-! ## Files -/

/-- A specifier of the file stands for the target; an empty one does not count. -/
def Imports (known : List String) (path : String) (a : FileAnalysis) (target : String) : Prop :=
  ∃ specifier ∈ a.imports.keys, specifier ≠ "" ∧ StandsFor known path specifier target

/-- A specifier of the file stands for something else than the file. -/
def ImportsOther (known : List String) (path : String) (a : FileAnalysis) : Prop :=
  ∃ target, Imports known path a target ∧ target ≠ path

section

variable {known : List String} {path target : String} {a : FileAnalysis}

theorem imports_iff : Imports known path a target ↔
    ∃ specifier ∈ a.imports.keys, specifier ≠ "" ∧ dependencyOf known path specifier = target := by
  simp only [Imports, standsFor_iff]

theorem importsOther_iff : ImportsOther known path a ↔
    ∃ specifier ∈ a.imports.keys, specifier ≠ "" ∧ dependencyOf known path specifier ≠ path := by
  simp only [ImportsOther, imports_iff]
  constructor
  · rintro ⟨_, ⟨specifier, mem, some_text, rfl⟩, other⟩
    exact ⟨specifier, mem, some_text, other⟩
  · rintro ⟨specifier, mem, some_text, other⟩
    exact ⟨_, ⟨specifier, mem, some_text, rfl⟩, other⟩

instance : Decidable (ImportsOther known path a) :=
  decidable_of_iff _ importsOther_iff.symm

theorem mem_increasing {labels : List String} {label : String} :
    label ∈ increasing labels ↔ label ∈ labels := by
  rw [increasing, List.mem_mergeSort, mem_distinct]

theorem pairwise_increasing (labels : List String) : (increasing labels).Pairwise (· < ·) :=
  pairwise_lt_mergeSort_labels (nodup_distinct labels)

/-- The dependencies of a file are what its specifiers stand for, the file itself apart. -/
theorem mem_dependenciesOf :
    target ∈ dependenciesOf known path a.imports.keys ↔
      target ≠ path ∧ Imports known path a target := by
  simp only [dependenciesOf, mem_increasing, List.mem_filter, List.mem_map, Bool.not_eq_true',
    String.isEmpty_eq_false_iff, bne_iff_ne, imports_iff, and_assoc]
  exact and_comm

theorem isEmpty_dependenciesOf_iff :
    (dependenciesOf known path a.imports.keys).isEmpty = false ↔ ImportsOther known path a := by
  rw [List.isEmpty_eq_false_iff_exists_mem]
  exact exists_congr fun target => mem_dependenciesOf.trans and_comm

end

/-! ## Graphs -/

/-- The graph has the dependencies of the files of a corpus that have any, in the order of
the corpus. -/
structure Describes (g : ImportGraph) (corpus : Corpus) : Prop where
  keys : g.keys =
    Table.keys (corpus.filter fun entry => ImportsOther corpus.keys entry.1 entry.2)
  increasing : ∀ entry ∈ g, entry.2.Pairwise (· < ·)
  apart : ∀ entry ∈ g, entry.1 ∉ entry.2
  edges : ∀ entry ∈ g, ∃ a, (entry.1, a) ∈ corpus ∧
    ∀ target, target ∈ entry.2 ↔ target ≠ entry.1 ∧ Imports corpus.keys entry.1 a target

section

variable {corpus : Corpus} {entry : String × List String}

theorem exists_of_mem_importGraph (mem : entry ∈ importGraph corpus) :
    ∃ a, (entry.1, a) ∈ corpus ∧
      entry.2 = dependenciesOf corpus.keys entry.1 a.imports.keys := by
  obtain ⟨⟨path, a⟩, there, rfl⟩ := List.mem_map.mp (List.mem_filter.mp mem).1
  exact ⟨a, there, rfl⟩

theorem keys_importGraph (corpus : Corpus) : (importGraph corpus).keys =
    Table.keys (corpus.filter fun entry => ImportsOther corpus.keys entry.1 entry.2) := by
  rw [importGraph, List.filter_map, Table.keys_map]
  · refine congrArg Table.keys (List.filter_congr fun entry _ => ?_)
    rw [Function.comp_apply, Bool.eq_iff_iff, Bool.not_eq_true', isEmpty_dependenciesOf_iff,
      decide_eq_true_iff]
  · exact fun _ => rfl

/-- The import graph of a corpus describes it. -/
theorem describes_importGraph (corpus : Corpus) : Describes (importGraph corpus) corpus where
  keys := keys_importGraph corpus
  increasing := by
    intro entry mem
    obtain ⟨a, -, same⟩ := exists_of_mem_importGraph mem
    rw [same]
    exact pairwise_increasing _
  apart := by
    intro entry mem
    obtain ⟨a, -, same⟩ := exists_of_mem_importGraph mem
    rw [same, mem_dependenciesOf]
    exact fun own => own.1 rfl
  edges := by
    intro entry mem
    obtain ⟨a, there, same⟩ := exists_of_mem_importGraph mem
    refine ⟨a, there, fun target => ?_⟩
    rw [same, mem_dependenciesOf]

end

/-! ## Rings -/

/-- A ring of files, at least two, each of which imports the next, and the last the first. -/
structure ImportRing (corpus : Corpus) (ring : List String) : Prop where
  proper : 2 ≤ ring.length
  analysed : ∀ path ∈ ring, path ∈ corpus.keys
  linked : ∀ p ∈ ringPairs ring, ∃ a, (p.1, a) ∈ corpus ∧ Imports corpus.keys p.1 a p.2

section

variable {g : ImportGraph} {corpus : Corpus} {ring : List String}

theorem exists_mem_of_mem_dependencies {node target : String}
    (mem : target ∈ g.dependencies node) : ∃ targets, (node, targets) ∈ g ∧ target ∈ targets := by
  rw [ImportGraph.dependencies, Table.get?] at mem
  cases found : g.find? fun entry => entry.1 == node with
  | none =>
    rw [found] at mem
    cases mem
  | some entry =>
    rw [found] at mem
    have named := List.find?_some found
    obtain rfl : entry.1 = node := beq_iff_eq.mp named
    exact ⟨entry.2, List.mem_of_find?_eq_some found, mem⟩

/-- A cycle of a graph that describes a corpus is a ring of its files. -/
theorem Describes.importRing (describes : Describes g corpus) (cycle : g.IsCycle ring) :
    ImportRing corpus ring where
  proper := by
    match ring, cycle with
    | [], cycle => exact absurd rfl cycle.nonempty
    | [path], cycle =>
      have alone : (path, path) ∈ ringPairs [path] := by
        rw [ringPairs, List.rotate_singleton]
        exact List.mem_singleton.mpr rfl
      obtain ⟨targets, mem, own⟩ := exists_mem_of_mem_dependencies (cycle.linked _ alone)
      exact absurd own (describes.apart _ mem)
    | _ :: _ :: _, _ => exact Nat.le_add_left 2 _
  analysed := by
    intro path mem
    have importing := cycle.known path mem
    rw [describes.keys] at importing
    exact (List.filter_sublist.map _).subset importing
  linked := by
    intro p mem
    obtain ⟨targets, there, own⟩ := exists_mem_of_mem_dependencies (cycle.linked p mem)
    obtain ⟨a, analysed, edges⟩ := describes.edges _ there
    exact ⟨a, analysed, ((edges p.2).mp own).2⟩

end

/-- Import graphs describe their corpora, and what an overview reports as circular dependencies
are rings of its files. -/
theorem import_graphs_and_rings :
    (∀ corpus : Corpus, Describes (importGraph corpus) corpus) ∧
      ∀ (settings : AggregationSettings) (repository : String) (files : Table SurveyedFile)
        (frameworks : List (FrameworkDetection Float)) (all : Findings),
        ∀ ring ∈ (ofSurvey settings repository files frameworks all).cycles,
          ImportRing (corpusOf files) ring := by
  refine ⟨describes_importGraph, fun settings repository files frameworks all ring mem => ?_⟩
  rw [ofSurvey] at mem
  dsimp only at mem
  split at mem
  next =>
    obtain ⟨sound, -, -⟩ := (importGraph (corpusOf files)).search_resting settings.maxCycleDepth
    exact (describes_importGraph _).importRing (sound.reported ring mem).toIsCycle
  next => cases mem

end RepoSurvey.Overview
