import RepoSurvey.Proofs.Detection.Hints
import RepoSurvey.Proofs.Overview.Reordering
import RepoSurvey.Proofs.Survey.Watched

/-!
# What a survey makes of a file

Whatever becomes of a file in a survey, its analysis comes from one of the
parsers, from measuring it, or from a failure, and may get the size of the file
added. A property that all of these have therefore holds of every analysis
(`Components.Makes.surveyedAlone`). The analyses of a survey carry the path of
their file, and their hints have lines.
-/

namespace RepoSurvey.Survey

/-! ## Parsers -/

/-- Every analysis that the components can make of a file is of some kind. -/
structure Components.Makes (k : Components) (path content : String) (good : FileAnalysis → Prop) :
    Prop where
  /-- One by the parser of JavaScript and TypeScript. -/
  script : ∀ a, k.script content path = .ok a → good a
  /-- One by the parser of Python. -/
  python : ∀ a, k.python content path = .ok a → good a
  /-- One by the structural parser. -/
  structural : ∀ language a, k.structural language content path = .ok a → good a
  /-- Measures. -/
  measured : ∀ language, good (measure content path language)
  /-- A failure. -/
  failed : ∀ reason, good (SurveyedFile.failed path reason).analysis
  /-- One that has got the size of the file. -/
  sized : ∀ a, good a → good (withSize content a)

namespace Components.Makes

variable {k : Components} {path content : String} {good : FileAnalysis → Prop}

theorem treeReading (h : k.Makes path content good) (language : String) (usedFallback : Bool) :
    good (k.treeReading path content language usedFallback).analysis := by
  rw [Components.treeReading]
  split
  · cases read : k.structural language content path with
    | ok a => exact h.structural language a read
    | error failure => exact h.measured language
  · exact h.measured language

theorem primary (h : k.Makes path content good) {language : String} {tier : Tier}
    {parse : String → String → Except Failure FileAnalysis}
    (chosen : primaryParser? k language = some (tier, parse)) :
    ∀ a, parse content path = .ok a → good a := by
  rw [primaryParser?] at chosen
  split at chosen
  · cases chosen
    exact h.script
  · obtain ⟨-, chosen⟩ := Option.ite_none_right_eq_some.mp chosen
    cases chosen
    exact h.python

theorem reading (h : k.Makes path content good) (language : String) :
    good (k.reading path content language).analysis := by
  rw [Components.reading]
  split
  next tier parse chosen =>
    cases read : parse content path with
    | ok a => exact h.primary chosen a read
    | error failure => exact h.treeReading language true
  next =>
    split
    · exact h.treeReading language false
    · exact h.measured language

/-- What holds of every analysis that the components can make holds of the surveyed file. -/
theorem surveyedAlone (h : k.Makes path content good) :
    good (surveyedAlone k path content).analysis := by
  cases admitted : k.admitFile path with
  | error failure =>
    rw [surveyedAlone_of_error content admitted]
    exact h.failed _
  | ok done =>
    rw [surveyedAlone_of_ok content admitted, Components.surveyed]
    cases k.detectLanguage path content with
    | error failure => exact h.failed _
    | ok language => exact h.sized _ (h.reading language)

end Components.Makes

/-! ## The usual components -/

/-- The components of a survey in which nothing is replaced, with a library of grammars. -/
abbrev usual (library : GrammarLibrary) : Components := { library := library }

section

variable {library : GrammarLibrary} {path content : String}

theorem GrammarLibrary.exists_of_analyse {language : String} {a : FileAnalysis}
    (read : library.analyse language content path = .ok a) :
    ∃ g root, Outline.collect g language content path root = a := by
  rw [GrammarLibrary.analyse] at read
  split at read
  next g root _ _ =>
    cases read
    exact ⟨g, root, rfl⟩
  next => cases read
  next => cases read

theorem parse_of_parseScript {a : FileAnalysis} (read : parseScript content path = .ok a) :
    JavaScript.parse content path = .ok a := by
  rw [parseScript] at read
  split at read
  next a parsed =>
    cases read
    exact parsed
  next => cases read

theorem exists_of_parseScript {a : FileAnalysis} (read : parseScript content path = .ok a) :
    ∃ m, JavaScript.analyse m path = a := by
  obtain ⟨m, -, made⟩ := JavaScript.parse_eq_ok_iff.mp (parse_of_parseScript read)
  exact ⟨m, made⟩

theorem parse_of_parsePython {a : FileAnalysis} (read : parsePython content path = .ok a) :
    Python.parse content path = .ok a := by
  rw [parsePython] at read
  split at read
  next a parsed =>
    cases read
    exact parsed
  next => cases read
  next => cases read

theorem exists_of_parsePython {a : FileAnalysis} (read : parsePython content path = .ok a) :
    ∃ body, Python.analyse body path = .ok a := by
  obtain ⟨body, -, made⟩ := Python.exists_of_parse (parse_of_parsePython read)
  exact ⟨body, made⟩

/-- Analyses carry their path and are legible. -/
theorem makes_legible : (usual library).Makes path content fun a =>
    a.Legible ∧ a.path = path where
  script := by
    intro a read
    obtain ⟨m, rfl⟩ := exists_of_parseScript read
    exact ⟨JavaScript.legible_analyse m path, rfl⟩
  python := by
    intro a read
    obtain ⟨body, made⟩ := exists_of_parsePython read
    exact Python.legible_analyse made
  structural := by
    intro language a read
    obtain ⟨g, root, rfl⟩ := GrammarLibrary.exists_of_analyse read
    exact Outline.legible_collect language content path root
  measured := fun _ => ⟨FileAnalysis.legible_of_empty rfl rfl rfl, rfl⟩
  failed := fun _ => ⟨FileAnalysis.legible_of_empty rfl rfl rfl, rfl⟩
  sized := by
    intro a made
    rw [withSize]
    split
    · exact made
    · exact made

end

/-! ## Corpora -/

section

variable {k : Components} {sources sources' : Table String}

theorem keys_surveyedEach : (surveyedEach k sources).keys = sources.keys := by
  rw [surveyedEach, Table.keys_map]
  exact fun _ => rfl

theorem keys_corpusOf_surveyedEach : (corpusOf (surveyedEach k sources)).keys = sources.keys := by
  rw [Overview.keys_corpusOf, keys_surveyedEach]

/-- An entry of the corpus is a source with its analysis. -/
theorem mem_corpusOf_surveyedEach {entry : String × FileAnalysis} :
    entry ∈ corpusOf (surveyedEach k sources) ↔
      ∃ content, (entry.1, content) ∈ sources ∧
        (surveyedAlone k entry.1 content).analysis = entry.2 := by
  simp only [corpusOf, surveyedEach, Table.mapValues, List.mem_map, exists_exists_and_eq_and]
  constructor
  · rintro ⟨⟨path, content⟩, mem, rfl⟩
    exact ⟨content, mem, rfl⟩
  · rintro ⟨content, mem, same⟩
    exact ⟨_, mem, Prod.ext rfl same⟩

theorem perm_corpusOf_surveyedEach (perm : sources.Perm sources') :
    (corpusOf (surveyedEach k sources)).Perm (corpusOf (surveyedEach k sources')) :=
  (perm.map _).map _

end

/-- What the components can make of every file they make of each file of a corpus. -/
theorem Components.Makes.of_mem_corpusOf {k : Components} {sources : Table String}
    {good : String → FileAnalysis → Prop}
    (makes : ∀ path content, k.Makes path content (good path)) {entry : String × FileAnalysis}
    (mem : entry ∈ corpusOf (surveyedEach k sources)) : good entry.1 entry.2 := by
  obtain ⟨content, -, made⟩ := mem_corpusOf_surveyedEach.mp mem
  rw [← made]
  exact (makes entry.1 content).surveyedAlone

section

variable {library : GrammarLibrary} {sources : Table String}

theorem allLegible_corpusOf :
    Detection.Route.AllLegible (corpusOf (surveyedEach (usual library) sources)) :=
  fun _ mem => (Components.Makes.of_mem_corpusOf (fun _ _ => makes_legible) mem).1

theorem path_of_mem_corpusOf {entry : String × FileAnalysis}
    (mem : entry ∈ corpusOf (surveyedEach (usual library) sources)) :
    entry.2.path = entry.1 :=
  (Components.Makes.of_mem_corpusOf (fun _ _ => makes_legible) mem).2

end

end RepoSurvey.Survey
