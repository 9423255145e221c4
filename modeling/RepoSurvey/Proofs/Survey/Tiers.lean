import RepoSurvey.Proofs.Survey.Endings
import RepoSurvey.Proofs.Text.Cutting

/-!
# Which parser a file ends up with

Three parsers may read a file, and measuring it is what is left. `Decision` is
the table of what is taken when: the language decides which parser comes first,
a failure hands the file on to the next, and whether the structural parser is
one of them is a matter of the library of grammars. Every file has one line of
the table (`gives_route`, `Decision.unique`).

Whatever fails, surveying a file gives an analysis with the size of the file,
unless the language itself cannot be detected (`survey_follows_table`).
-/

namespace RepoSurvey.Survey

/-! ## The table -/

/-- The language has a parser of its own, which fails on the file. -/
inductive OwnParserFails (k : Components) (path content : String) : String → Prop where
  | javascript {failure : Failure} (failed : k.script content path = .error failure) :
    OwnParserFails k path content "javascript"
  | typescript {failure : Failure} (failed : k.script content path = .error failure) :
    OwnParserFails k path content "typescript"
  | python {failure : Failure} (failed : k.python content path = .error failure) :
    OwnParserFails k path content "python"

/-- Languages that have a parser of their own. -/
def ownLanguages : List String :=
  ["javascript", "typescript", "python"]

/-- What becomes of a file in a language, line by line. -/
inductive Decision (k : Components) (path content language : String) : Routed → Prop where
  /-- A script is read by its parser. -/
  | script {a : FileAnalysis} (spoken : language ∈ ["javascript", "typescript"])
    (read : k.script content path = .ok a) :
    Decision k path content language ⟨a, .regex, false⟩
  /-- So is Python. -/
  | python {a : FileAnalysis} (spoken : language = "python")
    (read : k.python content path = .ok a) :
    Decision k path content language ⟨a, .python, false⟩
  /-- When that fails, the structural parser reads the file. -/
  | treeInstead {a : FileAnalysis} (failed : OwnParserFails k path content language)
    (grammar : k.reads language = true) (read : k.structural language content path = .ok a) :
    Decision k path content language ⟨a, .structural, true⟩
  /-- When that fails too, or has no grammar, the file is measured. -/
  | measuredInstead (failed : OwnParserFails k path content language)
    (unread : k.reads language = true → ∃ failure,
      k.structural language content path = .error failure) :
    Decision k path content language ⟨measure content path language, .basic, true⟩
  /-- Other languages may be read by the structural parser alone. -/
  | tree {a : FileAnalysis} (spoken : language ∈ ["dart", "java", "cpp", "c"])
    (grammar : k.reads language = true) (read : k.structural language content path = .ok a) :
    Decision k path content language ⟨a, .structural, false⟩
  /-- When that fails the file is measured. -/
  | measuredForTree {failure : Failure} (spoken : language ∈ ["dart", "java", "cpp", "c"])
    (grammar : k.reads language = true)
    (failed : k.structural language content path = .error failure) :
    Decision k path content language ⟨measure content path language, .basic, true⟩
  /-- All other files are measured, and nothing has failed. -/
  | measured (foreign : language ∉ ownLanguages)
    (bare : language ∈ ["dart", "java", "cpp", "c"] → k.reads language = false) :
    Decision k path content language ⟨measure content path language, .basic, false⟩

section

variable {k : Components} {path content language : String} {routed other : Routed}

/-- The table has one line for a file. -/
theorem Decision.unique (h : Decision k path content language routed)
    (h' : Decision k path content language other) : routed = other := by
  grind [Decision, OwnParserFails, ownLanguages]

/-- The lines of the table for a file whose own parser has failed. -/
theorem decision_treeReading_true (failed : OwnParserFails k path content language) :
    Decision k path content language (k.treeReading path content language true) := by
  rw [Components.treeReading]
  split
  next grammar =>
    cases read : k.structural language content path with
    | ok a => exact .treeInstead failed grammar read
    | error failure => exact .measuredInstead failed fun _ => ⟨failure, read⟩
  next bare => exact .measuredInstead failed fun grammar => absurd grammar bare

/-- The lines of the table for a file that has no other parser. -/
theorem decision_treeReading_false (spoken : language ∈ ["dart", "java", "cpp", "c"]) :
    Decision k path content language (k.treeReading path content language false) := by
  rw [Components.treeReading]
  split
  next grammar =>
    cases read : k.structural language content path with
    | ok a => exact .tree spoken grammar read
    | error failure => exact .measuredForTree spoken grammar read
  next bare =>
    have foreign : language ∉ ownLanguages := by grind [ownLanguages]
    exact .measured foreign fun _ => Bool.eq_false_iff.mpr bare

theorem primaryParser?_script (spoken : language ∈ ["javascript", "typescript"]) :
    primaryParser? k language = some (.regex, k.script) := by
  rcases List.mem_pair.mp spoken with rfl | rfl <;> rfl

theorem primaryParser?_foreign (foreign : language ∉ ownLanguages) :
    primaryParser? k language = none := by
  simp only [ownLanguages, List.mem_cons, List.not_mem_nil, not_or] at foreign
  simp [primaryParser?, foreign]

theorem decision_reading_own {tier : Tier} {parse : String → String → Except Failure FileAnalysis}
    (chosen : primaryParser? k language = some (tier, parse))
    (reads : ∀ a, parse content path = .ok a → Decision k path content language ⟨a, tier, false⟩)
    (fails : ∀ failure, parse content path = .error failure →
      OwnParserFails k path content language) :
    Decision k path content language (k.reading path content language) := by
  cases read : parse content path with
  | ok a =>
    simp only [Components.reading, chosen, read]
    exact reads a read
  | error failure =>
    simp only [Components.reading, chosen, read]
    exact decision_treeReading_true (fails failure read)

/-- The reading of a file is on its line of the table. -/
theorem decision_reading : Decision k path content language (k.reading path content language) := by
  by_cases script : language ∈ ["javascript", "typescript"]
  · refine decision_reading_own (primaryParser?_script script) (fun _ => .script script) ?_
    intro failure failed
    rcases List.mem_pair.mp script with rfl | rfl
    · exact .javascript failed
    · exact .typescript failed
  by_cases snake : language = "python"
  · subst snake
    exact decision_reading_own rfl (fun _ => .python rfl) fun _ => .python
  have foreign : language ∉ ownLanguages := by
    simp only [ownLanguages, List.mem_cons] at script ⊢
    tauto
  rw [Components.reading, primaryParser?_foreign foreign]
  by_cases spoken : treeLanguages.contains language = true
  · simp only [spoken, if_true]
    exact decision_treeReading_false (List.contains_iff_mem.mp spoken)
  · simp only [spoken]
    exact .measured foreign fun mem => absurd (List.contains_iff_mem.mpr mem) spoken

end

/-! ## Sizes -/

/-- The analysis of a parser: without an error, and without the size of the file. -/
structure Unsized (a : FileAnalysis) : Prop where
  error : a.error = none
  lines : a.lines = none

section

variable {content path : String} {a : FileAnalysis}

theorem unsized_parseScript (read : parseScript content path = .ok a) : Unsized a := by
  obtain ⟨m, rfl⟩ := exists_of_parseScript read
  exact ⟨rfl, rfl⟩

theorem unsized_parsePython (read : parsePython content path = .ok a) : Unsized a := by
  obtain ⟨body, made⟩ := exists_of_parsePython read
  obtain ⟨functions, classes, top, -, -, -, rfl⟩ := Python.exists_of_analyse made
  exact ⟨rfl, rfl⟩

theorem Unsized.addItem (h : Unsized a) (item : Outline.Item) :
    Unsized (Outline.addItem a item) := by
  cases item <;> exact ⟨h.error, h.lines⟩

theorem unsized_collect (g : Outline.Grammar) (language : String) (root : Outline.Node) :
    Unsized (Outline.collect g language content path root) :=
  List.foldlRecOn _ Outline.addItem ⟨rfl, rfl⟩ fun _ h item _ => h.addItem item

/-- An analysis without a size gets that of the file. -/
theorem Unsized.withSize_eq (h : Unsized a) : withSize content a =
    { a with
      lines := some ↑(content.toList.count '\n' + 1)
      characters := some content.length } := by
  rw [withSize, h.lines, lineCount]

/-- Measures have the size of the file already, and it is the same. -/
theorem withSize_measure (language : String) : withSize content (measure content path language) =
    { measure content path language with
      lines := some ↑(content.toList.count '\n' + 1)
      characters := some content.length } := by
  rw [withSize]
  simp only [measure, Text.length_lines]

end

/-- A reading that is on a line of the table has no error, and gets the size of the file. -/
theorem Decision.sized {f : Faults} {library : GrammarLibrary} {path content language : String}
    {routed : Routed} (h : Decision (f.components library) path content language routed) :
    routed.analysis.error = none ∧ withSize content routed.analysis =
      { routed.analysis with
        lines := some ↑(content.toList.count '\n' + 1)
        characters := some content.length } := by
  have parsed : ∀ {a}, Unsized a → a.error = none ∧ withSize content a =
      { a with
        lines := some ↑(content.toList.count '\n' + 1)
        characters := some content.length } :=
    fun bare => ⟨bare.error, bare.withSize_eq⟩
  have outlined : ∀ {a}, (f.components library).structural language content path = .ok a →
      Unsized a := by
    intro a read
    obtain ⟨g, root, rfl⟩ := GrammarLibrary.exists_of_analyse (eq_ok_of_barring read)
    exact unsized_collect g language root
  cases h with
  | script _ read => exact parsed (unsized_parseScript (eq_ok_of_barring read))
  | python _ read => exact parsed (unsized_parsePython (eq_ok_of_barring read))
  | treeInstead _ _ read => exact parsed (outlined read)
  | tree _ _ read => exact parsed (outlined read)
  | measuredInstead => exact ⟨rfl, withSize_measure language⟩
  | measuredForTree => exact ⟨rfl, withSize_measure language⟩
  | measured => exact ⟨rfl, withSize_measure language⟩

/-! ## Surveyed files -/

/-- The surveyed file is one in this language that is read like this. -/
structure SurveyedAs (file : SurveyedFile) (content language : String)
    (routed : Routed) : Prop where
  language : file.language = language
  tier : file.tier = routed.tier
  usedFallback : file.usedFallback = routed.usedFallback
  /-- It has the analysis, with the size of the file. -/
  analysis : file.analysis = { routed.analysis with
    lines := some ↑(content.toList.count '\n' + 1)
    characters := some content.length }
  error : file.analysis.error = none

/-- Whatever fails, a file has a survey. It is that of a failure when the language
cannot be detected, and otherwise follows the one line of the table that the file is on. -/
theorem survey_follows_table (f : Faults) (library : GrammarLibrary) (path content : String)
    {r : Run} (sound : r.session.Sound (f.components library)) :
    ∃ file r', (surveyFile (f.components library) path content).run r = (file, r') ∧
      (∀ failure, (f.components library).detectLanguage path content = .error failure →
        file = {
          analysis := {
            path := path
            language := "unknown"
            error := some ("Analysis failed: " ++ failure.message) }
          tier := .failed
          language := "unknown"
          usedFallback := false }) ∧
      (∀ language, (f.components library).detectLanguage path content = .ok language →
        ∃ routed, SurveyedAs file content language routed ∧
          ∀ other, Decision (f.components library) path content language other ↔
            other = routed) := by
  obtain ⟨r', ran, -⟩ := gives_surveyFile path content r sound
  refine ⟨_, r', ran, ?_, ?_⟩
  · intro failure failed
    simp only [Components.surveyed, failed]
    rfl
  · intro language detected
    have decided : Decision (f.components library) path content language
        ((f.components library).reading path content language) := decision_reading
    obtain ⟨clean, sized⟩ := decided.sized
    refine ⟨_, ?_, fun other => ⟨fun h => h.unique decided, fun same => same ▸ decided⟩⟩
    simp only [Components.surveyed, detected]
    exact ⟨rfl, rfl, rfl, sized, (congrArg FileAnalysis.error sized).trans clean⟩

theorem survey_follows_table_of_broken_scripts :
    Session.Sound (brokenScripts.components {}) {} ∧
      ∃ file r', (surveyFile (brokenScripts.components {}) "a.js" "f()\n").run {} = (file, r') ∧
        (∀ failure,
          (brokenScripts.components {}).detectLanguage "a.js" "f()\n" = .error failure →
          file = {
            analysis := {
              path := "a.js"
              language := "unknown"
              error := some ("Analysis failed: " ++ failure.message) }
            tier := .failed
            language := "unknown"
            usedFallback := false }) ∧
        (∀ language,
          (brokenScripts.components {}).detectLanguage "a.js" "f()\n" = .ok language →
          ∃ routed, SurveyedAs file "f()\n" language routed ∧
            ∀ other, Decision (brokenScripts.components {}) "a.js" "f()\n" language other ↔
              other = routed) := by
  have new : Session.Sound (brokenScripts.components {}) {} := nofun
  exact ⟨new, survey_follows_table brokenScripts {} "a.js" "f()\n" new⟩

/-- A script that no parser reads is measured. -/
example : ((surveyFile (brokenScripts.components {}) "a.js" "f()\n").run {}).1.tier = .basic := by
  rfl

end RepoSurvey.Survey
