import RepoSurvey.Proofs.Survey.Tiers
import RepoSurvey.Proofs.Text.Suffixes

/-!
# The language of a file and that of its analysis

The language of a file is detected from its path and its content, and all parsers but
one record what was detected. The parser of scripts goes by the ending of the path
alone. So a script without an ending of its own, or whose content overruled its suffix,
may be taken for TypeScript and recorded as JavaScript.

`recorded_language_agrees_iff` says that this is all there is to it: the two languages
agree unless the parser of scripts has read a file whose path does not tell the language
that was detected. A path whose last name has a definitive suffix always tells it
(`not_misnamed_of_mem`).
-/

namespace RepoSurvey.Survey

/-! ## Paths that tell the language -/

/-- The path ends like that of a TypeScript file, in upper or lower case. -/
def EndsAsTypeScript (path : String) : Prop :=
  ∃ ending ∈ [".ts", ".tsx", ".mts", ".cts"], ending.toList <:+ (Text.lower path).toList

/-- A script was detected, and the path tells another language. -/
def Misnamed (path language : String) : Prop :=
  language = "typescript" ∧ ¬ EndsAsTypeScript path ∨
    language = "javascript" ∧ EndsAsTypeScript path

/-- The suffix of what follows the last slash, in lower case. -/
def lastSuffix (path : String) : String :=
  Text.lower (Path.nameSuffix (Text.afterLast '/' path))

/-- What follows the last slash has a suffix that leaves no room for doubt. -/
def Definitive (path : String) : Prop :=
  lastSuffix path ∈ Language.definitive.map (·.1)

section

variable {path content language : String}

theorem languageOf_of_endsAsTypeScript (typed : EndsAsTypeScript path) :
    JavaScript.languageOf path = "typescript" := by
  obtain ⟨ending, listed, ends⟩ := typed
  exact if_pos (List.any_eq_true.mpr ⟨ending, listed, List.isSuffixOf_iff_suffix.mpr ends⟩)

theorem languageOf_of_not_endsAsTypeScript (plain : ¬ EndsAsTypeScript path) :
    JavaScript.languageOf path = "javascript" := by
  refine if_neg fun typed => plain ?_
  obtain ⟨ending, listed, ends⟩ := List.any_eq_true.mp typed
  exact ⟨ending, listed, List.isSuffixOf_iff_suffix.mp ends⟩

theorem misnamed_typescript_iff : Misnamed path "typescript" ↔ ¬ EndsAsTypeScript path := by
  refine ⟨fun named => ?_, fun plain => .inl ⟨rfl, plain⟩⟩
  rcases named with ⟨-, plain⟩ | ⟨other, -⟩
  · exact plain
  · exact absurd other (by decide)

theorem misnamed_javascript_iff : Misnamed path "javascript" ↔ EndsAsTypeScript path := by
  refine ⟨fun named => ?_, fun typed => .inr ⟨rfl, typed⟩⟩
  rcases named with ⟨other, -⟩ | ⟨-, typed⟩
  · exact absurd other (by decide)
  · exact typed

/-- The parser of scripts records the language that was detected unless the path tells another. -/
theorem languageOf_eq_iff (spoken : language ∈ ["javascript", "typescript"]) :
    JavaScript.languageOf path = language ↔ ¬ Misnamed path language := by
  by_cases typed : EndsAsTypeScript path
  · rw [languageOf_of_endsAsTypeScript typed]
    rcases List.mem_pair.mp spoken with rfl | rfl
    · rw [misnamed_javascript_iff]
      exact iff_of_false (by decide) (not_not_intro typed)
    · rw [misnamed_typescript_iff]
      exact iff_of_true rfl (not_not_intro typed)
  · rw [languageOf_of_not_endsAsTypeScript typed]
    rcases List.mem_pair.mp spoken with rfl | rfl
    · rw [misnamed_javascript_iff]
      exact iff_of_true rfl typed
    · rw [misnamed_typescript_iff]
      exact iff_of_false (by decide) (not_not_intro typed)

/-! ## Definitive suffixes -/

theorem sigma_not_mem_definitive :
    ∀ entry ∈ Language.definitive, 'ς' ∉ entry.1.toList ∧ 'σ' ∉ entry.1.toList := by
  decide

theorem typescript_definitive :
    ∀ entry ∈ Language.definitive, entry.2 = "typescript" →
      entry.1 ∈ [".ts", ".tsx", ".mts", ".cts"] := by
  decide

theorem javascript_definitive :
    ∀ entry ∈ Language.definitive, entry.2 = "javascript" →
      ∀ ending ∈ [".ts", ".tsx", ".mts", ".cts"],
        ¬ ending.toList <:+ entry.1.toList ∧ ¬ entry.1.toList <:+ ending.toList := by
  decide

/-- A definitive suffix is an ending of the path. -/
theorem lastSuffix_suffix (listed : (lastSuffix path, language) ∈ Language.definitive) :
    (lastSuffix path).toList <:+ (Text.lower path).toList := by
  have free := sigma_not_mem_definitive _ listed
  rw [lastSuffix, Text.lower, String.toList_ofList] at free
  rw [lastSuffix, Text.lower, Text.lower, String.toList_ofList, String.toList_ofList]
  exact Text.lowerChars_suffix
    ((Path.nameSuffix_suffix _).trans (Text.afterLast_suffix '/' path)) free

/-- A definitive suffix tells its language. -/
theorem not_misnamed_of_mem (listed : (lastSuffix path, language) ∈ Language.definitive) :
    ¬ Misnamed path language := by
  have ends := lastSuffix_suffix listed
  rintro (⟨script, plain⟩ | ⟨script, ending, mem, ends'⟩)
  · exact plain ⟨_, typescript_definitive _ listed script, ends⟩
  · obtain ⟨apart, apart'⟩ := javascript_definitive _ listed script ending mem
    exact (List.suffix_or_suffix_of_suffix ends' ends).elim apart apart'

theorem Definitive.afterLast_ne {name : String} (definitive : Definitive path)
    (bare : Path.nameSuffix name = "") : Text.afterLast '/' path ≠ name := by
  rintro rfl
  rw [Definitive, lastSuffix, bare] at definitive
  exact absurd definitive (by decide +kernel)

/-- It is the suffix of the path. -/
theorem Definitive.lower_suffix (definitive : Definitive path) :
    Text.lower (Path.suffix path) = lastSuffix path := by
  rw [Path.suffix, Path.fileName_eq_afterLast (definitive.afterLast_ne (by decide +kernel))
    (definitive.afterLast_ne (by decide +kernel)), lastSuffix]

theorem exists_lookup_of_mem {table : List (String × String)} {key : String}
    (listed : key ∈ table.map (·.1)) :
    ∃ value, table.lookup key = some value ∧ (key, value) ∈ table := by
  cases found : table.lookup key with
  | some value =>
    obtain ⟨before, after, rfl, -⟩ := List.lookup_eq_some_iff.mp found
    exact ⟨value, rfl, List.mem_append_right before List.mem_cons_self⟩
  | none =>
    obtain ⟨entry, mem, rfl⟩ := List.mem_map.mp listed
    exact absurd rfl (bne_iff_ne.mp (List.lookup_eq_none_iff.mp found entry mem))

theorem detect_of_lookup
    (found : Language.definitive.lookup (Text.lower (Path.suffix path)) = some language)
    (content : Option String) : Language.detect path content = language := by
  unfold Language.detect
  dsimp only
  rw [found]

/-- A definitive suffix decides what is detected. -/
theorem Definitive.detect_mem (definitive : Definitive path) (content : Option String) :
    (lastSuffix path, Language.detect path content) ∈ Language.definitive := by
  obtain ⟨language, found, mem⟩ := exists_lookup_of_mem definitive
  rw [← definitive.lower_suffix] at found
  rwa [detect_of_lookup found content]

end

/-! ## Analyses -/

theorem language_addItem (a : FileAnalysis) (item : Outline.Item) :
    (Outline.addItem a item).language = a.language := by
  cases item <;> rfl

theorem language_collect (g : Outline.Grammar) (language content path : String)
    (root : Outline.Node) : (Outline.collect g language content path root).language = language :=
  List.foldlRecOn (motive := fun a => a.language = language) _ Outline.addItem rfl
    fun a same item _ => (language_addItem a item).trans same

theorem language_withSize (content : String) (a : FileAnalysis) :
    (withSize content a).language = a.language := by
  rw [withSize]
  split <;> rfl

section

variable {path content language : String} {a : FileAnalysis}

theorem language_parseScript (read : parseScript content path = .ok a) :
    a.language = JavaScript.languageOf path := by
  obtain ⟨m, rfl⟩ := exists_of_parseScript read
  dsimp only [JavaScript.analyse]

theorem language_parsePython (read : parsePython content path = .ok a) :
    a.language = "python" := by
  obtain ⟨body, made⟩ := exists_of_parsePython read
  obtain ⟨functions, classes, top, -, -, -, rfl⟩ := Python.exists_of_analyse made
  rfl

end

section

variable {f : Faults} {library : GrammarLibrary} {path content language : String} {routed : Routed}

/-- A reading records the language that was detected, unless it is that of a script whose path
tells another. -/
theorem Decision.language_eq_iff
    (h : Decision (f.components library) path content language routed) :
    routed.analysis.language = language ↔ ¬ (routed.tier = .regex ∧ Misnamed path language) := by
  have outlined : ∀ {a}, (f.components library).structural language content path = .ok a →
      a.language = language := by
    intro a read
    obtain ⟨g, root, rfl⟩ := GrammarLibrary.exists_of_analyse (eq_ok_of_barring read)
    exact language_collect g language content path root
  cases h with
  | script spoken read =>
    rw [language_parseScript (eq_ok_of_barring read), languageOf_eq_iff spoken]
    exact not_congr (and_iff_right rfl).symm
  | python spoken read =>
    subst spoken
    exact iff_of_true (language_parsePython (eq_ok_of_barring read)) nofun
  | treeInstead _ _ read => exact iff_of_true (outlined read) nofun
  | tree _ _ read => exact iff_of_true (outlined read) nofun
  | measuredInstead => exact iff_of_true rfl nofun
  | measuredForTree => exact iff_of_true rfl nofun
  | measured => exact iff_of_true rfl nofun

theorem Decision.tier_ne_failed
    (h : Decision (f.components library) path content language routed) :
    routed.tier ≠ .failed := by
  cases h <;> exact nofun

/-- The surveys of files whose language is detected. -/
theorem surveyed_of_detected
    (detected : (f.components library).detectLanguage path content = .ok language) :
    ((f.components library).surveyed path content).tier ≠ .failed ∧
      ((f.components library).surveyed path content).language = language ∧
      (((f.components library).surveyed path content).analysis.language = language ↔
        ¬ (((f.components library).surveyed path content).tier = .regex ∧
          Misnamed path language)) := by
  have decided : Decision (f.components library) path content language
      ((f.components library).reading path content language) := decision_reading
  simp only [Components.surveyed, detected]
  rw [language_withSize]
  exact ⟨decided.tier_ne_failed, trivial, decided.language_eq_iff⟩

end

/-! ## Surveyed files -/

/-- Whatever fails, the language of a file and that of its analysis agree, unless the parser of
scripts has read it and its path tells another language than was detected. They agree in
particular if the path has a definitive suffix. -/
theorem recorded_language_agrees_iff (f : Faults) (library : GrammarLibrary)
    (path content : String) {r : Run} (sound : r.session.Sound (f.components library)) :
    ∃ file r', (surveyFile (f.components library) path content).run r = (file, r') ∧
      (file.tier = .failed ↔
        ∃ failure, (f.components library).detectLanguage path content = .error failure) ∧
      (file.tier ≠ .failed → file.language = Language.detect path (some content)) ∧
      (file.analysis.language = file.language ↔
        ¬ (file.tier = .regex ∧ Misnamed path file.language)) ∧
      (Definitive path → file.analysis.language = file.language) := by
  obtain ⟨r', ran, -⟩ := gives_surveyFile path content r sound
  refine ⟨_, r', ran, ?_⟩
  cases detected : (f.components library).detectLanguage path content with
  | error failure =>
    have failed : (f.components library).surveyed path content =
        .failed path ("Analysis failed: " ++ failure.message) := by
      simp only [Components.surveyed, detected]
    rw [failed]
    refine ⟨iff_of_true rfl ⟨failure, rfl⟩, fun other => absurd rfl other,
      iff_of_true rfl ?_, fun _ => rfl⟩
    rintro ⟨other, -⟩
    cases other
  | ok language =>
    obtain rfl : Language.detect path (some content) = language :=
      Except.ok.inj (eq_ok_of_barring detected)
    obtain ⟨read, same, agrees⟩ := surveyed_of_detected detected
    rw [same]
    refine ⟨iff_of_false read ?_, fun _ => rfl, agrees, fun definitive => ?_⟩
    · rintro ⟨failure, failed⟩
      cases failed
    · exact agrees.mpr fun misread =>
        not_misnamed_of_mem (definitive.detect_mem (some content)) misread.2

/-- When no script can be parsed, a file without a suffix is recorded as what it is. -/
theorem recorded_language_agrees_iff_of_broken_scripts :
    Session.Sound (brokenScripts.components {}) {} ∧
      ∃ file r',
        (surveyFile (brokenScripts.components {}) "tool" "interface A {}").run {} = (file, r') ∧
        (file.tier = .failed ↔ ∃ failure,
          (brokenScripts.components {}).detectLanguage "tool" "interface A {}" =
            .error failure) ∧
        (file.tier ≠ .failed →
          file.language = Language.detect "tool" (some "interface A {}")) ∧
        (file.analysis.language = file.language ↔
          ¬ (file.tier = .regex ∧ Misnamed "tool" file.language)) ∧
        (Definitive "tool" → file.analysis.language = file.language) := by
  have new : Session.Sound (brokenScripts.components {}) {} := nofun
  exact ⟨new, recorded_language_agrees_iff brokenScripts {} "tool" "interface A {}" new⟩

/-- A file that has no suffix and is detected as TypeScript is recorded as JavaScript. -/
theorem not_recorded_language_agrees :
    ¬ ∀ path content : String,
      (((surveyFile (usual {}) path content).run {}).1.tier ≠ .failed →
        ((surveyFile (usual {}) path content).run {}).1.analysis.language =
          ((surveyFile (usual {}) path content).run {}).1.language) := by
  intro agree
  exact absurd (agree "tool" "interface A {}") (by decide +kernel)

end RepoSurvey.Survey
