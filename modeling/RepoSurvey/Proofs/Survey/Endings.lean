import RepoSurvey.Proofs.Detection.Frameworks
import RepoSurvey.Proofs.Overview.Folders
import RepoSurvey.Proofs.Survey.Analyses

/-!
# How a survey can end

Any component of a survey may fail on any input, and a watcher may call the
survey off or refuse a report at any time. A failure inside a file stays there:
the file is read by another parser, or measured, or has an analysis that says
what went wrong. Only the detectors and the watcher can end a survey, and then
nothing is left of it (`all_or_nothing`): it is called off, or has a whole
overview, or has the empty one with the text of the failure.

A watcher asks and is told only between files, so a survey that is called off
while a file is read is called off when the next report is received.
-/

namespace RepoSurvey.Survey

open Detection

/-! ## Components that fail -/

/-- What each component of a survey fails with, by the inputs that it is given. -/
structure Faults where
  openLibrary : Option Failure := none
  detectLanguage : String → String → Option Failure := fun _ _ => none
  script : String → String → Option Failure := fun _ _ => none
  python : String → String → Option Failure := fun _ _ => none
  structural : String → String → String → Option Failure := fun _ _ _ => none
  admitFile : String → Option Failure := fun _ => none
  frameworks : Corpus → Option Failure := fun _ => none
  endpoints : Corpus → Option Failure := fun _ => none
  states : Corpus → Option Failure := fun _ => none
  events : Corpus → Option Failure := fun _ => none

/-- The usual components, except where they fail. -/
def Faults.components (f : Faults) (library : GrammarLibrary) : Components where
  library := library
  openLibrary := barring f.openLibrary (usual library).openLibrary
  detectLanguage path content :=
    barring (f.detectLanguage path content) ((usual library).detectLanguage path content)
  script content path := barring (f.script content path) ((usual library).script content path)
  python content path := barring (f.python content path) ((usual library).python content path)
  structural language content path :=
    barring (f.structural language content path) ((usual library).structural language content path)
  admitFile path := barring (f.admitFile path) ((usual library).admitFile path)
  frameworks settings corpus :=
    barring (f.frameworks corpus) ((usual library).frameworks settings corpus)
  endpoints corpus := barring (f.endpoints corpus) ((usual library).endpoints corpus)
  states corpus := barring (f.states corpus) ((usual library).states corpus)
  events corpus := barring (f.events corpus) ((usual library).events corpus)

theorem eq_ok_of_barring {α : Type} {failure : Option Failure} {outcome : Except Failure α} {a : α}
    (ok : barring failure outcome = .ok a) : outcome = .ok a := by
  cases failure with
  | some failure => cases ok
  | none => exact ok

/-- Components that may fail make no analyses that the usual ones do not make. -/
theorem Faults.makes {f : Faults} {library : GrammarLibrary} {path content : String}
    {good : FileAnalysis → Prop} (h : (usual library).Makes path content good) :
    (f.components library).Makes path content good where
  script := fun a read => h.script a (eq_ok_of_barring read)
  python := fun a read => h.python a (eq_ok_of_barring read)
  structural := fun language a read => h.structural language a (eq_ok_of_barring read)
  measured := h.measured
  failed := h.failed
  sized := h.sized

/-! ## Detectors that do not fail -/

/-- No detector fails on a corpus. -/
structure Detects (k : Components) (config : Config) (corpus : Corpus) : Prop where
  frameworks : ∃ found, k.frameworks config.detection corpus = .ok found
  endpoints : ∃ found, k.endpoints corpus = .ok found
  states : ∃ found, k.states corpus = .ok found
  events : ∃ found, k.events corpus = .ok found

section

variable {k : Components} {config : Config} {repository : String} {files : Table SurveyedFile}

theorem Detects.exists_overviewOf (detects : Detects k config (corpusOf files)) :
    ∃ o, overviewOf k config repository files = .ok o := by
  obtain ⟨frameworks, detected⟩ := detects.frameworks
  obtain ⟨endpoints, routed⟩ := detects.endpoints
  obtain ⟨states, changed⟩ := detects.states
  obtain ⟨events, handled⟩ := detects.events
  rw [overviewOf, detected, routed, changed, handled]
  exact ⟨_, rfl⟩

theorem exists_of_overviewOf {o : Overview} (made : overviewOf k config repository files = .ok o) :
    ∃ frameworks all, o = Overview.ofSurvey config.aggregation repository files frameworks all := by
  obtain ⟨frameworks, -, made⟩ := Outcome.exists_of_bind_ok made
  obtain ⟨endpoints, -, made⟩ := Outcome.exists_of_bind_ok made
  obtain ⟨states, -, made⟩ := Outcome.exists_of_bind_ok made
  obtain ⟨events, -, made⟩ := Outcome.exists_of_bind_ok made
  exact ⟨frameworks, _, (Except.ok.inj made).symm⟩

end

/-- Over a positive floor the usual detectors do not fail, whatever becomes of the files. -/
theorem Faults.detects {f : Faults} {library : GrammarLibrary} {config : Config}
    {sources : Table String}
    (frameworks : ∀ corpus, f.frameworks corpus = none)
    (endpoints : ∀ corpus, f.endpoints corpus = none)
    (states : ∀ corpus, f.states corpus = none) (events : ∀ corpus, f.events corpus = none)
    (positive : 0 < config.detection.floor) :
    Detects (f.components library) config
      (corpusOf (surveyedEach (f.components library) sources)) where
  frameworks := by
    simp only [Faults.components, frameworks, barring]
    exact (Framework.failsIff_detect ..).exists_ok (Framework.not_offScale_of_floor_pos positive)
  endpoints := by
    have legible : Route.AllLegible (corpusOf (surveyedEach (f.components library) sources)) :=
      fun _ mem => (Components.Makes.of_mem_corpusOf (fun _ _ => Faults.makes makes_legible) mem).1
    simp only [Faults.components, endpoints, barring]
    exact ⟨_, Route.detect_eq legible⟩
  states := by
    simp only [Faults.components, states, barring]
    exact ⟨_, rfl⟩
  events := by
    simp only [Faults.components, events, barring]
    exact ⟨_, rfl⟩

/-! ## Endings -/

/-- The overview is the one that a survey gives which nobody watches. It has no error, and
every file is in it and counted, as often as in the sources. -/
structure Whole (k : Components) (config : Config) (repository : String) (sources : Table String)
    (o : Overview) : Prop where
  undisturbed : sourcesOutcome k config repository sources = .ok o
  clean : o.error = none
  complete : o.paths.Perm sources.keys
  counted : o.summary.totalFiles = sources.length

/-- The failure is that with which the watcher refuses the last report, or that of a detector. -/
def Raised (k : Components) (w : Watch) (config : Config) (repository : String)
    (sources : Table String) (reports : Nat) (failure : Failure) : Prop :=
  w.refuse reports = some failure ∨
    overviewOf k config repository (surveyedEach k sources) = .error failure

/-- The ways in which a survey can end after some number of reports. -/
inductive Ending (k : Components) (w : Watch) (config : Config) (repository : String)
    (sources : Table String) (reports : Nat) : Except Failure Overview → Prop where
  /-- It was called off. -/
  | calledOff
      (off : w.isCancelled reports = true ∨ Raised k w config repository sources reports .cancelled) :
      Ending k w config repository sources reports (.error .cancelled)
  /-- It went through. -/
  | whole {o : Overview} (whole : Whole k config repository sources o) :
      Ending k w config repository sources reports (.ok o)
  /-- Something else went wrong. -/
  | emptied {failure : Failure} (other : failure ≠ .cancelled)
      (raised : Raised k w config repository sources reports failure) :
      Ending k w config repository sources reports
        (.ok (Overview.empty repository (some failure.message)))

section

variable {k : Components} {w : Watch} {config : Config} {repository : String}
  {sources : Table String} {reports : Nat}

theorem settledOutcome_error {failure : Failure} (other : failure ≠ .cancelled) :
    settledOutcome repository (.error failure) =
      .ok (Overview.empty repository (some failure.message)) := by
  cases failure
  case cancelled => exact absurd rfl other
  all_goals rfl

theorem Raised.ending {failure : Failure}
    (raised : Raised k w config repository sources reports failure) :
    Ending k w config repository sources reports (settledOutcome repository (.error failure)) := by
  by_cases off : failure = .cancelled
  · subst off
    exact .calledOff (.inr raised)
  · rw [settledOutcome_error off]
    exact .emptied off raised

/-- An empty overview is whole when there are no sources. -/
theorem whole_empty : Whole k config repository [] (Overview.empty repository none) where
  undisturbed := rfl
  clean := rfl
  complete := .refl []
  counted := rfl

/-- The overview of surveyed files is whole, if their analyses carry the paths of the files. -/
theorem whole_of_overviewOf {o : Overview} (nonempty : sources ≠ [])
    (named : ∀ entry ∈ corpusOf (surveyedEach k sources), entry.2.path = entry.1)
    (made : overviewOf k config repository (surveyedEach k sources) = .ok o) :
    Whole k config repository sources o := by
  have undisturbed : sourcesOutcome k config repository sources = .ok o := by
    rw [sourcesOutcome, List.isEmpty_eq_false_iff.mpr nonempty, made]
    rfl
  obtain ⟨frameworks, all, rfl⟩ := exists_of_overviewOf made
  refine ⟨undisturbed, rfl, ?_, ?_⟩
  · rw [← keys_corpusOf_surveyedEach (k := k)]
    exact Overview.perm_paths_ofSurvey named
  · show (corpusOf (surveyedEach k sources)).length = sources.length
    rw [corpusOf, Table.mapValues, List.length_map, surveyedEach, List.length_map]

/-- A survey whose analyses carry the paths of their files ends in one of three ways. -/
theorem exists_ending_ofSources
    (named : ∀ entry ∈ corpusOf (surveyedEach k sources), entry.2.path = entry.1)
    {r : Run} (sound : r.session.Sound k) :
    ∃ outcome r', (ofSources k w config repository sources).run.run r = (outcome, r') ∧
      Ending k w config repository sources r'.reports.length outcome := by
  by_cases nonempty : sources = []
  · subst nonempty
    exact ⟨_, r, rfl, .whole whole_empty⟩
  obtain ⟨r', ran, -, heard⟩ := exists_run_ofSources w config repository nonempty sound
  refine ⟨_, r', ran, ?_⟩
  have told := congrArg List.length heard
  rw [List.length_append] at told
  -- The watcher has the first word, and a detector only after it.
  cases along : w.follow r.reports.length (sourcesCourse k config repository sources) with
  | mk news stop =>
    rw [along] at told
    cases stop with
    | some failure =>
      have stopped := stops_of_follow along
      rw [← told] at stopped
      rcases stopped with ⟨rfl, off⟩ | refused
      · exact .calledOff (.inl off)
      · exact Raised.ending (.inl refused)
    | none =>
      cases made : overviewOf k config repository (surveyedEach k sources) with
      | ok o => exact .whole (whole_of_overviewOf nonempty named made)
      | error failure => exact Raised.ending (.inr made)

/-- Without a refused report and a failing detector nothing goes wrong. -/
theorem Ending.calledOff_or_whole {outcome : Except Failure Overview}
    (ending : Ending k w config repository sources reports outcome)
    (heeds : ∀ n, w.refuse n = none)
    (detects : Detects k config (corpusOf (surveyedEach k sources))) :
    outcome = .error .cancelled ∨ ∃ o, outcome = .ok o ∧ Whole k config repository sources o := by
  cases ending with
  | calledOff => exact .inl rfl
  | whole whole => exact .inr ⟨_, rfl, whole⟩
  | emptied _ raised =>
    rcases raised with refused | failed
    · rw [heeds] at refused
      cases refused
    · obtain ⟨o, made⟩ : ∃ o, overviewOf k config repository (surveyedEach k sources) = .ok o :=
        detects.exists_overviewOf
      rw [made] at failed
      cases failed

end

/-- Whatever fails and whatever the watcher does, a survey is called off, or has
a whole overview, or has the empty one with the text of a failure that a detector
or the watcher raised; with neither of these it is called off or whole. -/
theorem all_or_nothing (f : Faults) (library : GrammarLibrary) (w : Watch) (config : Config)
    (repository : String) (sources : Table String) {r : Run}
    (sound : r.session.Sound (f.components library)) :
    ∃ outcome r',
      (ofSources (f.components library) w config repository sources).run.run r = (outcome, r') ∧
      Ending (f.components library) w config repository sources r'.reports.length outcome ∧
      ((∀ n, w.refuse n = none) →
        Detects (f.components library) config
          (corpusOf (surveyedEach (f.components library) sources)) →
        outcome = .error .cancelled ∨
          ∃ o, outcome = .ok o ∧ Whole (f.components library) config repository sources o) := by
  have named : ∀ entry ∈ corpusOf (surveyedEach (f.components library) sources),
      entry.2.path = entry.1 :=
    fun _ mem => (Components.Makes.of_mem_corpusOf (fun _ _ => Faults.makes makes_legible) mem).2
  obtain ⟨outcome, r', ran, ending⟩ := exists_ending_ofSources named sound
  exact ⟨outcome, r', ran, ending, ending.calledOff_or_whole⟩

/-- No script can be parsed. -/
def brokenScripts : Faults where
  script _ _ := some (.fault "broken parser")

/-- A watcher that hears no second report. -/
def closing : Watch where
  refuse reports := if reports = 2 then some (.fault "closed pipe") else none

theorem all_or_nothing_of_broken_scripts :
    Session.Sound (brokenScripts.components {}) {} ∧
      ∃ outcome r',
        (ofSources (brokenScripts.components {}) closing {} "." [("a.js", "f()")]).run.run {} =
            (outcome, r') ∧
          Ending (brokenScripts.components {}) closing {} "." [("a.js", "f()")]
            r'.reports.length outcome ∧
          ((∀ n, closing.refuse n = none) →
            Detects (brokenScripts.components {}) {}
              (corpusOf (surveyedEach (brokenScripts.components {}) [("a.js", "f()")])) →
            outcome = .error .cancelled ∨ ∃ o, outcome = .ok o ∧
              Whole (brokenScripts.components {}) {} "." [("a.js", "f()")] o) := by
  have new : Session.Sound (brokenScripts.components {}) {} := nofun
  exact ⟨new, all_or_nothing brokenScripts {} closing {} "." [("a.js", "f()")] new⟩

/-- The watcher that closes leaves nothing of a survey. -/
example : ((ofSources (brokenScripts.components {}) closing {} "." [("a.js", "f()")]).run.run {}).1 =
    .ok (Overview.empty "." (some "closed pipe")) := by
  rfl

end RepoSurvey.Survey
