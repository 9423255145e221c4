import RepoSurvey.Proofs.Scan.Reading
import RepoSurvey.Proofs.Survey.Reordered
import RepoSurvey.Proofs.Survey.Schedule

/-!
# A repository is surveyed like its files

The survey of a repository chooses the files, reads them, and then does what a survey of sources
does, so its outcome is that of the sources it has read (`ofRepository_of_calm`). Where the chosen
files hold texts within the limits, those are the sources, and it does not matter whether they
come from a disk or from memory (`disk_and_memory_agree`): the two overviews differ in the name of
the repository only.
-/

namespace RepoSurvey.Survey

open Detection

variable {k : Components} {w : Watch} {config : Config} {overrides : Overrides}
  {ws : Scan.Workspace} {repository : String} {choice : Scan.Choice} {r : Run}

/-! ## The survey of a repository -/

/-- In a repository of which no file is chosen none is read, and there is nothing to detect. -/
theorem follows_repository_of_nothing {settings : ScanSettings}
    (scanned : Scan.scan ws settings repository = .ok choice) (nothing : choice.paths = []) :
    Follows w (Session.Sound k) (Session.Sound k)
      (do
        let files ← surveyRepository k w settings ws repository
        if files.isEmpty then return Overview.empty repository none
        else makeOverview k w config repository files)
      [.tell openingReport] (.ok (Overview.empty repository none)) := by
  have chosen : Ends (Session.Sound k) (Session.Sound k)
      (attempt (Scan.scan ws settings repository)) (.ok choice) := by
    rw [scanned]
    exact ends_attempt _
  have found : Follows w (Session.Sound k) (Session.Sound k)
      (surveyRepository k w settings ws repository) [.tell openingReport] (.ok []) := by
    rw [surveyRepository]
    refine (follows_announce openingReport).bind_ends ?_
    refine chosen.bind_ok ((gives_record _).ends.bind_ok ((gives_note _ _ _).ends.bind_ok ?_))
    rw [nothing]
    exact ends_pure _
  exact found.bind_ends (ends_pure _)

/-- The survey of a repository, in any session that is new or was set up for the same
components, is that of the sources it reads. -/
theorem ofRepository_of_calm (calm : w.Calm)
    (scanned : Scan.scan ws (overrides.applyTo config.scan) repository = .ok choice)
    (sound : r.session.Sound k) :
    ((ofRepository k w config overrides ws repository).run.run r).1 =
      sourcesOutcome k config repository
        (sourcesIn ws (overrides.applyTo config.scan) repository choice.paths) := by
  rw [ofRepository]
  by_cases nothing : choice.paths = []
  · obtain ⟨r', ran, -⟩ :=
      (follows_repository_of_nothing scanned nothing).settled repository repository sound
    rw [ran, calm.follow, nothing]
    rfl
  · obtain ⟨r', ran, -⟩ :=
      (follows_repository scanned nothing).settled repository repository sound
    have filled : (sourcesIn ws (overrides.applyTo config.scan) repository choice.paths).isEmpty =
        false := by
      rw [sourcesIn, List.isEmpty_map, List.isEmpty_eq_false_iff.mpr nothing]
    rw [ran, calm.follow, sourcesOutcome, filled]
    rfl

/-! ## The name of the repository -/

theorem settledOutcome_map (elsewhere : String) (outcome : Except Failure Overview) :
    settledOutcome repository (outcome.map fun o => { o with repository := repository }) =
      (settledOutcome elsewhere outcome).map fun o => { o with repository := repository } := by
  cases outcome with
  | ok o => rfl
  | error failure => cases failure <;> rfl

theorem overviewOf_map (elsewhere : String) (files : Table SurveyedFile) :
    overviewOf k config repository files =
      (overviewOf k config elsewhere files).map fun o => { o with repository := repository } := by
  rw [overviewOf, overviewOf]
  cases k.frameworks config.detection (corpusOf files) with
  | error failure => rfl
  | ok frameworks =>
    cases k.endpoints (corpusOf files) with
    | error failure => rfl
    | ok endpoints =>
      cases k.states (corpusOf files) with
      | error failure => rfl
      | ok states => cases k.events (corpusOf files) <;> rfl

/-- What a survey of sources finds does not depend on the name of the repository. -/
theorem sourcesOutcome_map (elsewhere : String) (sources : Table String) :
    sourcesOutcome k config repository sources = (sourcesOutcome k config elsewhere sources).map
      fun o => { o with repository := repository } := by
  rw [sourcesOutcome, sourcesOutcome, overviewOf_map elsewhere, settledOutcome_map elsewhere]
  split <;> rfl

/-! ## Disk and memory -/

/-- With the usual components a survey of sources gives an overview. -/
theorem exists_sourcesOutcome (library : GrammarLibrary) (config : Config) (repository : String)
    (sources : Table String) :
    ∃ o, sourcesOutcome (usual library) config repository sources = .ok o := by
  rw [sourcesOutcome, overviewOf_eq allLegible_corpusOf]
  split
  · exact ⟨_, rfl⟩
  · cases detected : Framework.detect (Framework.ofSettings config.detection) Framework.profiles
        (corpusOf (surveyedEach (usual library) sources)) with
    | error failure =>
      rw [((Framework.failsIff_detect ..).of_error detected).1]
      exact ⟨_, rfl⟩
    | ok found => exact ⟨_, rfl⟩

/-- Where the tree holds the sources, they are what is read from it. -/
theorem sourcesIn_eq {settings : ScanSettings} {e : Scan.Entry} {sources : Table String}
    (there : ws.entry? repository = some e) (proper : e.Proper) (undotted : e.Undotted)
    (held : ∀ source ∈ sources, e.Holds settings.maxFileSize source.1 source.2) :
    sourcesIn ws settings repository sources.keys = sources := by
  rw [sourcesIn, Table.keys, List.map_map]
  refine (List.map_congr_left fun source mem => ?_).trans (List.map_id sources)
  exact congrArg (fun read => (source.1, read.1))
    (Scan.readSource_of_holds there proper undotted (held source mem))

/-- Whether sources come from a disk or from memory does not matter. Where the files that are
chosen in a repository hold the texts of some sources, of a size within the limit and without
carriage returns, the survey of the repository and that of the sources give the same overview but
for the name of the repository. They give the empty one without an error when nothing is chosen. -/
theorem disk_and_memory_agree (library : GrammarLibrary) (config : Config) (overrides : Overrides)
    {ws : Scan.Workspace} {repository : String} (elsewhere : String) {e : Scan.Entry}
    (there : ws.entry? repository = some e) (proper : e.Proper) (undotted : e.Undotted)
    {choice : Scan.Choice}
    (scanned : Scan.scan ws (overrides.applyTo config.scan) repository = .ok choice)
    (sources : Table String) (chosen : sources.keys = choice.paths)
    (held : ∀ source ∈ sources,
      e.Holds (overrides.applyTo config.scan).maxFileSize source.1 source.2)
    {w w' : Watch} (calm : w.Calm) (calm' : w'.Calm) (r r' : Run)
    (sound : r.session.Sound (usual library)) (sound' : r'.session.Sound (usual library)) :
    (∃ o : Overview,
      ((ofRepository (usual library) w config overrides ws repository).run.run r).1 =
        .ok { o with repository := repository } ∧
      ((ofSources (usual library) w' config elsewhere sources).run.run r').1 =
        .ok { o with repository := elsewhere }) ∧
    (choice.paths = [] →
      ((ofRepository (usual library) w config overrides ws repository).run.run r).1 =
        .ok (Overview.empty repository none) ∧
      ((ofSources (usual library) w' config elsewhere sources).run.run r').1 =
        .ok (Overview.empty elsewhere none)) := by
  have onDisk := ofRepository_of_calm calm scanned sound
  rw [← chosen, sourcesIn_eq there proper undotted held] at onDisk
  have inMemory := ofSources_of_calm calm' config elsewhere sources sound'
  rw [onDisk, inMemory]
  constructor
  · obtain ⟨o, made⟩ := exists_sourcesOutcome library config elsewhere sources
    refine ⟨o, ?_, ?_⟩
    · rw [sourcesOutcome_map elsewhere, made]
      rfl
    · rw [sourcesOutcome_map elsewhere, made]
      rfl
  · intro nothing
    have none_given : sources = [] := by
      rw [nothing] at chosen
      exact List.map_eq_nil_iff.mp chosen
    rw [none_given]
    exact ⟨rfl, rfl⟩

/-- A repository with a script in a directory. -/
def smallApp : Scan.Entry :=
  .directory [("src", .directory [("a.js", .file "setX(1)".toUTF8)])]

/-- A working directory with that repository in it. -/
def besideApp : Scan.Workspace where
  location := "/work"
  tree := .directory [("app", smallApp)]

theorem proper_smallApp : smallApp.Proper := by
  refine .directory (by decide) (by decide +kernel) (List.forall_mem_singleton.mpr ?_)
  exact .directory (by decide) (by decide +kernel) (List.forall_mem_singleton.mpr (.file _))

theorem undotted_smallApp : smallApp.Undotted := by
  refine .directory (List.forall_mem_singleton.mpr (by decide)) (List.forall_mem_singleton.mpr ?_)
  exact .directory (List.forall_mem_singleton.mpr (by decide))
    (List.forall_mem_singleton.mpr (.file _))

theorem scan_besideApp :
    ∃ choice, Scan.scan besideApp ({} : Config).scan "app" = .ok choice ∧
      choice.paths = ["src/a.js"] := by
  have found : (Scan.scan besideApp ({} : Config).scan "app").map Scan.Choice.paths =
      .ok ["src/a.js"] := by
    decide +kernel
  exact Outcome.exists_of_map_ok found

theorem disk_and_memory_agree_of_smallApp :
    besideApp.entry? "app" = some smallApp ∧ smallApp.Proper ∧ smallApp.Undotted ∧
      smallApp.Holds (1024 * 1024) "src/a.js" "setX(1)" ∧
      ∃ o : Overview,
        ((ofRepository (usual {}) {} {} {} besideApp "app").run.run {}).1 =
          .ok { o with repository := "app" } ∧
        ((ofSources (usual {}) {} {} "." [("src/a.js", "setX(1)")]).run.run {}).1 =
          .ok { o with repository := "." } := by
  have there : besideApp.entry? "app" = some smallApp := rfl
  have held : smallApp.Holds (1024 * 1024) "src/a.js" "setX(1)" :=
    ⟨rfl, by decide +kernel, by decide⟩
  have new : Session.Sound (usual {}) {} := nofun
  obtain ⟨choice, scanned, paths⟩ := scan_besideApp
  have agree := disk_and_memory_agree {} {} {} "." there proper_smallApp undotted_smallApp scanned
    [("src/a.js", "setX(1)")] paths.symm (List.forall_mem_singleton.mpr held)
    calm_unwatched calm_unwatched {} {} new new
  exact ⟨there, proper_smallApp, undotted_smallApp, held, agree.1⟩

end RepoSurvey.Survey
