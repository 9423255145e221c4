import RepoSurvey.Proofs.Survey.Analyses

/-!
# Surveys of files in another order

Every file is surveyed as if it were alone, findings are sorted by the file
they name, and an overview sorts its folders and files. So the survey of one
set of sources ends the same way in whatever order the sources come
(`reordered_sources_agree`): with the same folders, the same findings and the
same sums. It also ends the same way whatever the session was used for before.
-/

namespace RepoSurvey.Survey

open Detection

variable {library : GrammarLibrary}

/-- Two corpora give the same findings, each list in order of file and line. -/
structure SameFindings (corpus corpus' : Corpus) : Prop where
  /-- The same routes are found. -/
  routes : ∃ found, Route.detect corpus = .ok found ∧
    Route.detect corpus' = .ok found ∧
      InPlaces Endpoint.file Endpoint.line found
  /-- The same changes of state are found. -/
  states : State.detect corpus = State.detect corpus'
  /-- They are in order. -/
  states_inPlaces :
    InPlaces StateChange.file StateChange.line (State.detect corpus)
  /-- The same events are found. -/
  events : Event.detect corpus = Event.detect corpus'
  /-- They are in order. -/
  events_inPlaces :
    InPlaces EventRecord.file EventRecord.line (Event.detect corpus)

/-- A corpus in two orders gives the same findings. -/
theorem sameFindings_of_perm {corpus corpus' : Corpus} (perm : corpus.Perm corpus')
    (distinct : corpus.keys.Nodup) (legible : Route.AllLegible corpus) :
    SameFindings corpus corpus' := by
  have same := allFindings_of_perm perm distinct legible
  have legible' : Route.AllLegible corpus' := fun entry mem =>
    legible entry (perm.mem_iff.mpr mem)
  exact {
    routes := by
      refine ⟨(allFindings corpus).endpoints, Route.detect_eq legible, ?_,
        inPlaces_gathered corpus⟩
      rw [Route.detect_eq legible', same]
      rfl
    states := congrArg Findings.states same
    states_inPlaces := by
      rw [State.detect_eq]
      exact inPlaces_gathered corpus
    events := congrArg Findings.events same
    events_inPlaces := by
      rw [Event.detect_eq]
      exact inPlaces_gathered corpus }

/-! ## Overviews -/

/-- With the usual components an overview can be missing only for want of the frameworks. -/
theorem overviewOf_eq {files : Table SurveyedFile}
    (legible : Route.AllLegible (corpusOf files)) (config : Config) (repository : String) :
    overviewOf (usual library) config repository files =
      (Framework.detect (Framework.ofSettings config.detection) Framework.profiles
        (corpusOf files)).map fun frameworks =>
          Overview.ofSurvey config.aggregation repository files frameworks
            (allFindings (corpusOf files)) := by
  show (Framework.detect _ _ _ >>= fun frameworks => Route.detect _ >>= _) = _
  rw [Route.detect_eq legible]
  cases Framework.detect (Framework.ofSettings config.detection) Framework.profiles
    (corpusOf files) <;> rfl

/-- Overviews that are alike for frameworks with the same titles, or the same failure. -/
theorem exists_settledOutcome_alike {repository : String}
    {outcome outcome' : Except Failure (List (FrameworkDetection Float))}
    {make make' : List (FrameworkDetection Float) → Overview}
    (only : ∀ failure, outcome = .error failure → failure = .noScale)
    (titles : outcome.map (List.map Framework.title) = outcome'.map (List.map Framework.title))
    (alike : ∀ found found', found.map Framework.title = found'.map Framework.title →
      (make found).Alike (make' found')) :
    ∃ o o', settledOutcome repository (outcome.map make) = .ok o ∧
      settledOutcome repository (outcome'.map make') = .ok o' ∧ o.Alike o' := by
  cases outcome with
  | error failure =>
    obtain rfl := only failure rfl
    cases outcome' with
    | error failure' =>
      cases titles
      exact ⟨_, _, rfl, rfl, Overview.alike_empty repository _⟩
    | ok found' => cases titles
  | ok found =>
    cases outcome' with
    | error failure' => cases titles
    | ok found' => exact ⟨_, _, rfl, rfl, alike found found' (Except.ok.inj titles)⟩

/-- Sources in two orders are surveyed with outcomes that are alike. -/
theorem exists_sourcesOutcome_of_perm (config : Config) (repository : String)
    {sources sources' : Table String} (perm : sources.Perm sources')
    (distinct : sources.keys.Nodup) :
    ∃ o o', sourcesOutcome (usual library) config repository sources = .ok o ∧
      sourcesOutcome (usual library) config repository sources' = .ok o' ∧ o.Alike o' := by
  rw [sourcesOutcome, sourcesOutcome, ← perm.isEmpty_eq]
  split
  · exact ⟨_, _, rfl, rfl, Overview.alike_empty repository none⟩
  · have files : (surveyedEach (usual library) sources).Perm
        (surveyedEach (usual library) sources') :=
      perm.map _
    have keys : (surveyedEach (usual library) sources).keys.Nodup := by
      rwa [keys_surveyedEach]
    have corpora := perm_corpusOf_surveyedEach (k := usual library) perm
    have findings : allFindings (corpusOf (surveyedEach (usual library) sources)) =
        allFindings (corpusOf (surveyedEach (usual library) sources')) :=
      allFindings_of_perm corpora (by rwa [keys_corpusOf_surveyedEach]) allLegible_corpusOf
    have titles := Framework.titles_detect_of_perm (Framework.ofSettings config.detection)
      Framework.profiles corpora
    rw [overviewOf_eq allLegible_corpusOf, overviewOf_eq allLegible_corpusOf, ← findings]
    exact exists_settledOutcome_alike
      (fun _ failed => ((Framework.failsIff_detect ..).of_error failed).1) titles
      fun found found' same => Overview.alike_ofSurvey _ _ _ files keys same

/-! ## Whole surveys -/

/-- The order of the sources does not matter. In new or used sessions, surveys
of the same sources in two orders succeed with overviews that are alike, and
each detector finds the same in the files of both. -/
theorem reordered_sources_agree (config : Config) (repository : String)
    {sources sources' : Table String} (perm : sources.Perm sources')
    (distinct : sources.keys.Nodup) {r r' : Run}
    (sound : r.session.Sound (usual library))
    (sound' : r'.session.Sound (usual library)) :
    (∃ o o',
      ((ofSources (usual library) {} config repository sources).run.run r).1 = .ok o ∧
      ((ofSources (usual library) {} config repository sources').run.run r').1 = .ok o' ∧
      o.Alike o') ∧
    ∃ files files',
      ((surveySources (usual library) {} sources).run.run r).1 = .ok files ∧
      ((surveySources (usual library) {} sources').run.run r').1 = .ok files' ∧
      SameFindings (corpusOf files) (corpusOf files') := by
  obtain ⟨o, o', ended, ended', alike⟩ :=
    exists_sourcesOutcome_of_perm config repository perm distinct
  obtain ⟨_, surveyed, -⟩ := ends_surveySources sources r sound
  obtain ⟨_, surveyed', -⟩ := ends_surveySources sources' r' sound'
  have keys : (corpusOf (surveyedEach (usual library) sources)).keys.Nodup := by
    rwa [keys_corpusOf_surveyedEach]
  refine ⟨⟨o, o', ?_, ?_, alike⟩, _, _, congrArg Prod.fst surveyed, congrArg Prod.fst surveyed',
    sameFindings_of_perm (perm_corpusOf_surveyedEach perm) keys allLegible_corpusOf⟩
  · rw [ofSources_eq config repository sources sound, ended]
  · rw [ofSources_eq config repository sources' sound', ended']

/-- A script and a Python source. -/
def twoSources : Table String :=
  [("lib/b.js", "function f() { setCount(1) }"), ("a.py", "item.save()")]

theorem reordered_sources_agree_of_two :
    twoSources.Perm twoSources.reverse ∧ twoSources.keys.Nodup ∧
      (∃ o o',
        ((ofSources (usual {}) {} {} "." twoSources).run.run {}).1 = .ok o ∧
        ((ofSources (usual {}) {} {} "." twoSources.reverse).run.run {}).1 = .ok o' ∧
        o.Alike o') ∧
      ∃ files files',
        ((surveySources (usual {}) {} twoSources).run.run {}).1 = .ok files ∧
        ((surveySources (usual {}) {} twoSources.reverse).run.run {}).1 = .ok files' ∧
        SameFindings (corpusOf files) (corpusOf files') := by
  have perm : twoSources.Perm twoSources.reverse := (List.reverse_perm twoSources).symm
  have distinct : twoSources.keys.Nodup := by decide
  exact ⟨perm, distinct, reordered_sources_agree {} "." perm distinct nofun nofun⟩

end RepoSurvey.Survey
