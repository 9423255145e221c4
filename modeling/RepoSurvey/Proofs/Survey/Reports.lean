import RepoSurvey.Proofs.Overview.Folders
import RepoSurvey.Proofs.Survey.Reordered

/-!
# Overviews and single reports

An overview and the single reports come about in two ways: for an overview
findings are detected once and then sorted into folders, for a report they are
detected again. Both carry the same findings (`overview_and_reports_agree`):
what lies in the folders, file by file in order of path, is what a report
lists, and the confidences in the summary are those of the reported frameworks.

There is one exception. Evidence that cannot be measured (`Framework.OffScale`)
fails the detection of frameworks, and with it the overview as a whole, while
the reports of routes, state and events do not ask for frameworks
(`findings_lost_off_scale`). Over a positive floor that does not happen.
-/

namespace RepoSurvey.Survey

open Detection

/-! ## Reports -/

section

variable {α : Type} {k : Components} {before : Session → Prop}

theorem ends_reportOf {detector : Attempt α} {outcome : Except Failure α}
    (h : Ends before before detector outcome) (reportOf : α → Json) (corpus : Corpus) :
    Ends before before
      (do
        let found ← detector
        let json ← pure (reportOf found)
        record (skipRecords corpus)
        return json)
      (outcome.map reportOf) := by
  have made : outcome.map reportOf = outcome >>= fun found => .ok (reportOf found) := by
    cases outcome <;> rfl
  rw [made]
  refine h.bind fun found => (ends_pure _).bind_ok ?_
  exact (gives_record _).ends.bind_ok (ends_pure _)

theorem ends_report_api (settings : DetectionSettings) (corpus : Corpus) :
    Ends before before (report k settings .api corpus)
      ((k.endpoints corpus).map fun found => Route.reportOf found corpus) :=
  ends_reportOf (ends_detectIn _ _) _ corpus

theorem ends_report_state (settings : DetectionSettings) (corpus : Corpus) :
    Ends before before (report k settings .state corpus)
      ((k.states corpus).map fun found => State.reportOf found corpus) :=
  ends_reportOf (ends_detectIn _ _) _ corpus

theorem ends_report_events (settings : DetectionSettings) (corpus : Corpus) :
    Ends before before (report k settings .events corpus)
      ((k.events corpus).map fun found => Event.reportOf found corpus) :=
  ends_reportOf (ends_detectIn _ _) _ corpus

theorem ends_report_frameworks (settings : DetectionSettings) (corpus : Corpus) :
    Ends before before (report k settings .frameworks corpus)
      ((k.frameworks settings corpus).map fun found =>
        Framework.reportOf Framework.profiles found corpus) :=
  ends_reportOf (ends_detectFrameworks _ _) _ corpus

theorem Ends.run_eq {x : Attempt α} {outcome : Except Failure α}
    (h : Ends (fun _ => True) (fun _ => True) x outcome) (r : Run) : (x.run.run r).1 = outcome := by
  obtain ⟨_, ran, -⟩ := h r trivial
  rw [ran]

end

/-! ## Agreement -/

/-- The single reports on a corpus tell what an overview holds. -/
structure Told (k : Components) (config : Config) (corpus : Corpus) (o : Overview) : Prop where
  /-- The report on routes lists the routes in the folders. -/
  api : ∀ r, ((report k config.detection .api corpus).run.run r).1 =
    .ok (Route.reportOf (o.attached Findings.endpoints) corpus)
  /-- The report on state lists the changes of state in the folders. -/
  state : ∀ r, ((report k config.detection .state corpus).run.run r).1 =
    .ok (State.reportOf (o.attached Findings.states) corpus)
  /-- The report on events lists the events in the folders. -/
  events : ∀ r, ((report k config.detection .events corpus).run.run r).1 =
    .ok (Event.reportOf (o.attached Findings.events) corpus)
  /-- The summary holds the confidence in the reported frameworks, if asked to and any are. -/
  frameworks : ∃ found,
    (∀ r, ((report k config.detection .frameworks corpus).run.run r).1 =
      .ok (Framework.reportOf Framework.profiles found corpus)) ∧
    o.summary.frameworks =
      if config.aggregation.includeFrameworks && !found.isEmpty then
        some (Framework.confidences found)
      else none

section

variable {library : GrammarLibrary} {config : Config} {repository : String}

theorem frameworks_ofSurvey (settings : AggregationSettings) (files : Table SurveyedFile)
    (found : List (FrameworkDetection Float)) (all : Findings) :
    (Overview.ofSurvey settings repository files found all).summary.frameworks =
      if settings.includeFrameworks && !found.isEmpty then some (Framework.confidences found)
      else none := by
  show (if (if settings.includeFrameworks then found else []).isEmpty then none
    else some (Framework.confidences (if settings.includeFrameworks then found else []))) = _
  cases settings.includeFrameworks with
  | false => rfl
  | true => cases found <;> rfl

/-- The overview of surveyed files is told by the reports on their corpus. -/
theorem told_ofSurvey {files : Table SurveyedFile} {found : List (FrameworkDetection Float)}
    (legible : Route.AllLegible (corpusOf files))
    (named : ∀ entry ∈ corpusOf files, entry.2.path = entry.1)
    (distinct : (corpusOf files).keys.Nodup)
    (detected : Framework.detect (Framework.ofSettings config.detection) Framework.profiles
      (corpusOf files) = .ok found) :
    Told (usual library) config (corpusOf files)
      (Overview.ofSurvey config.aggregation repository files found
        (allFindings (corpusOf files))) where
  api := by
    rw [Overview.attached_ofSurvey named distinct (fun _ => rfl)
      (gathered_eq_flatMap (Route.nameFiles legible) distinct)]
    intro r
    rw [(ends_report_api _ _).run_eq]
    show (Route.detect _).map _ = _
    rw [Route.detect_eq legible]
    rfl
  state := by
    rw [Overview.attached_ofSurvey named distinct (fun _ => rfl)
      (gathered_eq_flatMap (State.nameFiles _) distinct)]
    exact (ends_report_state _ _).run_eq
  events := by
    rw [Overview.attached_ofSurvey named distinct (fun _ => rfl)
      (gathered_eq_flatMap (Event.nameFiles _) distinct)]
    exact (ends_report_events _ _).run_eq
  frameworks := by
    refine ⟨found, fun r => ?_, frameworks_ofSurvey _ _ _ _⟩
    rw [(ends_report_frameworks _ _).run_eq]
    show (Framework.detect _ _ _).map _ = _
    rw [detected]
    rfl

/-- Evidence that cannot be measured leaves an empty overview. -/
theorem ofSources_of_offScale {sources : Table String} (nonempty : sources ≠ []) {r : Run}
    (sound : r.session.Sound (usual library))
    (off : Framework.OffScale (Framework.ofSettings config.detection) Framework.profiles
      (corpusOf (surveyedEach (usual library) sources))) :
    ((ofSources (usual library) {} config repository sources).run.run r).1 =
      .ok (Overview.empty repository (some Failure.noScale.message)) := by
  rw [ofSources_eq config repository sources sound, sourcesOutcome,
    List.isEmpty_eq_false_iff.mpr nonempty, overviewOf_eq allLegible_corpusOf,
    (Framework.failsIff_detect ..).eq_error off]
  rfl

/-- An overview and the single reports agree and lose nothing, unless there is
evidence for a framework that cannot be measured: then the overview is empty
and says so. Where the least scale is positive there is no such evidence. -/
theorem overview_and_reports_agree (config : Config) (repository : String)
    {sources : Table String} (nonempty : sources ≠ []) (distinct : sources.keys.Nodup) {r : Run}
    (sound : r.session.Sound (usual library)) :
    ∃ files o,
      ((surveySources (usual library) {} sources).run.run r).1 = .ok files ∧
      ((ofSources (usual library) {} config repository sources).run.run r).1 = .ok o ∧
      (¬ Framework.OffScale (Framework.ofSettings config.detection) Framework.profiles
          (corpusOf files) →
        o.paths.Perm sources.keys ∧ Told (usual library) config (corpusOf files) o) ∧
      (Framework.OffScale (Framework.ofSettings config.detection) Framework.profiles
          (corpusOf files) →
        o = Overview.empty repository (some Failure.noScale.message)) ∧
      (0 < config.detection.floor →
        ¬ Framework.OffScale (Framework.ofSettings config.detection) Framework.profiles
          (corpusOf files)) := by
  obtain ⟨_, surveyed, -⟩ := ends_surveySources sources r sound
  by_cases off : Framework.OffScale (Framework.ofSettings config.detection) Framework.profiles
    (corpusOf (surveyedEach (usual library) sources))
  · exact ⟨_, _, congrArg Prod.fst surveyed, ofSources_of_offScale nonempty sound off,
      fun on => absurd off on, fun _ => rfl,
      fun positive => Framework.not_offScale_of_floor_pos positive⟩
  · obtain ⟨found, detected⟩ := (Framework.failsIff_detect ..).exists_ok off
    have ended := ofSources_eq config repository sources sound
    rw [sourcesOutcome, List.isEmpty_eq_false_iff.mpr nonempty, overviewOf_eq allLegible_corpusOf,
      detected] at ended
    refine ⟨_, _, congrArg Prod.fst surveyed, ended, fun _ => ⟨?_, ?_⟩, fun on => absurd on off,
      fun positive => Framework.not_offScale_of_floor_pos positive⟩
    · rw [← keys_corpusOf_surveyedEach]
      exact Overview.perm_paths_ofSurvey fun _ => path_of_mem_corpusOf
    · exact told_ofSurvey allLegible_corpusOf (fun _ => path_of_mem_corpusOf)
        (by rwa [keys_corpusOf_surveyedEach]) detected

end

/-! ## Evidence without a scale -/

/-- A script that calls a setter. -/
def loneSetter : Table String :=
  [("a.js", "setX(1)")]

theorem overview_and_reports_agree_of_setter :
    loneSetter ≠ [] ∧ loneSetter.keys.Nodup ∧
      ∃ files o,
        ((surveySources (usual {}) {} loneSetter).run.run {}).1 = .ok files ∧
        ((ofSources (usual {}) {} {} "." loneSetter).run.run {}).1 = .ok o ∧
        (¬ Framework.OffScale (Framework.ofSettings {}) Framework.profiles (corpusOf files) →
          o.paths.Perm loneSetter.keys ∧ Told (usual {}) {} (corpusOf files) o) ∧
        (Framework.OffScale (Framework.ofSettings {}) Framework.profiles (corpusOf files) →
          o = Overview.empty "." (some Failure.noScale.message)) ∧
        (0 < ({} : DetectionSettings).floor →
          ¬ Framework.OffScale (Framework.ofSettings {}) Framework.profiles (corpusOf files)) := by
  have filled : loneSetter ≠ [] := nofun
  have distinct : loneSetter.keys.Nodup := by decide
  exact ⟨filled, distinct, overview_and_reports_agree {} "." filled distinct nofun⟩

/-- A configuration under which every scale is zero, although frameworks are not asked for. -/
def unscaled : Config where
  detection := { damping := 0, floor := 0 }
  aggregation := { includeFrameworks := false }

/-- The setter counts for a framework that cannot be measured under this configuration. -/
theorem offScale_loneSetter :
    Framework.OffScale (Framework.ofSettings unscaled.detection) Framework.profiles
      (corpusOf (surveyedEach (usual {}) loneSetter)) := by
  refine ⟨Framework.react, List.mem_cons_self, ?_, ?_⟩
  · decide +kernel
  · decide +kernel

theorem State.length_eq_of_reportOf {found found' : List StateChange} {corpus : Corpus}
    (same : State.reportOf found corpus = State.reportOf found' corpus) :
    found.length = found'.length := by
  simp only [State.reportOf, Detection.report, Json.obj.injEq, List.cons.injEq, Prod.mk.injEq,
    Json.arr.injEq, true_and, and_true] at same
  have listed := congrArg List.length same.2
  rwa [List.length_map, List.length_map] at listed

/-- The report on state lists a change that is in no folder. -/
theorem findings_lost_off_scale :
    ¬ ∀ (library : GrammarLibrary) (config : Config) (repository : String)
        (sources : Table String), sources ≠ [] → sources.keys.Nodup → ∀ files o,
      ((surveySources (usual library) {} sources).run.run {}).1 = .ok files →
      ((ofSources (usual library) {} config repository sources).run.run {}).1 = .ok o →
        ((report (usual library) config.detection .state (corpusOf files)).run.run {}).1 =
          .ok (State.reportOf (o.attached Findings.states) (corpusOf files)) := by
  intro claim
  have filled : loneSetter ≠ [] := nofun
  -- the setter is found, but the overview is empty, so the report would have to be empty, too
  have new : ({} : Run).session.Sound (usual {}) := nofun
  obtain ⟨_, surveyed, -⟩ := ends_surveySources loneSetter {} new
  have lost : ((ofSources (usual {}) {} unscaled "." loneSetter).run.run {}).1 = _ :=
    ofSources_of_offScale filled new offScale_loneSetter
  have told := claim {} unscaled "." loneSetter filled (by decide) _ _ (congrArg Prod.fst surveyed)
    lost
  rw [(ends_report_state _ _).run_eq] at told
  have lengths := State.length_eq_of_reportOf (Except.ok.inj told)
  have detected : (State.detect (corpusOf (surveyedEach (usual {}) loneSetter))).length = 1 := by
    decide +kernel
  rw [Overview.attached_empty] at lengths
  exact absurd (detected.symm.trans lengths) (by decide)

end RepoSurvey.Survey
