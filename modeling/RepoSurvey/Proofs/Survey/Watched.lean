import RepoSurvey.Proofs.Survey.Alone

/-!
# Surveys that are watched

Whoever watches a survey meets it at two kinds of steps: the survey makes a
report, which may be refused, or it asks whether it was called off. The list
of these steps is the *course* of a survey, and it is the same for all
watchers (`follows_surveySources`, `follows_overview`). What a watcher does to a
survey is therefore a matter of the course alone: `Watch.follow` gives the
reports that are made and the failure, if any, with which the watcher ends it.

`Follows` says of an attempt that it follows a course and then has an outcome.
A survey that nobody watches has that outcome (`ofSources_eq`).
-/

namespace RepoSurvey.Survey

/-! ## Courses -/

/-- A step of a survey that a watcher takes part in. -/
inductive Step where
  /-- It asks whether it was called off. -/
  | ask
  /-- It makes a report. -/
  | tell (report : Report)

/-- The reports along a course. -/
def reportsOf (course : List Step) : List Report :=
  course.filterMap fun
    | .ask => none
    | .tell report => some report

/-- The reports made along a course after `told` others, and the failure with
which the watcher ends it. -/
def Watch.follow (w : Watch) : Nat → List Step → List Report × Option Failure
  | _, [] => ([], none)
  | told, .ask :: rest => if w.isCancelled told then ([], some .cancelled) else w.follow told rest
  | told, .tell report :: rest =>
    match w.refuse (told + 1) with
    | some failure => ([report], some failure)
    | none => (report :: (w.follow (told + 1) rest).1, (w.follow (told + 1) rest).2)

section

variable {w : Watch} {told : Nat} {p rest : List Step} {heard : List Report} {failure : Failure}

theorem follow_ask (calm : w.isCancelled told = false) :
    w.follow told (.ask :: rest) = w.follow told rest := by
  simp only [Watch.follow, calm, Bool.false_eq_true, ↓reduceIte]

theorem follow_ask_of_isCancelled (cancelled : w.isCancelled told = true) :
    w.follow told (.ask :: rest) = ([], some .cancelled) := by
  simp only [Watch.follow, cancelled, ↓reduceIte]

theorem follow_tell {report : Report} (heeded : w.refuse (told + 1) = none) :
    w.follow told (.tell report :: rest) =
      (report :: (w.follow (told + 1) rest).1, (w.follow (told + 1) rest).2) := by
  simp only [Watch.follow, heeded]

theorem follow_tell_of_refuse {report : Report} (refused : w.refuse (told + 1) = some failure) :
    w.follow told (.tell report :: rest) = ([report], some failure) := by
  simp only [Watch.follow, refused]

/-- A course goes on with another, unless a watcher ends it. -/
theorem follow_append (p q : List Step) : w.follow told (p ++ q) =
    match w.follow told p with
    | (heard, some failure) => (heard, some failure)
    | (heard, none) =>
      (heard ++ (w.follow (told + heard.length) q).1, (w.follow (told + heard.length) q).2) := by
  induction p generalizing told with
  | nil => rfl
  | cons step rest ih =>
    rw [List.cons_append]
    cases step with
    | ask =>
      cases cancelled : w.isCancelled told with
      | true => rw [follow_ask_of_isCancelled cancelled, follow_ask_of_isCancelled cancelled]
      | false => rw [follow_ask cancelled, follow_ask cancelled, ih]
    | tell report =>
      cases refused : w.refuse (told + 1) with
      | some failure => rw [follow_tell_of_refuse refused, follow_tell_of_refuse refused]
      | none =>
        rw [follow_tell refused, follow_tell refused, ih]
        cases w.follow (told + 1) rest with
        | mk heard stop =>
          cases stop with
          | some failure => rfl
          | none =>
            have told' : told + 1 + heard.length = told + (report :: heard).length := by
              rw [List.length_cons]
              omega
            simp only [told', List.cons_append]

/-- A watcher ends a course by calling the survey off or by refusing the last report made. -/
theorem stops_of_follow (stopped : w.follow told p = (heard, some failure)) :
    failure = .cancelled ∧ w.isCancelled (told + heard.length) = true ∨
      w.refuse (told + heard.length) = some failure := by
  induction p generalizing told heard with
  | nil => cases stopped
  | cons step rest ih =>
    cases step with
    | ask =>
      cases cancelled : w.isCancelled told with
      | true =>
        rw [follow_ask_of_isCancelled cancelled] at stopped
        cases stopped
        exact .inl ⟨rfl, cancelled⟩
      | false =>
        rw [follow_ask cancelled] at stopped
        exact ih stopped
    | tell report =>
      cases refused : w.refuse (told + 1) with
      | some other =>
        rw [follow_tell_of_refuse refused] at stopped
        cases stopped
        exact .inr refused
      | none =>
        rw [follow_tell refused] at stopped
        obtain ⟨rfl, stop⟩ := Prod.mk.inj stopped
        have later := ih (Prod.ext rfl stop : w.follow (told + 1) rest = (_, some failure))
        rwa [List.length_cons, Nat.add_comm _ 1, ← Nat.add_assoc]

theorem isCancelled_iff {c n : Nat} (called : w.cancelAfter = some c) :
    w.isCancelled n = true ↔ c ≤ n := by
  simp only [Watch.isCancelled, called, Option.any_some, decide_eq_true_eq]

theorem isCancelled_eq_false_iff {c n : Nat} (called : w.cancelAfter = some c) :
    w.isCancelled n = false ↔ n < c := by
  rw [← Bool.not_eq_true, isCancelled_iff called, Nat.not_le]

theorem isCancelled_of_le {reports later : Nat} (earlier : reports ≤ later)
    (calm : w.isCancelled later = false) : w.isCancelled reports = false := by
  cases called : w.cancelAfter with
  | none => simp only [Watch.isCancelled, called, Option.any_none]
  | some c =>
    rw [isCancelled_eq_false_iff called] at calm ⊢
    exact Nat.lt_of_le_of_lt earlier calm

/-- Who never refuses a report and has not called the survey off by its last one hears all. -/
theorem follow_of_calm (heeds : ∀ n, w.refuse n = none)
    (calm : w.isCancelled (told + (reportsOf p).length) = false) :
    w.follow told p = (reportsOf p, none) := by
  induction p generalizing told with
  | nil => rfl
  | cons step rest ih =>
    cases step with
    | ask =>
      rw [follow_ask (isCancelled_of_le (Nat.le_add_right _ _) calm)]
      exact ih calm
    | tell report =>
      have later : w.follow (told + 1) rest = (reportsOf rest, none) :=
        ih (by rwa [Nat.add_right_comm, Nat.add_assoc])
      rw [follow_tell (heeds _), later]
      rfl

end

/-! ## Attempts that follow a course -/

variable {k : Components} {w : Watch} {α β : Type} {before between after : Session → Prop}

/-- The outcome, barring a failure that comes before it. -/
def barring (failure : Option Failure) (outcome : Except Failure α) : Except Failure α :=
  match failure with
  | some failure => .error failure
  | none => outcome

/-- From all sessions of one kind the attempt follows a course to an outcome,
and leaves a session of another. -/
def Follows (w : Watch) (before after : Session → Prop) (x : Attempt α) (course : List Step)
    (outcome : Except Failure α) : Prop :=
  ∀ r : Run, before r.session → ∃ r' : Run,
    x.run.run r = (barring (w.follow r.reports.length course).2 outcome, r') ∧
      after r'.session ∧ r'.reports = r.reports ++ (w.follow r.reports.length course).1

theorem Ends.follows {x : Attempt α} {outcome : Except Failure α}
    (h : Ends before after x outcome) : Follows w before after x [] outcome := by
  intro r kind
  obtain ⟨r', ran, kind', silent⟩ := h r kind
  exact ⟨r', ran, kind', by rw [silent, Watch.follow, List.append_nil]⟩

theorem follows_checkCancelled : Follows w before before (checkCancelled w) [.ask] (.ok ()) := by
  intro r kind
  refine ⟨r, ?_, kind, ?_⟩
  · show (if w.isCancelled r.reports.length then throw .cancelled else pure () :
      Attempt Unit).run.run r = _
    cases cancelled : w.isCancelled r.reports.length with
    | true => rw [follow_ask_of_isCancelled cancelled]; rfl
    | false => rw [follow_ask cancelled]; rfl
  · cases cancelled : w.isCancelled r.reports.length with
    | true => rw [follow_ask_of_isCancelled cancelled, List.append_nil]
    | false => rw [follow_ask cancelled, Watch.follow, List.append_nil]

theorem follows_announce (report : Report) :
    Follows w before before (announce w report) [.tell report] (.ok ()) := by
  intro r kind
  refine ⟨{ r with reports := r.reports ++ [report] }, ?_, kind, ?_⟩
  · show (match w.refuse (r.reports ++ [report]).length with
      | some failure => throw failure
      | none => pure () : Attempt Unit).run.run { r with reports := r.reports ++ [report] } = _
    rw [List.length_append, List.length_singleton]
    cases refused : w.refuse (r.reports.length + 1) with
    | some failure => rw [follow_tell_of_refuse refused]; rfl
    | none => rw [follow_tell refused]; rfl
  · cases refused : w.refuse (r.reports.length + 1) with
    | some failure => rw [follow_tell_of_refuse refused]
    | none => rw [follow_tell refused, Watch.follow]

/-- An attempt that ends on its own account goes no further. -/
theorem Follows.bind_error {x : Attempt α} {f : α → Attempt β} {p : List Step} {failure : Failure}
    (first : Follows w before after x p (.error failure)) :
    Follows w before after (x >>= f) p (.error failure) := by
  intro r kind
  obtain ⟨r', ran, kind', heard⟩ := first r kind
  refine ⟨r', ?_, kind', heard⟩
  have bare : StateT.run x.run r = _ := ran
  rw [ExceptT.run_bind, StateT.run_bind, bare]
  cases (w.follow r.reports.length p).2 <;> rfl

theorem Follows.bind {x : Attempt α} {f : α → Attempt β} {p q : List Step} {a : α}
    {outcome : Except Failure β} (first : Follows w before between x p (.ok a))
    (second : Follows w between between (f a) q outcome) :
    Follows w before between (x >>= f) (p ++ q) outcome := by
  intro r kind
  obtain ⟨r', ran, kind', heard⟩ := first r kind
  have bare : StateT.run x.run r = _ := ran
  rw [ExceptT.run_bind, StateT.run_bind, bare]
  rw [follow_append]
  cases along : w.follow r.reports.length p with
  | mk reports stop =>
    rw [along] at heard
    cases stop with
    | some failure => exact ⟨r', rfl, kind', heard⟩
    | none =>
      -- the second attempt starts with the reports of the first already made
      obtain ⟨r'', ran', kind'', heard'⟩ := second r' kind'
      have told : r'.reports.length = r.reports.length + reports.length := by
        rw [heard, List.length_append]
      rw [told] at ran' heard'
      refine ⟨r'', ran', kind'', ?_⟩
      rw [heard', heard, List.append_assoc]

/-- A silent attempt before a course does not show. -/
theorem Ends.bind_follows {x : Attempt α} {f : α → Attempt β} {q : List Step} {a : α}
    {outcome : Except Failure β} (first : Ends before between x (.ok a))
    (second : Follows w between between (f a) q outcome) :
    Follows w before between (x >>= f) q outcome :=
  first.follows.bind second

/-- A silent attempt after a course does not show. -/
theorem Follows.bind_ends {x : Attempt α} {f : α → Attempt β} {p : List Step} {a : α}
    {outcome : Except Failure β} (first : Follows w before between x p (.ok a))
    (second : Ends between between (f a) outcome) :
    Follows w before between (x >>= f) p outcome := by
  have whole := first.bind (second.follows (w := w))
  rwa [List.append_nil] at whole

/-- What comes after a silent attempt depends on its outcome; after a failure nothing comes. -/
theorem Ends.bind_course {x : Attempt α} {f : α → Attempt β} {outcome : Except Failure α}
    {next : α → Except Failure β} {course : Except Failure β → List Step}
    (first : Ends before before x outcome) (failed : ∀ failure, course (.error failure) = [])
    (second : ∀ a, Follows w before before (f a) (course (next a)) (next a)) :
    Follows w before before (x >>= f) (course (outcome >>= next)) (outcome >>= next) := by
  cases outcome with
  | ok a => exact first.bind_follows (second a)
  | error failure =>
    show Follows w before before (x >>= f) (course (.error failure)) (.error failure)
    rw [failed]
    exact first.follows.bind_error

/-! ## Files -/

/-- The reports after each of some files, of which `done` are done before. -/
def progress (describe : Nat → String → Report) (done : Nat) : List String → List Report
  | [] => []
  | path :: rest => describe (done + 1) path :: progress describe (done + 1) rest

/-- The course that asks before every report. -/
def asking (reports : List Report) : List Step :=
  reports.flatMap fun report => [.ask, .tell report]

theorem follows_surveyRest (describe : Nat → String → Report) (done : Nat)
    (files : Table String) :
    Follows w (Session.Ready k) (Session.Ready k) (surveyRest k w describe done files)
      (asking (progress describe done files.keys)) (.ok (surveyedEach k files)) := by
  induction files generalizing done with
  | nil => exact (ends_pure _).follows
  | cons file rest ih =>
    obtain ⟨path, content⟩ := file
    rw [surveyRest]
    show Follows w _ _ _ ([.ask] ++ ([.tell (describe (done + 1) path)] ++
      asking (progress describe (done + 1) (Table.keys rest)))) _
    refine follows_checkCancelled.bind ?_
    refine (gives_surveyAdmitted path content).ends.bind_follows ?_
    refine (follows_announce _).bind ?_
    exact (ih (done + 1)).bind_ends (ends_pure _)

/-- The course of the survey of files at some paths. -/
def filesCourse (paths : List String) : List Step :=
  asking (progress (analysedReport paths.length) 0 paths)

/-- The files of a survey are surveyed one by one. -/
theorem follows_surveySources (sources : Table String) :
    Follows w (Session.Sound k) (Session.Ready k) (surveySources k w sources)
      (filesCourse sources.keys) (.ok (surveyedEach k sources)) := by
  rw [surveySources, surveyFiles, filesCourse, Table.keys, List.length_map]
  refine Follows.bind_ends (gives_openSession.ends.bind_follows (follows_surveyRest _ _ _)) ?_
  dsimp only
  split
  · exact (gives_note _ _ _).ends.bind_ok (ends_pure _)
  · exact ends_pure _

/-! ## Overviews -/

/-- The overview of surveyed files, without what making it leaves behind. -/
def overviewOf (k : Components) (config : Config) (repository : String)
    (files : Table SurveyedFile) : Except Failure Overview := do
  let frameworks ← k.frameworks config.detection (corpusOf files)
  let endpoints ← k.endpoints (corpusOf files)
  let states ← k.states (corpusOf files)
  let events ← k.events (corpusOf files)
  return Overview.ofSurvey config.aggregation repository files frameworks
    { endpoints := endpoints, states := states, events := events }

/-- The report before the detectors look at the files. -/
def detectingReport : Report :=
  percent 70 "Detecting patterns..."

/-- The reports when the detectors are done. -/
def closingReports : List Report :=
  [percent 90 "Aggregating results...", percent 100 "Analysis complete"]

/-- The course from the detectors to their outcome. -/
def closingCourse : Except Failure Overview → List Step
  | .ok _ => closingReports.map .tell
  | .error _ => []

/-- The course on which surveyed files become an overview. -/
def overviewCourse (outcome : Except Failure Overview) : List Step :=
  [.ask, .tell detectingReport] ++ closingCourse outcome

theorem follows_makeOverview (config : Config) (repository : String)
    (files : Table SurveyedFile) :
    Follows w before before (makeOverview k w config repository files)
      (overviewCourse (overviewOf k config repository files))
      (overviewOf k config repository files) := by
  rw [makeOverview, overviewCourse, overviewOf]
  refine follows_checkCancelled.bind ((follows_announce _).bind ?_)
  have failed : ∀ failure, closingCourse (.error failure) = [] := fun _ => rfl
  refine (ends_detectFrameworks _ _).bind_course failed fun frameworks => ?_
  refine (ends_detectIn _ _).bind_course failed fun endpoints => ?_
  refine (ends_detectIn _ _).bind_course failed fun states => ?_
  refine (ends_detectIn _ _).bind_course failed fun events => ?_
  refine (gives_note _ _ _).ends.bind_follows ((follows_announce _).bind ?_)
  exact (gives_record _).ends.bind_follows ((follows_announce _).bind_ends (ends_pure _))

/-- The course of the survey of sources. -/
def sourcesCourse (k : Components) (config : Config) (repository : String)
    (sources : Table String) : List Step :=
  filesCourse sources.keys ++ overviewCourse (overviewOf k config repository (surveyedEach k sources))

/-- Surveying sources and making their overview. -/
theorem follows_overview (config : Config) (repository : String) (sources : Table String) :
    Follows w (Session.Sound k) (Session.Ready k)
      (do
        let files ← surveySources k w sources
        makeOverview k w config repository files)
      (sourcesCourse k config repository sources)
      (overviewOf k config repository (surveyedEach k sources)) :=
  (follows_surveySources sources).bind (follows_makeOverview config repository _)

/-! ## Whole surveys -/

/-- What becomes of the outcome of a survey: only being called off is a failure. -/
def settledOutcome (repository : String) : Except Failure Overview → Except Failure Overview
  | .ok overview => .ok overview
  | .error .cancelled => .error .cancelled
  | .error failure => .ok (Overview.empty repository (some failure.message))

theorem run_tryCatch (x : Attempt α) (handle : Failure → Attempt α) (r : Run) :
    (tryCatch x handle).run.run r = match x.run.run r with
      | (.ok a, r') => (.ok a, r')
      | (.error failure, r') => (handle failure).run.run r' := by
  show (ExceptT.tryCatch x handle).run.run r = _
  rw [ExceptT.tryCatch, ExceptT.run_mk, StateT.run_bind]
  generalize ran : x.run.run r = result
  obtain ⟨outcome, r'⟩ := result
  have bare : StateT.run x r = (outcome, r') := ran
  rw [bare]
  cases outcome with
  | ok a => rfl
  | error failure => rfl

/-- Settling a survey changes its outcome, and nothing that a watcher notices. -/
theorem Follows.settled {survey : Attempt Overview} {course : List Step}
    {outcome : Except Failure Overview} (h : Follows w before after survey course outcome)
    (repository what : String) {r : Run} (kind : before r.session) :
    ∃ r' : Run, (settled repository what survey).run.run r =
        (settledOutcome repository
          (barring (w.follow r.reports.length course).2 outcome), r') ∧
      after r'.session ∧ r'.reports = r.reports ++ (w.follow r.reports.length course).1 := by
  obtain ⟨r', ran, kind', heard⟩ := h r kind
  rw [Survey.settled, run_tryCatch, ran]
  cases barring (w.follow r.reports.length course).2 outcome with
  | ok overview => exact ⟨r', rfl, kind', heard⟩
  | error failure =>
    have emptied : Ends after after
        (do
          liftM (note .error surveyPart
            ("Analysis of " ++ what ++ " failed: " ++ failure.message))
          pure (Overview.empty repository (some failure.message)))
        (.ok (Overview.empty repository (some failure.message))) :=
      (gives_note _ _ _).ends.bind_ok (ends_pure _)
    cases failure
    case cancelled => exact ⟨r', rfl, kind', heard⟩
    all_goals
      obtain ⟨r'', ended, kind'', silent⟩ := emptied r' kind'
      exact ⟨r'', ended, kind'', silent.trans heard⟩

/-- The survey of sources, as its watcher sees it. -/
theorem exists_run_ofSources (w : Watch) (config : Config) (repository : String)
    {sources : Table String} (nonempty : sources ≠ []) {r : Run} (sound : r.session.Sound k) :
    ∃ r' : Run, (ofSources k w config repository sources).run.run r =
        (settledOutcome repository (barring
          (w.follow r.reports.length (sourcesCourse k config repository sources)).2
          (overviewOf k config repository (surveyedEach k sources))), r') ∧
      r'.session.Ready k ∧ r'.reports = r.reports ++
        (w.follow r.reports.length (sourcesCourse k config repository sources)).1 := by
  rw [ofSources, List.isEmpty_eq_false_iff.mpr nonempty]
  exact (follows_overview config repository sources).settled repository "in-memory sources" sound

/-! ## Surveys that nobody disturbs -/

/-- The watcher heeds every report and never calls a survey off. -/
structure Watch.Calm (w : Watch) : Prop where
  /-- No report is refused. -/
  heeds : ∀ n, w.refuse n = none
  /-- The survey is not called off. -/
  stays : w.cancelAfter = none

theorem calm_unwatched : ({} : Watch).Calm :=
  ⟨fun _ => rfl, rfl⟩

theorem Watch.Calm.follow (calm : w.Calm) (told : Nat) (course : List Step) :
    w.follow told course = (reportsOf course, none) := by
  refine follow_of_calm calm.heeds ?_
  rw [isCancelled, calm.stays, Option.any_none]

theorem follow_unwatched (told : Nat) (course : List Step) :
    ({} : Watch).follow told course = (reportsOf course, none) :=
  calm_unwatched.follow told course

/-- The files of a survey, when nobody watches. -/
theorem ends_surveySources (sources : Table String) (r : Run) (sound : r.session.Sound k) :
    ∃ r' : Run, (surveySources k {} sources).run.run r = (.ok (surveyedEach k sources), r') ∧
      r'.session.Ready k := by
  obtain ⟨r', ran, ready, -⟩ := follows_surveySources (w := {}) sources r sound
  rw [follow_unwatched] at ran
  exact ⟨r', ran, ready⟩

/-- The outcome of a survey of sources that nobody disturbs. -/
def sourcesOutcome (k : Components) (config : Config) (repository : String)
    (sources : Table String) : Except Failure Overview :=
  if sources.isEmpty then .ok (Overview.empty repository none)
  else settledOutcome repository (overviewOf k config repository (surveyedEach k sources))

theorem ofSources_of_calm (calm : w.Calm) (config : Config) (repository : String)
    (sources : Table String) {r : Run} (sound : r.session.Sound k) :
    ((ofSources k w config repository sources).run.run r).1 =
      sourcesOutcome k config repository sources := by
  by_cases nonempty : sources = []
  · subst nonempty
    rfl
  · obtain ⟨r', ran, -⟩ := exists_run_ofSources w config repository nonempty sound
    rw [ran, calm.follow, sourcesOutcome, List.isEmpty_eq_false_iff.mpr nonempty]
    rfl

/-- The survey of sources, in any session that is new or was set up for the same components. -/
theorem ofSources_eq (config : Config) (repository : String) (sources : Table String) {r : Run}
    (sound : r.session.Sound k) :
    ((ofSources k {} config repository sources).run.run r).1 =
      sourcesOutcome k config repository sources :=
  ofSources_of_calm calm_unwatched config repository sources sound

end RepoSurvey.Survey
