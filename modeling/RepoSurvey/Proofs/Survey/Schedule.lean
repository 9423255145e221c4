import RepoSurvey.Proofs.Survey.Endings

/-!
# The schedule of a survey

A survey in which nothing fails makes a fixed number of reports in percent:
one at the start of a repository, one for each file that is read, one for each
that is surveyed, and three at the end. Reading takes the percentages from 10
to 40 and surveying those from 40 to 70, so they never go back (`Climbs`).

A survey asks whether it was called off only before the first file is read,
before each is surveyed, and before the detectors set in. The reports made by
the last of these moments decide whether being called off is still noticed
(`Keeps`), and `schedules_kept` counts them.
-/

namespace RepoSurvey.Survey

/-! ## Percentages that never go back -/

/-- Reports in percent that climb from one percentage to another and never go back. -/
structure Climbs (low high : Nat) (reports : List Report) : Prop where
  hundred : ∀ report ∈ reports, report.total = 100
  within : ∀ report ∈ reports, low ≤ report.done ∧ report.done ≤ high
  rises : reports.Pairwise fun earlier later => earlier.done ≤ later.done

section

variable {low middle high : Nat} {reports later : List Report}

theorem climbs_percent (done : Nat) (text : String) : Climbs done done [percent done text] where
  hundred := by
    intro report mem
    rw [List.mem_singleton.mp mem]
    rfl
  within := by
    intro report mem
    rw [List.mem_singleton.mp mem]
    exact ⟨Nat.le_refl _, Nat.le_refl _⟩
  rises := List.pairwise_singleton _ _

/-- One phase after another, where the second begins at the end of the first. -/
theorem Climbs.append (first : Climbs low middle reports) (second : Climbs middle high later)
    (onwards : low ≤ middle) (up : middle ≤ high) : Climbs low high (reports ++ later) where
  hundred := by
    intro report mem
    rcases List.mem_append.mp mem with early | late
    · exact first.hundred report early
    · exact second.hundred report late
  within := by
    intro report mem
    rcases List.mem_append.mp mem with early | late
    · have bounds := first.within report early
      exact ⟨bounds.1, Nat.le_trans bounds.2 up⟩
    · have bounds := second.within report late
      exact ⟨Nat.le_trans onwards bounds.1, bounds.2⟩
  rises := by
    refine List.pairwise_append.mpr ⟨first.rises, second.rises, ?_⟩
    intro earlier early later late
    exact Nat.le_trans (first.within earlier early).2 (second.within later late).1

theorem Climbs.from_below (h : Climbs middle high reports) (lower : low ≤ middle) :
    Climbs low high reports where
  hundred := h.hundred
  within := by
    intro report mem
    have bounds := h.within report mem
    exact ⟨Nat.le_trans lower bounds.1, bounds.2⟩
  rises := h.rises

end

/-! ## Phases -/

section

variable {describe : Nat → String → Report} {done : Nat} {paths : List String} {report : Report}

@[simp] theorem length_progress :
    (progress describe done paths).length = paths.length := by
  induction paths generalizing done with
  | nil => rfl
  | cons path rest ih => rw [progress, List.length_cons, ih, List.length_cons]

/-- A report on progress follows one of the files. -/
theorem exists_of_mem_progress (mem : report ∈ progress describe done paths) :
    ∃ n path, done < n ∧ n ≤ done + paths.length ∧ report = describe n path := by
  induction paths generalizing done with
  | nil => cases mem
  | cons path rest ih =>
    rw [List.length_cons]
    rcases List.mem_cons.mp mem with now | later
    · exact ⟨done + 1, path, by omega, by omega, now⟩
    · obtain ⟨n, path, after, upTo, same⟩ := ih later
      exact ⟨n, path, by omega, by omega, same⟩

theorem phasePercent_mono (start span total : Nat) {n m : Nat} (le : n ≤ m) :
    phasePercent start span total n ≤ phasePercent start span total m :=
  Nat.add_le_add_left (Nat.div_le_div_right (Nat.mul_le_mul_right span le)) start

theorem phasePercent_le {start span total n : Nat} (le : n ≤ total) :
    phasePercent start span total n ≤ start + span := by
  have share : n * span / total ≤ span :=
    Nat.div_le_of_le_mul (Nat.mul_le_mul_right span le)
  exact Nat.add_le_add_left share start

/-- The reports of a phase climb from its start to its end. -/
theorem climbs_progress (start span : Nat) {total : Nat} (text : String → String)
    (all : done + paths.length ≤ total) :
    Climbs start (start + span)
      (progress (fun n path => percent (phasePercent start span total n) (text path)) done
        paths) where
  hundred := by
    intro report mem
    obtain ⟨n, path, -, -, rfl⟩ := exists_of_mem_progress mem
    rfl
  within := by
    intro report mem
    obtain ⟨n, path, -, upTo, rfl⟩ := exists_of_mem_progress mem
    exact ⟨Nat.le_add_right _ _, phasePercent_le (Nat.le_trans upTo all)⟩
  rises := by
    induction paths generalizing done with
    | nil => exact .nil
    | cons path rest ih =>
      rw [List.length_cons] at all
      refine List.pairwise_cons.mpr ⟨?_, ih (by omega)⟩
      intro later mem
      obtain ⟨n, path', after, -, rfl⟩ := exists_of_mem_progress mem
      exact phasePercent_mono start span total (Nat.le_of_lt after)

end

/-! ## Schedules -/

/-- The reports while the files at some paths are read. -/
def readingReports (paths : List String) : List Report :=
  progress (readReport paths.length) 0 paths

/-- The reports while the files at some paths are surveyed. -/
def analysingReports (paths : List String) : List Report :=
  progress (analysedReport paths.length) 0 paths

/-- The report before anything else. -/
def openingReport : Report :=
  percent 0 "Discovering files..."

/-- The reports after the last moment at which a survey can be called off. -/
def lastReports : List Report :=
  detectingReport :: closingReports

/-- The reports of a survey of sources. -/
def sourcesReports (paths : List String) : List Report :=
  analysingReports paths ++ lastReports

/-- The reports of a survey of a repository. -/
def repositoryReports (paths : List String) : List Report :=
  openingReport :: (readingReports paths ++ sourcesReports paths)

section

variable (paths : List String)

@[simp] theorem length_readingReports : (readingReports paths).length = paths.length :=
  length_progress

@[simp] theorem length_analysingReports : (analysingReports paths).length = paths.length :=
  length_progress

theorem length_sourcesReports : (sourcesReports paths).length = paths.length + 3 := by
  rw [sourcesReports, List.length_append, length_analysingReports]
  rfl

theorem length_repositoryReports : (repositoryReports paths).length = 2 * paths.length + 4 := by
  rw [repositoryReports, List.length_cons, List.length_append, length_readingReports,
    length_sourcesReports]
  omega

theorem climbs_lastReports : Climbs 70 100 lastReports := by
  have detecting : Climbs 70 70 [detectingReport] := climbs_percent 70 _
  have aggregating : Climbs 70 90 [percent 90 "Aggregating results..."] :=
    (climbs_percent 90 _).from_below (by decide)
  have complete : Climbs 90 100 [percent 100 "Analysis complete"] :=
    (climbs_percent 100 _).from_below (by decide)
  have closing : Climbs 70 100 closingReports :=
    aggregating.append complete (by decide) (by decide)
  exact detecting.append closing (by decide) (by decide)

theorem climbs_sourcesReports : Climbs 40 100 (sourcesReports paths) := by
  have analysing : Climbs 40 70 (analysingReports paths) :=
    climbs_progress 40 30 ("Analyzing " ++ ·) (Nat.le_of_eq (Nat.zero_add _))
  exact analysing.append climbs_lastReports (by decide) (by decide)

theorem climbs_repositoryReports : Climbs 0 100 (repositoryReports paths) := by
  have opening : Climbs 0 0 [openingReport] := climbs_percent 0 _
  have reading : Climbs 0 40 (readingReports paths) :=
    (climbs_progress 10 30 ("Reading " ++ ·) (Nat.le_of_eq (Nat.zero_add _))).from_below
      (by decide)
  have rest : Climbs 0 100 (readingReports paths ++ sourcesReports paths) :=
    reading.append (climbs_sourcesReports paths) (by decide) (by decide)
  exact opening.append rest (by decide) (by decide)

theorem getLast_sourcesReports :
    (sourcesReports paths).getLast? = some (percent 100 "Analysis complete") := by
  rw [sourcesReports, List.getLast?_append]
  rfl

theorem getLast_repositoryReports :
    (repositoryReports paths).getLast? = some (percent 100 "Analysis complete") := by
  rw [repositoryReports, ← List.singleton_append, ← List.append_assoc, List.getLast?_append,
    getLast_sourcesReports]
  rfl

end

/-! ## Courses of reports -/

theorem reportsOf_append (p q : List Step) :
    reportsOf (p ++ q) = reportsOf p ++ reportsOf q :=
  List.filterMap_append

theorem reportsOf_tells (reports : List Report) : reportsOf (reports.map .tell) = reports := by
  induction reports with
  | nil => rfl
  | cons report rest ih => exact congrArg (report :: ·) ih

theorem reportsOf_asking (reports : List Report) : reportsOf (asking reports) = reports := by
  induction reports with
  | nil => rfl
  | cons report rest ih => exact congrArg (report :: ·) ih

section

variable {w : Watch} {told c : Nat} {reports : List Report} {p rest : List Step}

/-- Nothing stops reports between which nobody is asked. -/
theorem follow_tells (heeds : ∀ n, w.refuse n = none) :
    w.follow told (reports.map .tell) = (reports, none) := by
  induction reports generalizing told with
  | nil => rfl
  | cons report rest ih =>
    rw [List.map_cons, follow_tell (heeds _), ih]

/-- A survey goes through unless it is called off by the time it last asks. -/
theorem follow_of_late (heeds : ∀ n, w.refuse n = none)
    (late : w.isCancelled (told + (reportsOf p).length) = false) :
    w.follow told (p ++ reports.map .tell) = (reportsOf p ++ reports, none) := by
  rw [follow_append, follow_of_calm heeds late]
  dsimp only
  rw [follow_tells heeds]

/-- A survey that asks before each report notices at once that it was called off. -/
theorem follow_asking (heeds : ∀ n, w.refuse n = none) (called : w.cancelAfter = some c)
    (soon : c ≤ told + reports.length) :
    w.follow told (asking reports ++ .ask :: rest) =
      (reports.take (c - told), some .cancelled) := by
  -- induction over the reports that are left, with those made before counted in `told`
  induction reports generalizing told with
  | nil =>
    have now : w.isCancelled told = true := (isCancelled_iff called).mpr soon
    show w.follow told (.ask :: rest) = _
    rw [follow_ask_of_isCancelled now, List.take_nil]
  | cons report others ih =>
    show w.follow told (.ask :: .tell report :: (asking others ++ .ask :: rest)) = _
    by_cases now : c ≤ told
    · have nothing : c - told = 0 := by omega
      rw [follow_ask_of_isCancelled ((isCancelled_iff called).mpr now), nothing, List.take_zero]
    · have soon' : c ≤ told + 1 + others.length := by
        rw [List.length_cons] at soon
        omega
      have one : c - told = (c - (told + 1)) + 1 := by omega
      have calm : w.isCancelled told = false :=
        (isCancelled_eq_false_iff called).mpr (Nat.lt_of_not_le now)
      rw [follow_ask calm, follow_tell (heeds _), ih soon', one, List.take_succ_cons]

end

/-! ## Keeping to a schedule -/

/-- A survey whose watcher refuses nothing makes the reports of a schedule and
has an overview, unless it is called off by the time of so many reports; then it
ends with as many as it had made when it next asked. -/
structure Keeps (survey : Watch → Attempt Overview) (r : Run) (schedule : List Report)
    (last : Nat) (heard : Nat → Nat) : Prop where
  completes : ∀ w : Watch, (∀ n, w.refuse n = none) → w.isCancelled last = false →
    ∃ o r', (survey w).run.run r = (.ok o, r') ∧ o.error = none ∧ r'.reports = schedule
  calledOff : ∀ (w : Watch) (c : Nat), (∀ n, w.refuse n = none) → w.cancelAfter = some c →
    c ≤ last → ∃ r', (survey w).run.run r = (.error .cancelled, r') ∧
      r'.reports = schedule.take (heard c) ∧ r'.reports.length = heard c

section

variable {w : Watch} {p : List Step} {o : Overview}

/-- A survey that is not called off by the time it last asks makes all its reports. -/
theorem follow_whole (heeds : ∀ n, w.refuse n = none)
    (late : w.isCancelled (reportsOf p).length = false) :
    w.follow 0 (p ++ overviewCourse (.ok o)) = (reportsOf p ++ lastReports, none) := by
  have asked : reportsOf (p ++ [.ask]) = reportsOf p := by
    rw [reportsOf_append]
    exact List.append_nil _
  have parts : p ++ overviewCourse (.ok o) = (p ++ [.ask]) ++ lastReports.map .tell := by
    rw [List.append_assoc]
    rfl
  rw [parts, follow_of_late heeds, asked]
  rwa [asked, Nat.zero_add]

end

/-- Surveying files on a course and making their overview keeps to a schedule,
when being called off on that course has the effect that is said. -/
theorem keeps_settled {before after : Session → Prop} {survey : Watch → Attempt Overview}
    {p : List Step} {o : Overview} {heard : Nat → Nat} {r : Run}
    (follows : ∀ w, Follows w before after (survey w) (p ++ overviewCourse (.ok o)) (.ok o))
    (clean : o.error = none) (repository what : String) (fresh : r.reports = [])
    (kind : before r.session)
    (calledOff : ∀ (w : Watch) (c : Nat) (rest : List Step), (∀ n, w.refuse n = none) →
      w.cancelAfter = some c → c ≤ (reportsOf p).length →
        w.follow 0 (p ++ .ask :: rest) = ((reportsOf p).take (heard c), some .cancelled))
    (enough : ∀ c, c ≤ (reportsOf p).length → heard c ≤ (reportsOf p).length) :
    Keeps (fun w => settled repository what (survey w)) r (reportsOf p ++ lastReports)
      (reportsOf p).length heard where
  completes := by
    intro w heeds late
    obtain ⟨r', ran, -, reports⟩ := (follows w).settled repository what kind
    rw [fresh, List.length_nil, follow_whole heeds late] at ran reports
    exact ⟨o, r', ran, clean, reports⟩
  calledOff := by
    intro w c heeds called soon
    obtain ⟨r', ran, -, reports⟩ := (follows w).settled repository what kind
    have stopped := calledOff w c (.tell detectingReport :: closingCourse (.ok o)) heeds called soon
    rw [fresh, List.length_nil] at ran reports
    have along : w.follow 0 (p ++ overviewCourse (.ok o)) = _ := stopped
    rw [along] at ran reports
    refine ⟨r', ran, ?_, ?_⟩
    · rw [reports, List.take_append_of_le_length (enough c soon)]
      rfl
    · rw [reports, List.nil_append, List.length_take]
      exact Nat.min_eq_left (enough c soon)

/-! ## Sources -/

section

variable {k : Components} {config : Config} {repository : String} {r : Run}

/-- Where no detector fails there is an overview, and it has no error. -/
theorem Detects.exists_clean {files : Table SurveyedFile}
    (detects : Detects k config (corpusOf files)) :
    ∃ o, overviewOf k config repository files = .ok o ∧ o.error = none := by
  obtain ⟨o, made⟩ : ∃ o, overviewOf k config repository files = .ok o :=
    detects.exists_overviewOf
  obtain ⟨frameworks, all, rfl⟩ := exists_of_overviewOf made
  exact ⟨_, made, rfl⟩

/-- The survey of sources keeps to its schedule. -/
theorem keeps_ofSources {sources : Table String} (nonempty : sources ≠ [])
    (detects : Detects k config (corpusOf (surveyedEach k sources)))
    (fresh : r.reports = []) (sound : r.session.Sound k) :
    Keeps (fun w => ofSources k w config repository sources) r (sourcesReports sources.keys)
      sources.length id := by
  obtain ⟨o, made, clean⟩ : ∃ o, overviewOf k config repository (surveyedEach k sources) = .ok o ∧
    o.error = none := detects.exists_clean
  have whole : (fun w => ofSources k w config repository sources) = fun w =>
      settled repository "in-memory sources" (do
        let files ← surveySources k w sources
        makeOverview k w config repository files) := by
    funext w
    rw [ofSources, List.isEmpty_eq_false_iff.mpr nonempty]
    rfl
  have told : reportsOf (filesCourse sources.keys) = analysingReports sources.keys :=
    reportsOf_asking _
  have count : (reportsOf (filesCourse sources.keys)).length = sources.length := by
    rw [told, length_analysingReports, Table.keys, List.length_map]
  have follows : ∀ w, Follows w (Session.Sound k) (Session.Ready k)
      (do
        let files ← surveySources k w sources
        makeOverview k w config repository files)
      (filesCourse sources.keys ++ overviewCourse (.ok o)) (.ok o) := by
    intro w
    rw [← made]
    exact follows_overview config repository sources
  rw [whole, sourcesReports, ← told, ← count]
  refine keeps_settled follows clean repository _ fresh sound ?_ fun c soon => soon
  intro w c rest heeds called soon
  rw [told] at soon ⊢
  exact follow_asking heeds called (by rwa [Nat.zero_add])

end

/-! ## Repositories -/

/-- The sources at some paths of a repository. -/
def sourcesIn (ws : Scan.Workspace) (settings : ScanSettings) (repository : String)
    (paths : List String) : Table String :=
  paths.map fun path => (path, (Scan.readSource ws settings repository path).1)

/-- The course on which the files of a repository are read and surveyed. -/
def repositoryCourse (paths : List String) : List Step :=
  .tell openingReport :: .ask :: ((readingReports paths).map .tell ++ filesCourse paths)

/-- How many reports the survey of a repository with `files` files has made
when it notices that it was called off after `c`. -/
def heardOfRepository (files c : Nat) : Nat :=
  if c ≤ 1 then 1 else if c ≤ files + 1 then files + 1 else c

section

variable {k : Components} {w : Watch} {ws : Scan.Workspace} {settings : ScanSettings}
  {repository : String} {paths : List String}

theorem keys_sourcesIn : (sourcesIn ws settings repository paths).keys = paths := by
  rw [sourcesIn, Table.keys, List.map_map]
  exact List.map_id _

theorem follows_readRest {before : Session → Prop} (total done : Nat) :
    Follows w before before (readRest w ws settings repository total done paths)
      ((progress (readReport total) done paths).map .tell)
      (.ok (sourcesIn ws settings repository paths)) := by
  induction paths generalizing done with
  | nil => exact (ends_pure _).follows
  | cons path rest ih =>
    rw [readRest]
    refine (gives_record _).ends.bind_follows ?_
    refine (follows_announce _).bind ?_
    exact (ih (done + 1)).bind_ends (ends_pure _)

/-- A new session may be one that was set up. -/
theorem Follows.of_ready {α : Type} {before : Session → Prop} {x : Attempt α} {course : List Step}
    {outcome : Except Failure α} (h : Follows w before (Session.Ready k) x course outcome) :
    Follows w before (Session.Sound k) x course outcome := by
  intro r kind
  obtain ⟨r', ran, ready, reports⟩ := h r kind
  exact ⟨r', ran, fun _ => ready, reports⟩

/-- The files of a repository are chosen, read one by one, and then surveyed one by one. -/
theorem follows_surveyRepository {choice : Scan.Choice}
    (scanned : Scan.scan ws settings repository = .ok choice) (found : choice.paths ≠ []) :
    Follows w (Session.Sound k) (Session.Sound k) (surveyRepository k w settings ws repository)
      (repositoryCourse choice.paths)
      (.ok (surveyedEach k (sourcesIn ws settings repository choice.paths))) := by
  have surveyed : Follows w (Session.Sound k) (Session.Sound k)
      (surveySources k w (sourcesIn ws settings repository choice.paths))
      (filesCourse (sourcesIn ws settings repository choice.paths).keys) (.ok _) :=
    (follows_surveySources _).of_ready
  rw [keys_sourcesIn] at surveyed
  have chosen : Ends (Session.Sound k) (Session.Sound k)
      (attempt (Scan.scan ws settings repository)) (.ok choice) := by
    rw [scanned]
    exact ends_attempt _
  have course : repositoryCourse choice.paths = [.tell openingReport] ++
      ([.ask] ++ ((readingReports choice.paths).map .tell ++ filesCourse choice.paths)) := rfl
  rw [surveyRepository, course]
  refine (follows_announce openingReport).bind ?_
  refine chosen.bind_follows ?_
  refine (gives_record _).ends.bind_follows ?_
  refine (gives_note _ _ _).ends.bind_follows ?_
  rw [List.isEmpty_eq_false_iff.mpr found]
  refine follows_checkCancelled.bind ?_
  exact (follows_readRest _ 0).bind surveyed

theorem reportsOf_repositoryCourse : reportsOf (repositoryCourse paths) =
    openingReport :: (readingReports paths ++ analysingReports paths) := by
  show openingReport :: reportsOf ((readingReports paths).map .tell ++ filesCourse paths) = _
  rw [reportsOf_append, reportsOf_tells, filesCourse, reportsOf_asking]
  rfl

/-- A survey that was called off by its first report ends with it, and one that was
called off while files are read ends when all are read. -/
theorem follow_repositoryCourse {c : Nat} {rest : List Step} (heeds : ∀ n, w.refuse n = none)
    (called : w.cancelAfter = some c) (soon : c ≤ (reportsOf (repositoryCourse paths)).length) :
    w.follow 0 (repositoryCourse paths ++ .ask :: rest) =
      ((reportsOf (repositoryCourse paths)).take (heardOfRepository paths.length c),
        some .cancelled) := by
  rw [reportsOf_repositoryCourse] at soon ⊢
  rw [List.length_cons, List.length_append, length_readingReports, length_analysingReports] at soon
  show w.follow 0 (.tell openingReport :: .ask :: ((readingReports paths).map .tell ++
    filesCourse paths ++ .ask :: rest)) = _
  rw [follow_tell (heeds _)]
  by_cases first : c ≤ 1
  · rw [follow_ask_of_isCancelled ((isCancelled_iff called).mpr first), heardOfRepository,
      if_pos first]
    rfl
  · have calm : w.isCancelled (0 + 1) = false :=
      (isCancelled_eq_false_iff called).mpr (Nat.lt_of_not_le first)
    have after : c ≤ 0 + 1 + (readingReports paths).length + (analysingReports paths).length := by
      rw [length_readingReports, length_analysingReports]
      omega
    have surveyed : w.follow (0 + 1 + (readingReports paths).length)
        (filesCourse paths ++ .ask :: rest) = _ :=
      follow_asking heeds called after
    have heard : heardOfRepository paths.length c =
        ((readingReports paths).length + (c - (0 + 1 + (readingReports paths).length))) + 1 := by
      rw [heardOfRepository, length_readingReports, if_neg first]
      split <;> omega
    rw [follow_ask calm, List.append_assoc, follow_append, follow_tells heeds]
    dsimp only
    rw [surveyed, heard, List.take_succ_cons, List.take_length_add_append]
    rfl

theorem heardOfRepository_le {files c : Nat} (soon : c ≤ 2 * files + 1) :
    heardOfRepository files c ≤ 2 * files + 1 := by
  rw [heardOfRepository]
  split
  · omega
  · split <;> omega

end

section

variable {k : Components} {config : Config} {repository : String} {r : Run}

/-- Choosing, reading and surveying the files of a repository and making their overview. -/
theorem follows_repository {w : Watch} {settings : ScanSettings} {ws : Scan.Workspace}
    {choice : Scan.Choice} (scanned : Scan.scan ws settings repository = .ok choice)
    (found : choice.paths ≠ []) :
    Follows w (Session.Sound k) (Session.Sound k)
      (do
        let files ← surveyRepository k w settings ws repository
        if files.isEmpty then return Overview.empty repository none
        else makeOverview k w config repository files)
      (repositoryCourse choice.paths ++ overviewCourse (overviewOf k config repository
        (surveyedEach k (sourcesIn ws settings repository choice.paths))))
      (overviewOf k config repository
        (surveyedEach k (sourcesIn ws settings repository choice.paths))) := by
  refine (follows_surveyRepository scanned found).bind ?_
  have filled : (surveyedEach k (sourcesIn ws settings repository choice.paths)).isEmpty =
      false := by
    rw [surveyedEach, sourcesIn, List.isEmpty_map, List.isEmpty_map]
    exact List.isEmpty_eq_false_iff.mpr found
  rw [filled]
  exact follows_makeOverview config repository _

/-- The survey of a repository keeps to its schedule. -/
theorem keeps_ofRepository {overrides : Overrides} {ws : Scan.Workspace} {choice : Scan.Choice}
    (scanned : Scan.scan ws (overrides.applyTo config.scan) repository = .ok choice)
    (found : choice.paths ≠ [])
    (detects : Detects k config (corpusOf (surveyedEach k
      (sourcesIn ws (overrides.applyTo config.scan) repository choice.paths))))
    (fresh : r.reports = []) (sound : r.session.Sound k) :
    Keeps (fun w => ofRepository k w config overrides ws repository) r
      (repositoryReports choice.paths) (2 * choice.paths.length + 1)
      (heardOfRepository choice.paths.length) := by
  obtain ⟨o, made, clean⟩ : ∃ o, overviewOf k config repository (surveyedEach k
      (sourcesIn ws (overrides.applyTo config.scan) repository choice.paths)) = .ok o ∧
    o.error = none := detects.exists_clean
  have count : (reportsOf (repositoryCourse choice.paths)).length =
      2 * choice.paths.length + 1 := by
    rw [reportsOf_repositoryCourse, List.length_cons, List.length_append, length_readingReports,
      length_analysingReports, Nat.two_mul]
  have all : repositoryReports choice.paths =
      reportsOf (repositoryCourse choice.paths) ++ lastReports := by
    rw [reportsOf_repositoryCourse, repositoryReports, sourcesReports, ← List.append_assoc]
    rfl
  have follows : ∀ w, Follows w (Session.Sound k) (Session.Sound k) _
      (repositoryCourse choice.paths ++ overviewCourse (.ok o)) (.ok o) := fun w =>
    made ▸ follows_repository scanned found
  rw [all, ← count]
  refine keeps_settled follows clean repository repository fresh sound ?_ ?_
  · intro w c rest heeds called soon
    exact follow_repositoryCourse heeds called soon
  · intro c soon
    rw [count] at soon ⊢
    exact heardOfRepository_le soon

end

/-- In a run of its own, with no detector failing and no report refused: a
repository of which `n` files are chosen gets `2 * n + 4` reports, from 0 to 100 in
percent, and can be called off by the first `2 * n + 1`; `n` sources get `n + 3`
reports and can be called off by the first `n`, each of them at once. Over a positive
floor no detector of the usual components fails. -/
theorem schedules_kept (k : Components) (config : Config) (repository : String) {r : Run}
    (fresh : r.reports = []) (sound : r.session.Sound k) :
    (∀ (overrides : Overrides) (ws : Scan.Workspace) (choice : Scan.Choice),
      Scan.scan ws (overrides.applyTo config.scan) repository = .ok choice →
      choice.paths ≠ [] →
      Detects k config (corpusOf (surveyedEach k
        (sourcesIn ws (overrides.applyTo config.scan) repository choice.paths))) →
        (repositoryReports choice.paths).length = 2 * choice.paths.length + 4 ∧
        Climbs 0 100 (repositoryReports choice.paths) ∧
        (repositoryReports choice.paths).head?.map Report.done = some 0 ∧
        (repositoryReports choice.paths).getLast?.map Report.done = some 100 ∧
        Keeps (fun w => ofRepository k w config overrides ws repository) r
          (repositoryReports choice.paths) (2 * choice.paths.length + 1)
          (heardOfRepository choice.paths.length)) ∧
    (∀ sources : Table String, sources ≠ [] →
      Detects k config (corpusOf (surveyedEach k sources)) →
        (sourcesReports sources.keys).length = sources.length + 3 ∧
        Climbs 40 100 (sourcesReports sources.keys) ∧
        (sourcesReports sources.keys).getLast?.map Report.done = some 100 ∧
        Keeps (fun w => ofSources k w config repository sources) r
          (sourcesReports sources.keys) sources.length id) ∧
    (0 < config.detection.floor → ∀ (library : GrammarLibrary) (sources : Table String),
      Detects (usual library) config (corpusOf (surveyedEach (usual library) sources))) := by
  refine ⟨?_, ?_, fun positive library sources => ?_⟩
  · intro overrides ws choice scanned found detects
    refine ⟨length_repositoryReports _, climbs_repositoryReports _, rfl, ?_,
      keeps_ofRepository scanned found detects fresh sound⟩
    rw [getLast_repositoryReports]
    rfl
  · intro sources nonempty detects
    refine ⟨?_, climbs_sourcesReports _, ?_, keeps_ofSources nonempty detects fresh sound⟩
    · rw [length_sourcesReports, Table.keys, List.length_map]
    · rw [getLast_sourcesReports]
      rfl
  · exact Faults.detects (f := {}) (fun _ => rfl) (fun _ => rfl) (fun _ => rfl) (fun _ => rfl)
      positive

/-- A working directory with one script. -/
def onePage : Scan.Workspace where
  location := "/work"
  tree := .directory [("a.js", .file "setX(1)".toUTF8)]

theorem scan_onePage :
    ∃ choice, Scan.scan onePage ({} : Config).scan "." = .ok choice ∧ choice.paths = ["a.js"] := by
  have found : (Scan.scan onePage ({} : Config).scan ".").map Scan.Choice.paths = .ok ["a.js"] := by
    decide +kernel
  exact Outcome.exists_of_map_ok found

theorem schedules_kept_of_onePage :
    ({} : Run).reports = [] ∧ Session.Sound (usual {}) {} ∧
      Keeps (fun w => ofRepository (usual {}) w {} {} onePage ".") {} (repositoryReports ["a.js"]) 3
        (heardOfRepository 1) ∧
      Keeps (fun w => ofSources (usual {}) w {} "." [("a.js", "setX(1)")]) {}
        (sourcesReports ["a.js"]) 1 id := by
  have new : Session.Sound (usual {}) {} := nofun
  have positive : 0 < ({} : Config).detection.floor := by decide +kernel
  obtain ⟨keepsRepository, keepsSources, detects⟩ :=
    schedules_kept (usual {}) {} "." (r := {}) rfl new
  obtain ⟨⟨paths, skipped⟩, scanned, rfl⟩ := scan_onePage
  have repository := keepsRepository {} onePage _ scanned nofun (detects positive {} _)
  have sources := keepsSources [("a.js", "setX(1)")] nofun (detects positive {} _)
  exact ⟨rfl, new, repository.2.2.2.2, sources.2.2.2⟩

end RepoSurvey.Survey
