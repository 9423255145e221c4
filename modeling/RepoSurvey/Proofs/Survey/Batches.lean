import Mathlib.Data.List.Forall2
import RepoSurvey.Proofs.Survey.Schedule

/-!
# Batches of files

A batch of files is surveyed file by file: before each the watcher may have
called it off, and after each it is told and may refuse. `surveyRest_cons` says
what one file does to a batch. A watcher that lets some files pass has the batch
go on as if it began after them (`exists_run_append`), so a batch is decided by
the first moment at which the watcher steps in, and no file that comes later is
touched.

`batch_follows_watcher` puts this together for every watcher: a batch ends with the
failure of the first report that is refused, or is called off, or has for each
file the survey that the file gets by itself in a new session.
-/

namespace RepoSurvey.Survey

/-! ## Attempts, one after another -/

section

variable {α β : Type} {x : Attempt α} {f : α → Attempt β} {r r' : Run}

theorem run_bind_of_ok {a : α} (ran : x.run.run r = (.ok a, r')) :
    (x >>= f).run.run r = (f a).run.run r' := by
  have bare : StateT.run x.run r = _ := ran
  rw [ExceptT.run_bind, StateT.run_bind, bare]
  rfl

theorem run_bind_of_error {failure : Failure} (ran : x.run.run r = (.error failure, r')) :
    (x >>= f).run.run r = (.error failure, r') := by
  have bare : StateT.run x.run r = _ := ran
  rw [ExceptT.run_bind, StateT.run_bind, bare]
  rfl

theorem run_liftM {x : Act α} {a : α} (ran : x.run r = (a, r')) :
    (liftM x : Attempt α).run.run r = (.ok a, r') := by
  show (Except.ok <$> x).run r = _
  rw [StateT.run_map, ran]
  rfl

end

variable {k : Components} {w : Watch} {describe : Nat → String → Report} {done : Nat}
  {path content : String} {first rest files : Table String} {r r' : Run} {failure : Failure}

/-! ## One file -/

/-- The run after a file was surveyed and reported. -/
def afterFile (k : Components) (report : Report) (path content : String) (r : Run) : Run :=
  let surveyed := ((surveyAdmitted k path content).run r).2
  { surveyed with reports := surveyed.reports ++ [report] }

/-- The outcome of a batch that was begun by others. -/
def afterOthers (others : Table SurveyedFile) :
    Except Failure (Table SurveyedFile) × Run → Except Failure (Table SurveyedFile) × Run
  | (outcome, r) => (outcome.map (others ++ ·), r)

theorem surveyAdmitted_run (ready : r.session.Ready k) (path content : String) :
    ∃ r', (surveyAdmitted k path content).run r = (surveyedAlone k path content, r') ∧
      r'.session.Ready k ∧ r'.reports = r.reports :=
  gives_surveyAdmitted path content r ready

theorem ready_afterFile (ready : r.session.Ready k) (report : Report) (path content : String) :
    (afterFile k report path content r).session.Ready k := by
  obtain ⟨r', ran, ready', -⟩ := surveyAdmitted_run ready path content
  rw [afterFile, ran]
  exact ready'

theorem reports_afterFile (ready : r.session.Ready k) (report : Report) (path content : String) :
    (afterFile k report path content r).reports = r.reports ++ [report] := by
  obtain ⟨r', ran, -, silent⟩ := surveyAdmitted_run ready path content
  rw [afterFile, ran]
  exact congrArg (· ++ [report]) silent

theorem checkCancelled_run (w : Watch) (r : Run) : (checkCancelled w).run.run r =
    (if w.isCancelled r.reports.length then .error .cancelled else .ok (), r) := by
  show (if w.isCancelled r.reports.length then throw .cancelled else pure () :
    Attempt Unit).run.run r = _
  cases w.isCancelled r.reports.length <;> rfl

theorem announce_run (w : Watch) (report : Report) (r : Run) : (announce w report).run.run r =
    (match w.refuse (r.reports.length + 1) with
      | some failure => .error failure
      | none => .ok (), { r with reports := r.reports ++ [report] }) := by
  show (match w.refuse (r.reports ++ [report]).length with
    | some failure => throw failure
    | none => pure () : Attempt Unit).run.run { r with reports := r.reports ++ [report] } = _
  rw [List.length_append, List.length_singleton]
  cases w.refuse (r.reports.length + 1) <;> rfl

/-- A batch that was called off ends before its next file. -/
theorem surveyRest_of_isCancelled (cancelled : w.isCancelled r.reports.length = true) :
    (surveyRest k w describe done ((path, content) :: rest)).run.run r =
      (.error .cancelled, r) := by
  rw [surveyRest]
  refine run_bind_of_error ?_
  rw [checkCancelled_run, if_pos cancelled]

/-- What a file does to a batch that was not called off before it. -/
theorem surveyRest_cons (ready : r.session.Ready k)
    (calm : w.isCancelled r.reports.length = false) :
    (surveyRest k w describe done ((path, content) :: rest)).run.run r =
      match w.refuse (r.reports.length + 1) with
      | some failure => (.error failure, afterFile k (describe (done + 1) path) path content r)
      | none => afterOthers [(path, surveyedAlone k path content)]
          ((surveyRest k w describe (done + 1) rest).run.run
            (afterFile k (describe (done + 1) path) path content r)) := by
  obtain ⟨r', surveyed, -, silent⟩ := surveyAdmitted_run ready path content
  have asked : (checkCancelled w).run.run r = (.ok (), r) := by
    rw [checkCancelled_run, calm]
    rfl
  have told := announce_run w (describe (done + 1) path) r'
  have after : afterFile k (describe (done + 1) path) path content r =
      { r' with reports := r'.reports ++ [describe (done + 1) path] } := by
    rw [afterFile, surveyed]
  rw [← after, silent] at told
  rw [surveyRest, run_bind_of_ok asked, run_bind_of_ok (run_liftM surveyed)]
  cases refused : w.refuse (r.reports.length + 1) with
  | some failure =>
    rw [refused] at told
    exact run_bind_of_error told
  | none =>
    rw [refused] at told
    rw [run_bind_of_ok told]
    generalize ended : (surveyRest k w describe (done + 1) rest).run.run _ = later
    obtain ⟨outcome, r''⟩ := later
    cases outcome with
    | ok others => exact run_bind_of_ok ended
    | error failure => exact run_bind_of_error ended

/-! ## Files that pass -/

/-- After `told` reports the watcher lets so many files pass. -/
def Watch.LetsPass (w : Watch) (told files : Nat) : Prop :=
  ∀ n < files, w.isCancelled (told + n) = false ∧ w.refuse (told + n + 1) = none

theorem Watch.LetsPass.head {told files : Nat} (passes : w.LetsPass told (files + 1)) :
    w.isCancelled told = false ∧ w.refuse (told + 1) = none :=
  passes 0 (Nat.succ_pos files)

theorem Watch.LetsPass.tail {told files : Nat} (passes : w.LetsPass told (files + 1)) :
    w.LetsPass (told + 1) files := by
  intro n within
  have later := passes (n + 1) (Nat.succ_lt_succ within)
  rwa [← Nat.add_assoc, Nat.add_right_comm told n 1] at later

theorem letsPass_unwatched (told files : Nat) : ({} : Watch).LetsPass told files :=
  fun _ _ => ⟨rfl, rfl⟩

/-- The run after some files is one for all watchers that let them pass, and the batch
goes on from there. -/
theorem exists_run_append (ready : r.session.Ready k) (describe : Nat → String → Report)
    (done : Nat) (first : Table String) :
    ∃ r', r'.session.Ready k ∧ r'.reports = r.reports ++ progress describe done first.keys ∧
      ∀ w : Watch, w.LetsPass r.reports.length first.length → ∀ rest,
        (surveyRest k w describe done (first ++ rest)).run.run r =
          afterOthers (surveyedEach k first)
            ((surveyRest k w describe (done + first.length) rest).run.run r') := by
  induction first generalizing done r with
  | nil =>
    refine ⟨r, ready, (List.append_nil _).symm, fun w _ rest => ?_⟩
    rw [List.nil_append]
    generalize (surveyRest k w describe done rest).run.run r = ended
    obtain ⟨outcome, r'⟩ := ended
    cases outcome <;> rfl
  | cons file others ih =>
    obtain ⟨path, content⟩ := file
    have reports := reports_afterFile ready (describe (done + 1) path) path content
    have told : (afterFile k (describe (done + 1) path) path content r).reports.length =
        r.reports.length + 1 := by
      rw [reports, List.length_append, List.length_singleton]
    obtain ⟨r', ready', told', onwards⟩ :=
      ih (ready_afterFile ready (describe (done + 1) path) path content) (done + 1)
    refine ⟨r', ready', ?_, fun w passes rest => ?_⟩
    · rw [told', reports, List.append_assoc]
      rfl
    · obtain ⟨calm, heeded⟩ := passes.head
      have place : done + 1 + others.length = done + (others.length + 1) := by omega
      rw [List.cons_append, surveyRest_cons ready calm, heeded]
      show afterOthers _ _ = _
      rw [onwards w (by rw [told]; exact passes.tail), List.length_cons, place]
      generalize (surveyRest k w describe _ rest).run.run r' = ended
      obtain ⟨outcome, r''⟩ := ended
      cases outcome <;> rfl

/-! ## Batches -/

/-- The reports of a batch: after each file its number, the number of files, and its path. -/
def batchReports (paths : List String) : List Report :=
  (paths.zipIdx 1).map fun (path, number) => ⟨number, paths.length, path⟩

/-- The watcher refuses none of the first reports. -/
def Watch.Heeds (w : Watch) (reports : Nat) : Prop :=
  ∀ n, 0 < n → n ≤ reports → w.refuse n = none

/-- The first report that the watcher refuses is the one of this number. -/
structure Watch.RefusesFirst (w : Watch) (number : Nat) (failure : Failure) : Prop where
  counted : 0 < number
  refused : w.refuse number = some failure
  heeded : ∀ n, 0 < n → n < number → w.refuse n = none

/-- The survey of a file in a batch is that which a new session makes of it,
unless the file is not admitted. -/
structure Apart (k : Components) (source : String × String) (result : String × SurveyedFile) :
    Prop where
  path : result.1 = source.1
  alone : k.admitFile source.1 = .ok () →
    result.2 = ((surveyFile k source.1 source.2).run {}).1
  refused : ∀ failure, k.admitFile source.1 = .error failure →
    result.2 = .failed source.1 ("Batch analysis failed: " ++ failure.message)

/-- The batch had this outcome when so many files had been surveyed and reported, and left
what a batch leaves that has no other files and that nobody watches. -/
def EndsAfter (k : Components) (w : Watch) (files : Table String) (r : Run) (passed : Nat)
    (outcome : Except Failure (Table SurveyedFile)) : Prop :=
  ∃ r', (surveyFiles k w (plainReport files.length) files).run.run r = (outcome, r') ∧
    r'.reports = (batchReports files.keys).take passed ∧ r'.reports.length = passed ∧
    ∃ others, (surveyFiles k {} (plainReport files.length) (files.take passed)).run.run r =
      (.ok others, r')

theorem progress_eq (describe : Nat → String → Report) (done : Nat) (paths : List String) :
    progress describe done paths =
      (paths.zipIdx (done + 1)).map fun (path, number) => describe number path := by
  induction paths generalizing done with
  | nil => rfl
  | cons path rest ih => rw [progress, ih, List.zipIdx_cons, List.map_cons]

theorem batchReports_eq (files : Table String) :
    batchReports files.keys = progress (plainReport files.length) 0 files.keys := by
  rw [progress_eq, batchReports, Table.keys, List.length_map]
  rfl

theorem take_progress (describe : Nat → String → Report) (done n : Nat) (paths : List String) :
    (progress describe done paths).take n = progress describe done (paths.take n) := by
  induction paths generalizing done n with
  | nil => rw [List.take_nil, progress, List.take_nil]
  | cons path rest ih =>
    cases n with
    | zero => rfl
    | succ n => rw [List.take_succ_cons, progress, progress, List.take_succ_cons, ih]

/-- The run in which the first file of a batch is surveyed. -/
def openedRun (k : Components) (r : Run) : Run :=
  { r with session := r.session.opened k, records := r.records ++ r.session.openRecords k }

theorem surveyFiles_run (w : Watch) (describe : Nat → String → Report) (files : Table String)
    (r : Run) : (surveyFiles k w describe files).run.run r =
      (surveyRest k w describe 0 files).run.run (openedRun k r) :=
  run_bind_of_ok (run_liftM rfl)

theorem apart_surveyedEach (files : Table String) :
    List.Forall₂ (Apart k) files (surveyedEach k files) := by
  refine List.forall₂_map_right_iff.mpr (List.forall₂_same.mpr fun source _ => ⟨rfl, ?_, ?_⟩)
  · intro admitted
    exact congrArg (fun x => (StateT.run x ({} : Run)).1) (surveyAdmitted_of_ok source.2 admitted)
  · intro failure refused
    exact surveyedAlone_of_error source.2 refused

section

variable {passed : Nat}

theorem reports_openedRun (fresh : r.reports = []) : (openedRun k r).reports = [] :=
  fresh

/-- A batch is the same for all watchers that let its first files pass, up to what they do then. -/
theorem exists_run_surveyFiles (sound : r.session.Sound k) (fresh : r.reports = [])
    (within : passed ≤ files.length) :
    ∃ r', r'.session.Ready k ∧ r'.reports = (batchReports files.keys).take passed ∧
      r'.reports.length = passed ∧
      ∀ w : Watch, w.LetsPass 0 passed → ∀ rest,
        (surveyFiles k w (plainReport files.length) (files.take passed ++ rest)).run.run r =
          afterOthers (surveyedEach k (files.take passed))
            ((surveyRest k w (plainReport files.length) passed rest).run.run r') := by
  have length : (files.take passed).length = passed := List.length_take_of_le within
  have ready : (openedRun k r).session.Ready k := sound.opened
  obtain ⟨r', ready', told, onwards⟩ :=
    exists_run_append ready (plainReport files.length) 0 (files.take passed)
  rw [reports_openedRun fresh, List.nil_append] at told
  refine ⟨r', ready', ?_, ?_, fun w passes rest => ?_⟩
  · rw [told, batchReports_eq, take_progress, Table.keys, Table.keys, List.map_take]
  · rw [told, length_progress, Table.keys, List.length_map, length]
  · have alike := onwards w (by rw [reports_openedRun fresh, length]; exact passes) rest
    rwa [length, Nat.zero_add, ← surveyFiles_run] at alike

/-- The first files alone leave the run after them, whoever lets them pass. -/
theorem run_surveyFiles_take {r' : Run} (passes : w.LetsPass 0 passed)
    (onwards : ∀ w : Watch, w.LetsPass 0 passed → ∀ rest,
      (surveyFiles k w (plainReport files.length) (files.take passed ++ rest)).run.run r =
        afterOthers (surveyedEach k (files.take passed))
          ((surveyRest k w (plainReport files.length) passed rest).run.run r')) :
    (surveyFiles k w (plainReport files.length) (files.take passed)).run.run r =
      (.ok (surveyedEach k (files.take passed)), r') := by
  have alone := onwards w passes []
  rw [List.append_nil] at alone
  rw [alone]
  exact congrArg (fun others => (Except.ok others, r')) (List.append_nil _)

theorem exists_file_at (within : passed < files.length) :
    ∃ path content, files.drop passed = (path, content) :: files.drop (passed + 1) ∧
      files.take (passed + 1) = files.take passed ++ [(path, content)] :=
  ⟨files[passed].1, files[passed].2, List.drop_eq_getElem_cons within,
    List.take_succ_eq_append_getElem within⟩

theorem isCancelled_of_late {n : Nat} (late : ∀ c, w.cancelAfter = some c → n < c) :
    w.isCancelled n = false := by
  cases called : w.cancelAfter with
  | none => simp only [Watch.isCancelled, called, Option.any_none]
  | some c => exact (isCancelled_eq_false_iff called).mpr (late c called)

/-- A watcher that calls nothing off by the first reports and refuses none of them lets
their files pass. -/
theorem Watch.Heeds.letsPass (heeds : w.Heeds passed)
    (late : ∀ c, w.cancelAfter = some c → passed ≤ c) : w.LetsPass 0 passed := by
  intro n before
  rw [Nat.zero_add]
  have calm : w.isCancelled n = false :=
    isCancelled_of_late fun c called => Nat.lt_of_lt_of_le before (late c called)
  exact ⟨calm, heeds (n + 1) (Nat.succ_pos n) before⟩

/-- A batch ends with the failure of the first report that is refused. -/
theorem endsAfter_of_refusesFirst (sound : r.session.Sound k) (fresh : r.reports = [])
    {number : Nat} (first : w.RefusesFirst number failure) (within : number ≤ files.length)
    (late : ∀ c, w.cancelAfter = some c → number ≤ c) :
    EndsAfter k w files r number (.error failure) := by
  obtain ⟨passed, rfl⟩ : ∃ passed, number = passed + 1 :=
    ⟨number - 1, (Nat.sub_add_cancel first.counted).symm⟩
  have heeds : w.Heeds passed := fun n counted upTo => first.heeded n counted (by omega)
  have passes : w.LetsPass 0 passed :=
    heeds.letsPass fun c called => Nat.le_of_succ_le (late c called)
  have calm : w.isCancelled passed = false := isCancelled_of_late late
  obtain ⟨path, content, next, grown⟩ := exists_file_at within
  obtain ⟨r', ready, -, told, onwards⟩ :=
    exists_run_surveyFiles sound fresh (Nat.le_of_lt within)
  obtain ⟨r'', -, reports, told', onwards'⟩ := exists_run_surveyFiles sound fresh within
  have ran := onwards w passes (files.drop passed)
  rw [List.take_append_drop, next, surveyRest_cons ready (by rw [told]; exact calm), told,
    first.refused] at ran
  -- nobody refuses the report when the file is the last, so that batch leaves the same
  have alone := onwards {} (letsPass_unwatched 0 passed) [(path, content)]
  have rerun := run_surveyFiles_take (letsPass_unwatched 0 (passed + 1)) onwards'
  rw [← grown, rerun, surveyRest_cons ready rfl] at alone
  obtain rfl : r'' = afterFile k (plainReport files.length (passed + 1) path) path content r' :=
    congrArg Prod.snd alone
  exact ⟨_, ran, reports, told', _, rerun⟩

/-- A batch that is called off ends before the next file. -/
theorem endsAfter_of_cancelAfter (sound : r.session.Sound k) (fresh : r.reports = []) {c : Nat}
    (called : w.cancelAfter = some c) (within : c < files.length) (heeds : w.Heeds c) :
    EndsAfter k w files r c (.error .cancelled) := by
  have passes : w.LetsPass 0 c := heeds.letsPass fun c' called' => by
    rw [Option.some.inj (called.symm.trans called')]
  obtain ⟨path, content, next, -⟩ := exists_file_at within
  obtain ⟨r', -, reports, told, onwards⟩ :=
    exists_run_surveyFiles sound fresh (Nat.le_of_lt within)
  have off : w.isCancelled r'.reports.length = true := by
    rw [told]
    exact (isCancelled_iff called).mpr (Nat.le_refl c)
  have ran := onwards w passes (files.drop c)
  rw [List.take_append_drop, next, surveyRest_of_isCancelled off] at ran
  exact ⟨r', ran, reports, told, _, run_surveyFiles_take (letsPass_unwatched 0 c) onwards⟩

/-- A batch whose watcher steps in nowhere has a survey for each file. -/
theorem endsAfter_of_heeds (sound : r.session.Sound k) (fresh : r.reports = [])
    (late : ∀ c, w.cancelAfter = some c → files.length ≤ c) (heeds : w.Heeds files.length) :
    EndsAfter k w files r files.length (.ok (surveyedEach k files)) := by
  obtain ⟨r', -, reports, told, onwards⟩ :=
    exists_run_surveyFiles sound fresh (Nat.le_refl files.length)
  have ran := run_surveyFiles_take (heeds.letsPass late) onwards
  rw [List.take_length] at ran
  exact ⟨r', ran, reports, told, _, run_surveyFiles_take (letsPass_unwatched 0 _) onwards⟩

/-- A watcher heeds the first reports or has a first one that it refuses. -/
theorem Watch.heeds_or_refusesFirst (w : Watch) (n : Nat) :
    w.Heeds n ∨ ∃ number failure, w.RefusesFirst number failure ∧ number ≤ n := by
  induction n with
  | zero => exact .inl fun n counted upTo => absurd counted (Nat.not_lt.mpr upTo)
  | succ n ih =>
    rcases ih with heeds | ⟨number, failure, first, within⟩
    · cases refused : w.refuse (n + 1) with
      | none =>
        refine .inl fun m counted upTo => ?_
        rcases Nat.lt_or_eq_of_le upTo with earlier | rfl
        · exact heeds m counted (Nat.le_of_lt_succ earlier)
        · exact refused
      | some failure =>
        refine .inr ⟨n + 1, failure, ⟨Nat.succ_pos n, refused, fun m counted earlier => ?_⟩,
          Nat.le_refl _⟩
        exact heeds m counted (Nat.le_of_lt_succ earlier)
    · exact .inr ⟨number, failure, first, Nat.le_succ_of_le within⟩

/-- What a watcher does to a batch of `n` files: it refuses a report, or calls the batch off
before the last file, or neither. -/
theorem Watch.exists_step_in (w : Watch) (n : Nat) :
    (∃ number failure, w.RefusesFirst number failure ∧ number ≤ n ∧
        ∀ c, w.cancelAfter = some c → number ≤ c) ∨
      (∃ c, w.cancelAfter = some c ∧ c < n ∧ w.Heeds c) ∨
      (∀ c, w.cancelAfter = some c → n ≤ c) ∧ w.Heeds n := by
  by_cases early : ∃ c, w.cancelAfter = some c ∧ c < n
  · obtain ⟨c, called, within⟩ := early
    rcases w.heeds_or_refusesFirst c with heeds | ⟨number, failure, first, upTo⟩
    · exact .inr (.inl ⟨c, called, within, heeds⟩)
    · refine .inl ⟨number, failure, first, Nat.le_of_lt (Nat.lt_of_le_of_lt upTo within), ?_⟩
      intro c' called'
      rwa [← Option.some.inj (called.symm.trans called')]
  · have late : ∀ c, w.cancelAfter = some c → n ≤ c := fun c called =>
      Nat.le_of_not_lt fun within => early ⟨c, called, within⟩
    rcases w.heeds_or_refusesFirst n with heeds | ⟨number, failure, first, upTo⟩
    · exact .inr (.inr ⟨late, heeds⟩)
    · exact .inl ⟨number, failure, first, upTo, fun c called => Nat.le_trans upTo (late c called)⟩

end

/-- A batch in a run of its own. If a first report is refused that is not after the moment of
calling off, the batch ends with its failure. If the batch is called off before its last file
and no report up to then is refused, it ends there. Otherwise each file has the survey that it
gets by itself in a new session. The reports are those of the files that were surveyed, and
what is left is what these files leave. One of the three is the case. -/
theorem batch_follows_watcher (k : Components) (w : Watch) (files : Table String) {r : Run}
    (sound : r.session.Sound k) (fresh : r.reports = []) :
    (∀ number failure, w.RefusesFirst number failure → number ≤ files.length →
      (∀ c, w.cancelAfter = some c → number ≤ c) →
        EndsAfter k w files r number (.error failure)) ∧
    (∀ c, w.cancelAfter = some c → c < files.length → w.Heeds c →
      EndsAfter k w files r c (.error .cancelled)) ∧
    ((∀ c, w.cancelAfter = some c → files.length ≤ c) → w.Heeds files.length →
      ∃ results, EndsAfter k w files r files.length (.ok results) ∧
        List.Forall₂ (Apart k) files results) ∧
    ((∃ number failure, w.RefusesFirst number failure ∧ number ≤ files.length ∧
        ∀ c, w.cancelAfter = some c → number ≤ c) ∨
      (∃ c, w.cancelAfter = some c ∧ c < files.length ∧ w.Heeds c) ∨
      (∀ c, w.cancelAfter = some c → files.length ≤ c) ∧ w.Heeds files.length) := by
  refine ⟨fun number failure first within late => ?_, fun c called within heeds => ?_,
    fun late heeds => ?_, w.exists_step_in files.length⟩
  · exact endsAfter_of_refusesFirst sound fresh first within late
  · exact endsAfter_of_cancelAfter sound fresh called within heeds
  · exact ⟨_, endsAfter_of_heeds sound fresh late heeds, apart_surveyedEach files⟩

/-- Two scripts. -/
def twoScripts : Table String :=
  [("a.js", "setX(1)"), ("b.js", "setY(2)")]

/-- A watcher that calls the batch off with its first report, and refuses some report. -/
def callingOff (refused : Nat) : Watch where
  cancelAfter := some 1
  refuse number := if number = refused then some (.fault "closed pipe") else none

/-- A report that is refused when the batch is called off counts as refused; one that comes
later is never made. -/
theorem batch_follows_watcher_of_two :
    Session.Sound (usual {}) {} ∧ ({} : Run).reports = [] ∧
      EndsAfter (usual {}) (callingOff 1) twoScripts {} 1 (.error (.fault "closed pipe")) ∧
      EndsAfter (usual {}) (callingOff 2) twoScripts {} 1 (.error .cancelled) ∧
      ∃ results, EndsAfter (usual {}) {} twoScripts {} 2 (.ok results) ∧
        List.Forall₂ (Apart (usual {})) twoScripts results := by
  have new : Session.Sound (usual {}) {} := nofun
  have first : (callingOff 1).RefusesFirst 1 (.fault "closed pipe") :=
    ⟨by decide, rfl, fun n counted before => by omega⟩
  have late : ∀ c, (callingOff 1).cancelAfter = some c → 1 ≤ c :=
    fun c called => Nat.le_of_eq (Option.some.inj called)
  have heeds : (callingOff 2).Heeds 1 := fun n counted upTo => by
    obtain rfl : n = 1 := by omega
    rfl
  have refused := (batch_follows_watcher (usual {}) (callingOff 1) twoScripts (r := {}) new rfl).1
  have calledOff :=
    (batch_follows_watcher (usual {}) (callingOff 2) twoScripts (r := {}) new rfl).2.1
  have whole := (batch_follows_watcher (usual {}) {} twoScripts (r := {}) new rfl).2.2.1
  exact ⟨new, rfl, refused 1 _ first (by decide) late, calledOff 1 rfl (by decide) heeds,
    whole nofun fun _ _ _ => rfl⟩

end RepoSurvey.Survey
