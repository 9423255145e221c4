import RepoSurvey.Survey

/-!
# Every file is surveyed as if it were alone

A session lasts over many files, and all it keeps is the structural parser,
which remembers the grammars that it has loaded and those that it could not
load. That makes it faster and changes no answer: what it says of a language
is what the library of grammars says (`StructuralParser.has_eq`).

`Gives` says that an act has one result for all sessions that are ready, and
leaves the session ready. Every act of a survey is of this kind, so a file has
the same analysis whatever was surveyed before it (`gives_surveyAdmitted`). `Ends`
says the same of an attempt that makes no reports: its outcome does not depend on
the session, and nobody hears of it.
-/

namespace RepoSurvey.Survey

/-! ## What a structural parser answers -/

/-- The library has a grammar for a language that can be read. -/
def GrammarLibrary.reads (library : GrammarLibrary) (language : String) : Bool :=
  library.available && Outline.languages.contains language && library.languages.contains language

/-- What the parser has noted of grammars agrees with the library. -/
structure StructuralParser.Agrees (p : StructuralParser) (library : GrammarLibrary) : Prop where
  /-- It is switched on when the library is installed. -/
  enabled : p.enabled = library.available
  /-- It has loaded only grammars that the library has. -/
  loaded : ∀ language ∈ p.loaded, library.languages.contains language = true
  /-- It has rejected only languages without a grammar. -/
  rejected : ∀ language ∈ p.rejected, library.languages.contains language = false

namespace StructuralParser

variable {p : StructuralParser} {library : GrammarLibrary}

theorem Agrees.not_rejected (h : p.Agrees library) {language : String}
    (known : library.languages.contains language = true) :
    p.rejected.contains language = false := by
  cases rejected : p.rejected.contains language with
  | false => rfl
  | true =>
    rw [h.rejected language (List.contains_iff_mem.mp rejected)] at known
    cases known

/-- A parser answers what the library says. -/
theorem has_eq (h : p.Agrees library) (language : String) :
    p.has library language = library.reads language := by
  have loaded : (p.loaded.contains language || library.languages.contains language) =
      library.languages.contains language := by
    cases held : p.loaded.contains language with
    | false => rfl
    | true => rw [h.loaded language (List.contains_iff_mem.mp held), Bool.or_self]
  rw [has, considers, isAvailable, h.enabled, Bool.and_self, loaded, GrammarLibrary.reads]
  cases known : library.languages.contains language with
  | false => rw [Bool.and_false, Bool.and_false]
  | true => rw [h.not_rejected known, Bool.not_false, Bool.and_true]

theorem Agrees.prepared (h : p.Agrees library) (language : String) :
    (p.prepared library language).Agrees library := by
  rw [StructuralParser.prepared]
  split
  · exact h
  · split
    next known =>
      refine ⟨h.enabled, fun other mem => ?_, h.rejected⟩
      rcases List.mem_append.mp mem with old | new
      · exact h.loaded other old
      · rwa [List.mem_singleton.mp new]
    next unknown =>
      refine ⟨h.enabled, h.loaded, fun other mem => ?_⟩
      rcases List.mem_append.mp mem with old | new
      · exact h.rejected other old
      · rw [List.mem_singleton.mp new]
        exact Bool.eq_false_iff.mpr unknown

end StructuralParser

/-! ## Sessions that are ready -/

variable {k : Components} {α β : Type}

/-- The session is set up, with a structural parser that agrees with the
library unless the library could not be opened. -/
structure Session.Ready (k : Components) (s : Session) : Prop where
  /-- It is set up. -/
  initialized : s.initialized = true
  /-- Its parser answers what the library says. -/
  agrees : k.openLibrary = .ok () → ∃ p, s.structural = some p ∧ p.Agrees k.library
  /-- It has no parser when the library could not be opened. -/
  without : ∀ failure, k.openLibrary = .error failure → s.structural = none

/-- The session is new, or has been set up for these components. -/
def Session.Sound (k : Components) (s : Session) : Prop :=
  s.initialized = true → s.Ready k

theorem Session.Sound.opened {s : Session} (h : s.Sound k) : (s.opened k).Ready k := by
  rw [Session.opened]
  split
  next initialized => exact h initialized
  next =>
    split
    next library =>
      refine ⟨rfl, fun _ => ⟨_, rfl, rfl, nofun, nofun⟩, fun failure failed => ?_⟩
      rw [library] at failed
      cases failed
    next failure library =>
      refine ⟨rfl, fun opened => ?_, fun _ _ => rfl⟩
      rw [library] at opened
      cases opened

/-! ## Acts with one result -/

/-- From all sessions of one kind the act has one result, leaves a session of
another, and reports nothing. -/
def Gives (before after : Session → Prop) (x : Act α) (a : α) : Prop :=
  ∀ r : Run, before r.session →
    ∃ r' : Run, x.run r = (a, r') ∧ after r'.session ∧ r'.reports = r.reports

section

variable {before between after : Session → Prop}

theorem gives_pure (a : α) : Gives before before (pure a) a :=
  fun r kind => ⟨r, rfl, kind, rfl⟩

theorem Gives.bind {x : Act α} {f : α → Act β} {a : α} {b : β} (first : Gives before between x a)
    (second : Gives between after (f a) b) : Gives before after (x >>= f) b := by
  intro r kind
  obtain ⟨r', ran, kind', silent⟩ := first r kind
  obtain ⟨r'', ran', kind'', silent'⟩ := second r' kind'
  refine ⟨r'', ?_, kind'', silent'.trans silent⟩
  rw [StateT.run_bind, ran]
  exact ran'

theorem gives_record (records : List Log.Record) : Gives before before (record records) () :=
  fun r kind => ⟨{ r with records := r.records ++ records }, rfl, kind, rfl⟩

theorem gives_note (level : Log.Level) (part message : String) :
    Gives before before (note level part message) () :=
  gives_record _

theorem gives_openSession : Gives (Session.Sound k) (Session.Ready k) (openSession k) () :=
  fun _ sound => ⟨_, rfl, sound.opened, rfl⟩

theorem Gives.of_sound {x : Act α} {a : α} (h : Gives (Session.Sound k) after x a) :
    Gives (Session.Ready k) after x a :=
  fun r ready => h r fun _ => ready

/-- Without a structural parser there is a grammar for no language. -/
theorem hasParser_run_of_none {r : Run} {language : String}
    (lacking : r.session.structural = none) : (hasParser k language).run r = (false, r) := by
  simp only [hasParser, StateT.run_bind, StateT.run_get, pure_bind, lacking]
  rfl

/-- The structural parser is asked, and kept with the grammar that it has loaded. -/
theorem hasParser_run_of_some {r : Run} {p : StructuralParser} {language : String}
    (held : r.session.structural = some p) : (hasParser k language).run r =
      (p.has k.library language, { r with
        session := { r.session with structural := some (p.prepared k.library language) }
        records := r.records ++ p.askRecords k.library language }) := by
  simp only [hasParser, StateT.run_bind, StateT.run_get, pure_bind, held]
  rfl

/-- The library of grammars can be opened and reads a language. -/
def Components.reads (k : Components) (language : String) : Bool :=
  k.openLibrary.toBool && k.library.reads language

/-- Whether a language has a grammar is a matter of the library, whatever the session. -/
theorem gives_hasParser (language : String) :
    Gives (Session.Ready k) (Session.Ready k) (hasParser k language) (k.reads language) := by
  intro r ready
  rw [Components.reads]
  cases library : k.openLibrary with
  | ok done =>
    obtain ⟨p, held, agrees⟩ := ready.agrees library
    rw [hasParser_run_of_some held, p.has_eq agrees]
    refine ⟨_, rfl, ⟨ready.initialized, ?_, ?_⟩, rfl⟩
    · exact fun _ => ⟨_, rfl, agrees.prepared language⟩
    · intro failure failed
      rw [library] at failed
      cases failed
  | error failure =>
    exact ⟨r, hasParser_run_of_none (ready.without failure library), ready, rfl⟩

/-! ## Files -/

/-- The reading of the structural parser if it has a grammar, else measures. -/
def throughTree (k : Components) (path content language : String) (usedFallback : Bool)
    (sep : String) : Act Routed := do
  if ← hasParser k language then
    match k.structural language content path with
    | .ok a => return { analysis := a, tier := .structural, usedFallback := usedFallback }
    | .error failure =>
      noteFailure .structural path (sep ++ failure.message)
      return measured path content language true
  return measured path content language usedFallback

theorem afterFailure_eq (path content language : String) :
    afterFailure k path content language = throughTree k path content language true ": " := by
  refine congrArg (hasParser k language >>= ·) (funext fun found => ?_)
  cases found with
  | false => rfl
  | true =>
    show (match k.structural language content path with
      | .ok a => _
      | .error failure => _ : Act Routed) = _
    cases k.structural language content path <;> rfl

theorem readTree_eq (path content language : String) :
    readTree k path content language =
      throughTree k path content language false ", falling back: " :=
  rfl

/-- The reading that the structural parser makes of a file, or the measures that are left. -/
def Components.treeReading (k : Components) (path content language : String)
    (usedFallback : Bool) : Routed :=
  if k.reads language then
    match k.structural language content path with
    | .ok a => { analysis := a, tier := .structural, usedFallback := usedFallback }
    | .error _ => measured path content language true
  else measured path content language usedFallback

theorem gives_throughTree (path content language : String) (usedFallback : Bool) (sep : String) :
    Gives (Session.Ready k) (Session.Ready k)
      (throughTree k path content language usedFallback sep)
      (k.treeReading path content language usedFallback) := by
  refine (gives_hasParser language).bind ?_
  rw [Components.treeReading]
  cases k.reads language with
  | false => exact gives_pure _
  | true =>
    cases k.structural language content path with
    | ok a => exact gives_pure _
    | error failure => exact (gives_note _ _ _).bind (gives_pure _)

/-- The reading of a file in a language. -/
def Components.reading (k : Components) (path content language : String) : Routed :=
  match primaryParser? k language with
  | some (tier, parse) =>
    match parse content path with
    | .ok a => { analysis := a, tier := tier, usedFallback := false }
    | .error _ => k.treeReading path content language true
  | none =>
    if treeLanguages.contains language then k.treeReading path content language false
    else measured path content language false

theorem gives_route (path content language : String) :
    Gives (Session.Ready k) (Session.Ready k) (route k path content language)
      (k.reading path content language) := by
  rw [route, Components.reading]
  simp only [afterFailure_eq, readTree_eq]
  cases primaryParser? k language with
  | some own =>
    obtain ⟨tier, parse⟩ := own
    cases read : parse content path with
    | ok a =>
      simp only [read]
      exact gives_pure _
    | error failure =>
      simp only [read]
      exact (gives_note _ _ _).bind (gives_throughTree _ _ _ _ _)
  | none =>
    by_cases grown : treeLanguages.contains language = true
    · simp only [grown, if_true]
      exact gives_throughTree _ _ _ _ _
    · simp only [grown]
      exact gives_pure _

/-- The survey of a file that is admitted. -/
def Components.surveyed (k : Components) (path content : String) : SurveyedFile :=
  match k.detectLanguage path content with
  | .error failure => SurveyedFile.failed path ("Analysis failed: " ++ failure.message)
  | .ok language =>
    let routed := k.reading path content language
    { analysis := withSize content routed.analysis
      tier := routed.tier
      language := language
      usedFallback := routed.usedFallback }

/-- A file has one survey for all sessions. -/
theorem gives_surveyFile (path content : String) :
    Gives (Session.Sound k) (Session.Ready k) (surveyFile k path content)
      (k.surveyed path content) := by
  refine gives_openSession.bind ?_
  rw [Components.surveyed]
  cases k.detectLanguage path content with
  | error failure => exact (gives_note _ _ _).bind (gives_pure _)
  | ok language => exact (gives_route _ _ _).bind (gives_pure _)

/-- The survey of a file in a session of its own. -/
def surveyedAlone (k : Components) (path content : String) : SurveyedFile :=
  ((surveyAdmitted k path content).run {}).1

theorem surveyAdmitted_of_ok {path : String} (content : String)
    (admitted : k.admitFile path = .ok ()) :
    surveyAdmitted k path content = surveyFile k path content := by
  rw [surveyAdmitted, admitted]

theorem surveyAdmitted_of_error {path : String} (content : String) {failure : Failure}
    (refused : k.admitFile path = .error failure) :
    surveyAdmitted k path content =
      pure (SurveyedFile.failed path ("Batch analysis failed: " ++ failure.message)) := by
  rw [surveyAdmitted, refused]

theorem surveyedAlone_of_ok {path : String} (content : String)
    (admitted : k.admitFile path = .ok ()) :
    surveyedAlone k path content = k.surveyed path content := by
  obtain ⟨r', alone, -⟩ := gives_surveyFile (k := k) path content {} nofun
  rw [surveyedAlone, surveyAdmitted_of_ok content admitted, alone]

theorem surveyedAlone_of_error {path : String} (content : String) {failure : Failure}
    (refused : k.admitFile path = .error failure) :
    surveyedAlone k path content =
      SurveyedFile.failed path ("Batch analysis failed: " ++ failure.message) := by
  rw [surveyedAlone, surveyAdmitted_of_error content refused]
  rfl

/-- A file is surveyed in a ready session as in one of its own. -/
theorem gives_surveyAdmitted (path content : String) :
    Gives (Session.Ready k) (Session.Ready k) (surveyAdmitted k path content)
      (surveyedAlone k path content) := by
  cases admitted : k.admitFile path with
  | ok done =>
    rw [surveyAdmitted_of_ok content admitted, surveyedAlone_of_ok content admitted]
    exact (gives_surveyFile path content).of_sound
  | error failure =>
    rw [surveyAdmitted_of_error content admitted, surveyedAlone_of_error content admitted]
    exact gives_pure _

/-- The surveys of files, each in a session of its own. -/
def surveyedEach (k : Components) (sources : Table String) : Table SurveyedFile :=
  sources.map fun (path, content) => (path, surveyedAlone k path content)

/-! ## Attempts that report nothing -/

/-- From all sessions of one kind the attempt has one outcome, leaves a session
of another, and reports nothing. -/
def Ends (before after : Session → Prop) (x : Attempt α) (outcome : Except Failure α) : Prop :=
  Gives before after x.run outcome

theorem ends_pure (a : α) : Ends before before (pure a) (.ok a) :=
  gives_pure _

theorem Ends.bind {x : Attempt α} {f : α → Attempt β} {outcome : Except Failure α}
    {next : α → Except Failure β} (first : Ends before between x outcome)
    (second : ∀ a, Ends between between (f a) (next a)) :
    Ends before between (x >>= f) (outcome >>= next) := by
  rw [Ends, ExceptT.run_bind]
  cases outcome with
  | ok a => exact Gives.bind first (second a)
  | error failure => exact Gives.bind first (gives_pure _)

theorem Ends.bind_ok {x : Attempt α} {f : α → Attempt β} {a : α} {outcome : Except Failure β}
    (first : Ends before between x (.ok a)) (second : Ends between after (f a) outcome) :
    Ends before after (x >>= f) outcome := by
  rw [Ends, ExceptT.run_bind]
  exact Gives.bind first second

theorem Gives.ends {x : Act α} {a : α} (h : Gives before after x a) :
    Ends before after (liftM x : Attempt α) (.ok a) := by
  have run : (liftM x : Attempt α).run = x >>= fun a => pure (.ok a) :=
    map_eq_pure_bind (Except.ok : α → Except Failure α) x
  rw [Ends, run]
  exact h.bind (gives_pure _)

theorem ends_attempt (outcome : Except Failure α) :
    Ends before before (attempt outcome) outcome := by
  cases outcome with
  | ok a => exact ends_pure a
  | error failure => exact gives_pure _

theorem ends_detectIn (detect : Corpus → Except Failure α) (corpus : Corpus) :
    Ends before before (detectIn detect corpus) (detect corpus) := by
  have found : Ends before before (detectIn detect corpus) (detect corpus >>= pure) :=
    (ends_attempt _).bind fun a => (gives_record _).ends.bind_ok (ends_pure a)
  rwa [bind_pure] at found

theorem ends_detectFrameworks (settings : DetectionSettings) (corpus : Corpus) :
    Ends before before (detectFrameworks k settings corpus) (k.frameworks settings corpus) := by
  have found : Ends before before (detectFrameworks k settings corpus)
      (k.frameworks settings corpus >>= pure) :=
    (ends_attempt _).bind fun a => (gives_record _).ends.bind_ok (ends_pure a)
  rwa [bind_pure] at found

end

end RepoSurvey.Survey
