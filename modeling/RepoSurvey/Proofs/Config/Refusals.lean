import RepoSurvey.Proofs.Outcomes
import RepoSurvey.Survey

/-!
# How a configuration file is refused

A configuration file either gives a configuration or is complained about with a message, except
in a few cases that nobody answers for (`Escapes`): its bytes are no text, reading its text fails
in another way than by breaking a rule of the format, or a number in it is too large for its use.
An integer among texts must not have too many digits, and one that is used as a real number must
lie in the range of doubles (`Excessive`). The sections are read one after the other, so a number
counts as too large only when nothing before it was complained about.

How a text becomes settings is left open: `reader` is any reader of texts, and what it says is
wrong with a text is taken as it is.
-/

namespace RepoSurvey

/-! ## Numbers that are too large -/

namespace Setting

open Outcome (FailsIff failsIff_ok)

/-- The setting is a list with an integer of more digits than are written out. -/
def HasLongItem (s : Setting) : Prop :=
  ∃ items, s = .list items ∧ ∃ n : Int, .int n ∈ items ∧ Decimal.IsOverlong n

/-- The setting is an integer beyond the range of doubles. -/
def IsHuge (s : Setting) : Prop :=
  ∃ n, s = .int n ∧ Decimal.ofInteger? n = none

theorem failsIff_itemText (s : Setting) :
    FailsIff .tooManyDigits (∃ n, s = .int n ∧ Decimal.IsOverlong n) s.itemText := by
  cases s
  case int n =>
    rw [itemText, Decimal.integerText?]
    by_cases long : Decimal.IsOverlong n
    · rw [if_pos long]
      exact .inl ⟨⟨n, rfl, long⟩, rfl⟩
    · rw [if_neg long]
      refine failsIff_ok ?_ _
      rintro ⟨m, same, long'⟩
      cases same
      exact long long'
  all_goals exact failsIff_ok (by rintro ⟨n, same, -⟩; cases same) _

theorem failsIff_texts (s : Setting) : FailsIff .tooManyDigits s.HasLongItem s.texts := by
  cases s
  case list items =>
    have each := Outcome.failsIff_mapM fun item (_ : item ∈ items) => failsIff_itemText item
    refine (each.congr ⟨?_, ?_⟩).map _
    · rintro ⟨_, mem, n, rfl, long⟩
      exact ⟨items, rfl, n, mem, long⟩
    · rintro ⟨_, same, n, mem, long⟩
      cases same
      exact ⟨_, mem, n, rfl, long⟩
  all_goals exact failsIff_ok (by rintro ⟨items, same, -⟩; cases same) _

theorem failsIff_real? (s : Setting) : FailsIff .beyondReals s.IsHuge s.real? := by
  cases s
  case int n =>
    rw [real?]
    cases value : Decimal.ofInteger? n with
    | none => exact .inl ⟨⟨n, rfl, value⟩, rfl⟩
    | some x =>
      refine failsIff_ok ?_ _
      rintro ⟨m, same, none⟩
      cases same
      exact nomatch value.symm.trans none
  all_goals exact failsIff_ok (by rintro ⟨n, same, -⟩; cases same) _

end Setting

namespace Config

open Outcome (FailsIff failsIff_ok)

variable {entries : Table Setting} {e : ConfigError} {reader : Setting.Reader} {bytes : ByteArray}

/-! ## Sections -/

/-- An extension or a pattern is an integer of too many digits. -/
def HasLongText (scan : Table Setting) : Prop :=
  (scan.setting "extensions").HasLongItem ∨ (scan.setting "exclude_paths").HasLongItem

/-- The size limit is not positive. -/
def SizeRefused (scan : Table Setting) : Prop :=
  ((scan.setting "max_file_size").int?).getD ({} : ScanSettings).maxFileSize ≤ 0

instance (scan : Table Setting) : Decidable (SizeRefused scan) :=
  inferInstanceAs (Decidable (_ ≤ _))

/-- The setting is a real number that is not positive. -/
def NotPositive (s : Setting) : Prop :=
  ∃ x, s.real? = .ok (some x) ∧ x ≤ 0

theorem has_of_hasLongItem {key : String} (long : (entries.setting key).HasLongItem) :
    entries.has key = true := by
  obtain ⟨items, list, -⟩ := long
  cases found : entries.find? fun entry => entry.1 == key with
  | none =>
    rw [Table.setting, Table.get?, found] at list
    cases list
  | some entry =>
    have same : (entry.1 == key) = true := by
      simpa only using List.find?_some found
    exact List.any_eq_true.mpr ⟨entry, List.mem_of_find?_eq_some found, same⟩

/-- The extensions in the section on files. -/
def extensionsOf (scan : Table Setting) : Except ConfigError (List String) :=
  if scan.has "extensions" then
    (·.map normalExtension) <$> orExcessive (scan.setting "extensions").texts
  else pure ({} : ScanSettings).extensions

theorem failsIff_orExcessive {α : Type} {excess : Setting.Excess} {bad : Prop}
    {outcome : Except Setting.Excess α} (h : FailsIff excess bad outcome) :
    FailsIff (.excessive excess) bad (orExcessive outcome) := by
  rcases h with ⟨is_bad, rfl⟩ | ⟨fine, a, rfl⟩
  · exact .inl ⟨is_bad, rfl⟩
  · exact failsIff_ok fine a

theorem failsIff_extensionsOf (scan : Table Setting) :
    FailsIff (.excessive .tooManyDigits) (scan.setting "extensions").HasLongItem
      (extensionsOf scan) := by
  rw [extensionsOf]
  split
  next => exact (failsIff_orExcessive (Setting.failsIff_texts _)).map _
  next missing => exact failsIff_ok (fun long => missing (has_of_hasLongItem long)) _

theorem failsIff_excludePaths (scan : Table Setting) :
    FailsIff (.excessive .tooManyDigits) (scan.setting "exclude_paths").HasLongItem
      (orExcessive (scan.setting "exclude_paths").texts) :=
  failsIff_orExcessive (Setting.failsIff_texts _)

theorem scanOf_eq (scan : Table Setting) : scanOf scan = (do
    let extensions ← extensionsOf scan
    let excludePaths ← orExcessive (scan.setting "exclude_paths").texts
    if SizeRefused scan then .error .sizeNotPositive
    else .ok {
      extensions := extensions
      excludePaths := excludePaths
      excludeTests := ((scan.setting "exclude_test_files").bool?).getD
        ({} : ScanSettings).excludeTests
      limit := (scan.setting "limit").int?
      maxFileSize := ((scan.setting "max_file_size").int?).getD
        ({} : ScanSettings).maxFileSize }) := by
  rw [scanOf, extensionsOf]
  split
  all_goals
    refine bind_congr fun extensions => bind_congr fun excludePaths => ?_
    by_cases refused : SizeRefused scan
    · rw [if_pos refused]
      exact if_pos refused
    · rw [if_neg refused]
      exact if_neg refused

/-- The settings on files are those that their section says. -/
structure ReadFrom (t : Table Setting) (scan : ScanSettings) : Prop where
  /-- The section allows some size. -/
  accepted : ¬ SizeRefused t
  /-- The extensions are those of the section. -/
  extensions : extensionsOf t = .ok scan.extensions
  /-- The patterns are those of the section. -/
  excludePaths : orExcessive (t.setting "exclude_paths").texts = .ok scan.excludePaths
  /-- The choice on tests is that of the section, or the default. -/
  excludeTests : scan.excludeTests =
    ((t.setting "exclude_test_files").bool?).getD ({} : ScanSettings).excludeTests
  /-- The limit on the number of files is that of the section. -/
  limit : scan.limit = (t.setting "limit").int?
  /-- The limit on the size of files is that of the section, or the default. -/
  maxFileSize : scan.maxFileSize =
    ((t.setting "max_file_size").int?).getD ({} : ScanSettings).maxFileSize

theorem readFrom_of_scanOf {t : Table Setting} {scan : ScanSettings} (given : scanOf t = .ok scan) :
    ReadFrom t scan := by
  rw [scanOf_eq] at given
  obtain ⟨extensions, named, given⟩ := Outcome.exists_of_bind_ok given
  obtain ⟨excludePaths, listed, given⟩ := Outcome.exists_of_bind_ok given
  by_cases refused : SizeRefused t
  · rw [if_pos refused] at given
    cases given
  · rw [if_neg refused] at given
    cases given
    exact ⟨refused, named, listed, rfl, rfl, rfl⟩

theorem scanOf_of_hasLongText {scan : Table Setting} (long : HasLongText scan) :
    scanOf scan = .error (.excessive .tooManyDigits) := by
  rw [scanOf_eq]
  by_cases first : (scan.setting "extensions").HasLongItem
  · rw [(failsIff_extensionsOf scan).eq_error first]
    rfl
  · obtain ⟨extensions, read⟩ := (failsIff_extensionsOf scan).exists_ok first
    rw [read, (failsIff_excludePaths scan).eq_error (long.resolve_left first)]
    rfl

theorem scanOf_of_sizeRefused {scan : Table Setting} (short : ¬ HasLongText scan)
    (refused : SizeRefused scan) : scanOf scan = .error .sizeNotPositive := by
  obtain ⟨extensions, known⟩ :=
    (failsIff_extensionsOf scan).exists_ok fun long => short (.inl long)
  obtain ⟨excludePaths, read⟩ :=
    (failsIff_excludePaths scan).exists_ok fun long => short (.inr long)
  rw [scanOf_eq, known, read]
  exact if_pos refused

theorem exists_scanOf {scan : Table Setting} (short : ¬ HasLongText scan)
    (accepted : ¬ SizeRefused scan) : ∃ settings, scanOf scan = .ok settings := by
  obtain ⟨extensions, known⟩ :=
    (failsIff_extensionsOf scan).exists_ok fun long => short (.inl long)
  obtain ⟨excludePaths, read⟩ :=
    (failsIff_excludePaths scan).exists_ok fun long => short (.inr long)
  rw [scanOf_eq, known, read]
  exact ⟨_, if_neg accepted⟩

section Positive

variable {key : String} {default : Float} {refusal : ConfigError}

theorem positive_of_isHuge (huge : (entries.setting key).IsHuge) :
    positive entries key default refusal = .error (.excessive .beyondReals) := by
  rw [positive, (Setting.failsIff_real? _).eq_error huge]
  rfl

theorem positive_of_notPositive (low : NotPositive (entries.setting key)) :
    positive entries key default refusal = .error refusal := by
  obtain ⟨x, read, low⟩ := low
  rw [positive, read]
  exact if_pos low

theorem exists_positive (fair : ¬ (entries.setting key).IsHuge)
    (above : ¬ NotPositive (entries.setting key)) :
    ∃ x, positive entries key default refusal = .ok x := by
  obtain ⟨value, read⟩ := (Setting.failsIff_real? _).exists_ok fair
  rw [positive, read]
  cases value with
  | none => exact ⟨default, rfl⟩
  | some x => exact ⟨x, if_neg fun low => above ⟨x, read, low⟩⟩

end Positive

/-- The numbers of a section on frameworks that gives settings are those it is read for. -/
theorem detectionOf_eq_ok {t : Table Setting} {detection : DetectionSettings}
    (given : detectionOf t = .ok detection) :
    positive t "damping_factor" ({} : DetectionSettings).damping .dampingNotPositive =
        .ok detection.damping ∧
      positive t "min_max_score" ({} : DetectionSettings).floor .floorNotPositive =
        .ok detection.floor := by
  obtain ⟨damping, damped, given⟩ := Outcome.exists_of_bind_ok given
  obtain ⟨floor, floored, given⟩ := Outcome.exists_of_bind_ok given
  cases given
  exact ⟨damped, floored⟩

/-- A number in the section on frameworks is out of range. -/
inductive Overflows (detection : Table Setting) : Prop where
  /-- The damping factor is out of range. -/
  | damping (huge : (detection.setting "damping_factor").IsHuge)
  /-- The least score is out of range, and the damping factor was accepted. -/
  | floor (above : ¬ NotPositive (detection.setting "damping_factor"))
      (huge : (detection.setting "min_max_score").IsHuge)

theorem detectionOf_of_overflows {detection : Table Setting} (overflows : Overflows detection) :
    detectionOf detection = .error (.excessive .beyondReals) := by
  by_cases damping : (detection.setting "damping_factor").IsHuge
  · rw [detectionOf, positive_of_isHuge damping]
    rfl
  · cases overflows with
    | damping huge => exact absurd huge damping
    | floor above huge =>
      obtain ⟨x, given⟩ := exists_positive damping above
      rw [detectionOf, given]
      dsimp only [bind, Except.bind]
      rw [positive_of_isHuge huge]

/-! ## Whole configurations -/

/-- A configuration is made of what its three sections give. -/
theorem ofEntries_eq_ok_iff {config : Config} : ofEntries entries = .ok config ↔
    scanOf (entries.setting "scan").section? = .ok config.scan ∧
      detectionOf (entries.setting "detection").section? = .ok config.detection ∧
      aggregationOf (entries.setting "aggregation").section? = config.aggregation := by
  constructor
  · intro given
    obtain ⟨scan, scanned, given⟩ := Outcome.exists_of_bind_ok given
    obtain ⟨detection, weighed, given⟩ := Outcome.exists_of_bind_ok given
    cases given
    exact ⟨scanned, weighed, rfl⟩
  · rintro ⟨scanned, weighed, made⟩
    rw [ofEntries, scanned, weighed, made]
    rfl

/-- Something is given, or there is a message about what is wrong with the file `name`. -/
def Answers {α : Type} (name : String) (outcome : Except ConfigError α) : Prop :=
  (∃ a, outcome = .ok a) ∨ ∃ e message, outcome = .error e ∧ errorMessage? name e = some message

section Answers

variable {α β : Type} {name : String}

theorem not_answers_of_error (silent : errorMessage? name e = none) :
    ¬ Answers name (.error e : Except ConfigError α) := by
  rintro (⟨a, given⟩ | ⟨_, message, same, said⟩)
  · cases given
  · cases same
    rw [silent] at said
    cases said

theorem Answers.bind {outcome : Except ConfigError α} {f : α → Except ConfigError β}
    (first : Answers name outcome) (later : ∀ a, Answers name (f a)) :
    Answers name (outcome >>= f) := by
  rcases first with ⟨a, rfl⟩ | ⟨e, message, rfl, said⟩
  · exact later a
  · exact .inr ⟨e, message, rfl, said⟩

theorem answers_scanOf {scan : Table Setting} (short : ¬ HasLongText scan) :
    Answers name (scanOf scan) := by
  by_cases refused : SizeRefused scan
  · exact .inr ⟨_, _, scanOf_of_sizeRefused short refused, rfl⟩
  · exact .inl (exists_scanOf short refused)

theorem answers_detectionOf {detection : Table Setting} (fair : ¬ Overflows detection) :
    Answers name (detectionOf detection) := by
  have dampingFair : ¬ (detection.setting "damping_factor").IsHuge := fun huge =>
    fair (.damping huge)
  by_cases low : NotPositive (detection.setting "damping_factor")
  · refine .inr ⟨.dampingNotPositive, _, ?_, rfl⟩
    rw [detectionOf, positive_of_notPositive low]
    rfl
  · have floorFair : ¬ (detection.setting "min_max_score").IsHuge := fun huge =>
      fair (.floor low huge)
    refine Answers.bind (.inl (exists_positive dampingFair low)) fun damping => ?_
    refine Answers.bind ?_ fun floor => .inl ⟨_, rfl⟩
    by_cases low : NotPositive (detection.setting "min_max_score")
    · exact .inr ⟨_, _, positive_of_notPositive low, rfl⟩
    · exact .inl (exists_positive floorFair low)

end Answers

/-- A number is too large for its use, and nothing was complained about before it. -/
inductive Excessive (entries : Table Setting) : Prop where
  /-- An integer among texts has too many digits. -/
  | digits (long : HasLongText (entries.setting "scan").section?)
  /-- A number that weighs the evidence is out of range. -/
  | reals (accepted : ¬ SizeRefused (entries.setting "scan").section?)
      (overflows : Overflows (entries.setting "detection").section?)

theorem ofEntries_of_excessive (excessive : Excessive entries) :
    ∃ excess, ofEntries entries = .error (.excessive excess) := by
  by_cases long : HasLongText (entries.setting "scan").section?
  · rw [ofEntries, scanOf_of_hasLongText long]
    exact ⟨_, rfl⟩
  · cases excessive with
    | digits long' => exact absurd long' long
    | reals accepted overflows =>
      obtain ⟨scan, given⟩ := exists_scanOf long accepted
      rw [ofEntries, given]
      dsimp only [bind, Except.bind]
      rw [detectionOf_of_overflows overflows]
      exact ⟨_, rfl⟩

theorem answers_ofEntries {name : String} (fair : ¬ Excessive entries) :
    Answers name (ofEntries entries) := by
  have short : ¬ HasLongText (entries.setting "scan").section? := fun long => fair (.digits long)
  by_cases refused : SizeRefused (entries.setting "scan").section?
  · refine .inr ⟨.sizeNotPositive, _, ?_, rfl⟩
    rw [ofEntries, scanOf_of_sizeRefused short refused]
    rfl
  · refine Answers.bind (answers_scanOf short) fun scan => ?_
    exact Answers.bind (answers_detectionOf fun overflows => fair (.reals refused overflows))
      fun detection => .inl ⟨_, rfl⟩

/-- Nobody answers for what is wrong with the file. -/
inductive Escapes (reader : Setting.Reader) (bytes : ByteArray) : Prop where
  /-- The bytes are no text. -/
  | undecodable (broken : Text.decode? bytes = none)
  /-- The text cannot be read, and not because it breaks a rule of the format. -/
  | unread (text : String) (spelled : Text.decode? bytes = some text) (problem : Yaml.Problem)
      (failed : entriesOfText text reader = .error (.unreadable problem))
      (stray : problem ≠ .malformed)
  /-- A number in the text is too large for its use. -/
  | excessive (text : String) (spelled : Text.decode? bytes = some text) (entries : Table Setting)
      (read : entriesOfText text reader = .ok entries) (large : Excessive entries)

theorem ofBytes_of_decode? {text : String} (spelled : Text.decode? bytes = some text) :
    ofBytes bytes reader = entriesOfText text reader >>= ofEntries := by
  obtain ⟨decoded, known, rfl⟩ := Option.map_eq_some_iff.mp spelled
  rw [ofBytes, known]
  rfl

theorem ofBytes_of_undecodable (broken : Text.decode? bytes = none) :
    ∃ b, ofBytes bytes reader = .error (.undecodable b) := by
  rw [ofBytes, Option.map_eq_none_iff.mp broken]
  exact ⟨_, rfl⟩

theorem entriesOfText_cases (reader : Setting.Reader) (text : String) :
    (∃ entries, entriesOfText text reader = .ok entries) ∨
      (∃ problem, entriesOfText text reader = .error (.unreadable problem)) ∨
        entriesOfText text reader = .error .notAMapping := by
  rw [entriesOfText]
  by_cases blank : (Text.trim text).isEmpty = true
  · rw [if_pos blank]
    exact .inl ⟨_, rfl⟩
  · rw [if_neg blank]
    cases reader text with
    | error problem => exact .inr (.inl ⟨problem, rfl⟩)
    | ok setting =>
      cases setting with
      | record entries => exact .inl ⟨entries, rfl⟩
      | null => exact .inl ⟨[], rfl⟩
      | _ => exact .inr (.inr rfl)

theorem not_answers_of_escapes {name : String} (escapes : Escapes reader bytes) :
    ¬ Answers name (ofBytes bytes reader) := by
  cases escapes with
  | undecodable broken =>
    obtain ⟨b, failed⟩ := ofBytes_of_undecodable broken
    rw [failed]
    exact not_answers_of_error rfl
  | unread text spelled problem failed stray =>
    rw [ofBytes_of_decode? spelled, failed]
    refine not_answers_of_error (e := .unreadable problem) ?_
    cases problem
    case malformed => exact absurd rfl stray
    all_goals rfl
  | excessive text spelled entries read large =>
    obtain ⟨excess, failed⟩ := ofEntries_of_excessive large
    have whole : ofBytes bytes reader = .error (.excessive excess) := by
      rw [ofBytes_of_decode? spelled, read]
      exact failed
    rw [whole]
    exact not_answers_of_error rfl

theorem answers_ofBytes {name : String} (fair : ¬ Escapes reader bytes) :
    Answers name (ofBytes bytes reader) := by
  cases spelled : Text.decode? bytes with
  | none => exact absurd (.undecodable spelled) fair
  | some text =>
    rw [ofBytes_of_decode? spelled]
    rcases entriesOfText_cases reader text with ⟨entries, read⟩ | ⟨problem, failed⟩ | failed
    · rw [read]
      exact answers_ofEntries fun large => fair (.excessive text spelled entries read large)
    · by_cases plain : problem = .malformed
      · rw [failed, plain]
        exact .inr ⟨_, _, rfl, rfl⟩
      · exact absurd (.unread text spelled problem failed plain) fair
    · rw [failed]
      exact .inr ⟨_, _, rfl, rfl⟩

end Config

namespace Survey

variable {ws : Scan.Workspace} {path name : String} {reader : Setting.Reader} {bytes : ByteArray}

theorem loadConfig_of_file (there : configFile? ws path = some (name, .file bytes)) :
    loadConfig ws path reader = (Config.ofBytes bytes reader).mapError (name, ·) := by
  rw [loadConfig, there]
  dsimp only
  cases Config.ofBytes bytes reader <;> rfl

theorem answers_loadConfig (there : configFile? ws path = some (name, .file bytes)) :
    ((∃ config, loadConfig ws path reader = .ok config) ∨
      ∃ e message, loadConfig ws path reader = .error (name, e) ∧
        Config.errorMessage? name e = some message) ↔
      Config.Answers name (Config.ofBytes bytes reader) := by
  rw [loadConfig_of_file there]
  cases Config.ofBytes bytes reader with
  | ok config => exact iff_of_true (.inl ⟨config, rfl⟩) (.inl ⟨config, rfl⟩)
  | error e =>
    have failed : (Except.error e : Except ConfigError Config).mapError (name, ·) =
        .error (name, e) := rfl
    simp only [failed, Except.error.injEq, Prod.mk.injEq, true_and, reduceCtorEq, exists_false,
      false_or, Config.Answers]

/-- Whatever is in a configuration file and however its text is read, a configuration is given or
what is wrong with the file is told in a message, unless it is one of the cases that nobody
answers for. -/
theorem loadConfig_answers_iff (there : configFile? ws path = some (name, .file bytes)) :
    ((∃ config, loadConfig ws path reader = .ok config) ∨
      ∃ e message, loadConfig ws path reader = .error (name, e) ∧
        Config.errorMessage? name e = some message) ↔ ¬ Config.Escapes reader bytes :=
  (answers_loadConfig there).trans
    ⟨fun given escapes => Config.not_answers_of_escapes escapes given, Config.answers_ofBytes⟩

/-- A working directory with nothing but a configuration file. -/
def configured (bytes : ByteArray) : Scan.Workspace where
  location := "/work"
  tree := .directory [(Config.fileName, .file bytes)]

theorem configFile?_configured (bytes : ByteArray) :
    configFile? (configured bytes) "." = some (Config.fileName, .file bytes) := by
  rfl

/-- A configuration that allows no file at all. -/
def noSize : ByteArray := "scan: \x7bmax_file_size: 0\x7d".toUTF8

theorem not_escapes_noSize : ¬ Config.Escapes Setting.ofYaml noSize := by
  have spelled : Text.decode? noSize = some "scan: \x7bmax_file_size: 0\x7d" := by
    decide +kernel
  have sizes : (Config.entriesOfText "scan: \x7bmax_file_size: 0\x7d").toOption.map (fun entries =>
      let scan := (entries.setting "scan").section?
      (scan.has "extensions", scan.has "exclude_paths", decide (Config.SizeRefused scan))) =
      some (false, false, true) := by
    decide +kernel
  intro escapes
  cases escapes with
  | undecodable broken =>
    rw [spelled] at broken
    cases broken
  | unread text spelled' problem failed stray =>
    cases spelled.symm.trans spelled'
    rw [failed] at sizes
    cases sizes
  | excessive text spelled' entries read large =>
    cases spelled.symm.trans spelled'
    rw [read] at sizes
    simp only [Except.toOption, Option.map_some, Option.some.injEq, Prod.mk.injEq,
      decide_eq_true_eq] at sizes
    obtain ⟨noExtensions, noPatterns, refused⟩ := sizes
    cases large with
    | digits long =>
      rcases long with long | long
      · exact absurd (Config.has_of_hasLongItem long) (noExtensions ▸ nofun)
      · exact absurd (Config.has_of_hasLongItem long) (noPatterns ▸ nofun)
    | reals accepted overflows => exact accepted refused

theorem loadConfig_answers_iff_of_noSize :
    configFile? (configured noSize) "." = some (Config.fileName, .file noSize) ∧
      ¬ Config.Escapes Setting.ofYaml noSize ∧
      ((∃ config, loadConfig (configured noSize) "." = .ok config) ∨
        ∃ e message, loadConfig (configured noSize) "." = .error (Config.fileName, e) ∧
          Config.errorMessage? Config.fileName e = some message) :=
  ⟨configFile?_configured noSize, not_escapes_noSize,
    (loadConfig_answers_iff (configFile?_configured noSize)).mpr not_escapes_noSize⟩

/-- Nobody answers for a single byte that is no text. -/
theorem loadConfig_silent_of_stray_byte :
    ¬ ((∃ config, loadConfig (configured ⟨#[0xff]⟩) "." = .ok config) ∨
      ∃ e message, loadConfig (configured ⟨#[0xff]⟩) "." = .error (Config.fileName, e) ∧
        Config.errorMessage? Config.fileName e = some message) := by
  have broken : Text.decode? ⟨#[0xff]⟩ = none := by decide +kernel
  rw [answers_loadConfig (configFile?_configured ⟨#[0xff]⟩)]
  exact Config.not_answers_of_escapes (.undecodable broken)

end Survey

end RepoSurvey
