import RepoSurvey.Proofs.Config.Refusals

/-!
# Entries that are misread

A scalar of a configuration file is read as a truth value, a whole number or a
real number. What stands there but cannot be read that way is passed over: the
configuration is the one that the file gives without the entry, and there the
scalar has its default (`misread_scalar_passed_over`).

The reason is what taking an entry away does to a section. Under the key that
was taken the section reads as null, and under every other key as before. A
reading that fails on an entry fails on null as well (`reads_as_null`), so a
section is read with and without a misread entry in the same way.

The bound on the length of cycles is the exception. Null asks for no bound
there, so what counts is that there is an entry and not what it says, and one
that is misread takes the bound away as null does.
-/

namespace RepoSurvey

/-! ## Taking entries away -/

namespace Table

variable {α : Type} {key other : String}

/-- The entries of all keys but one. -/
def without (t : Table α) (key : String) : Table α :=
  t.filter fun entry => entry.1 != key

theorem get?_without_self (t : Table α) (key : String) : (t.without key).get? key = none := by
  rw [get?, without, List.find?_filter, Option.map_eq_none_iff, List.find?_eq_none]
  intro entry _
  simp

theorem get?_without_of_ne (t : Table α) (apart : other ≠ key) :
    (t.without key).get? other = t.get? other := by
  rw [get?, get?, without, List.find?_filter]
  congr 2
  funext entry
  by_cases same : entry.1 = other
  · simp [same, apart]
  · simp [same]

theorem has_eq_isSome (t : Table α) (key : String) : t.has key = (t.get? key).isSome := by
  rw [has, get?, Option.isSome_map, List.isSome_find?]

theorem has_without_self (t : Table α) (key : String) : (t.without key).has key = false := by
  rw [has_eq_isSome, get?_without_self, Option.isSome_none]

theorem has_without_of_ne (t : Table α) (apart : other ≠ key) :
    (t.without key).has other = t.has other := by
  rw [has_eq_isSome, has_eq_isSome, get?_without_of_ne t apart]

theorem setting_without_self (t : Table Setting) (key : String) :
    (t.without key).setting key = .null := by
  rw [setting, get?_without_self, Option.getD_none]

theorem setting_without_of_ne (t : Table Setting) (apart : other ≠ key) :
    (t.without key).setting other = t.setting other := by
  rw [setting, setting, get?_without_of_ne t apart]

theorem setting_of_not_has {t : Table Setting} (missing : t.has key = false) :
    t.setting key = .null := by
  rw [has_eq_isSome, Option.isSome_eq_false_iff, Option.isNone_iff_eq_none] at missing
  rw [setting, missing, Option.getD_none]

end Table

namespace Setting

/-- The setting, and if it is a section, without the entry of a key. -/
def without : Setting → String → Setting
  | .record entries, key => .record (Table.without entries key)
  | s, _ => s

theorem section?_without (s : Setting) (key : String) :
    (s.without key).section? = s.section?.without key := by
  cases s <;> rfl

/-! ## Ways of reading -/

/-- The ways in which a scalar is read. -/
inductive Reading where
  | truth
  | whole
  | real

/-- The setting can be read in this way. -/
def Reads (s : Setting) : Reading → Prop
  | .truth => ∃ b, s.bool? = some b
  | .whole => ∃ n, s.int? = some n
  | .real => ∃ x, s.real? = .ok (some x)

instance (s : Setting) : Decidable (s = .null) :=
  match s with
  | .null => isTrue rfl
  | .bool _ | .int _ | .real _ | .text _ | .list _ | .record _ | .other => isFalse nofun

instance (s : Setting) : (how : Reading) → Decidable (s.Reads how)
  | .truth => decidable_of_iff (s.bool?.isSome = true) Option.isSome_iff_exists
  | .whole => decidable_of_iff (s.int?.isSome = true) Option.isSome_iff_exists
  | .real =>
    match read : s.real? with
    | .ok (some x) => isTrue ⟨x, read⟩
    | .ok none => isFalse fun ⟨_, read'⟩ => nomatch read.symm.trans read'
    | .error _ => isFalse fun ⟨_, read'⟩ => nomatch read.symm.trans read'

/-- The setting gives in this way what null gives. -/
def ReadsAsNull (s : Setting) : Reading → Prop
  | .truth => s.bool? = bool? .null
  | .whole => s.int? = int? .null
  | .real => s.real? = real? .null

/-- What cannot be read gives what null gives, unless it is a number too large to be read. -/
theorem readsAsNull {s : Setting} {how : Reading} (unread : ¬ s.Reads how)
    (fair : how = .real → ∃ x, s.real? = .ok x) : s.ReadsAsNull how := by
  cases how with
  | truth => exact Option.eq_none_iff_forall_ne_some.mpr fun b read => unread ⟨b, read⟩
  | whole => exact Option.eq_none_iff_forall_ne_some.mpr fun n read => unread ⟨n, read⟩
  | real =>
    obtain ⟨value, read⟩ := fair rfl
    cases value with
    | none => exact read
    | some x => exact absurd ⟨x, read⟩ unread

end Setting

namespace Config

/-- The sections of a mapping, one of them without the entry of a key. -/
def withoutEntry (entries : Table Setting) (part key : String) : Table Setting :=
  entries.map fun (name, s) => (name, if name = part then s.without key else s)

theorem setting_withoutEntry (entries : Table Setting) (part key name : String) :
    (withoutEntry entries part key).setting name =
      if name = part then (entries.setting name).without key else entries.setting name := by
  induction entries with
  | nil => split <;> rfl
  | cons entry rest ih =>
    obtain ⟨first, s⟩ := entry
    by_cases same : first = name
    · simp [withoutEntry, Table.setting, Table.get?, same]
    · simpa [withoutEntry, Table.setting, Table.get?, same] using ih

/-! ## Scalars -/

/-- The settings that are single values. -/
inductive Scalar where
  | excludeTests
  | limit
  | maxFileSize
  | damping
  | floor
  | includeFrameworks
  | detectCycles
  | maxCycleDepth
  deriving DecidableEq

namespace Scalar

/-- The section that a scalar stands in. -/
def part : Scalar → String
  | excludeTests | limit | maxFileSize => "scan"
  | damping | floor => "detection"
  | includeFrameworks | detectCycles | maxCycleDepth => "aggregation"

/-- The key of a scalar in its section. -/
def key : Scalar → String
  | excludeTests => "exclude_test_files"
  | limit => "limit"
  | maxFileSize => "max_file_size"
  | damping => "damping_factor"
  | floor => "min_max_score"
  | includeFrameworks => "include_frameworks"
  | detectCycles => "detect_circular_dependencies"
  | maxCycleDepth => "max_circular_depth"

/-- The way in which a scalar is read. -/
def reading : Scalar → Setting.Reading
  | excludeTests | includeFrameworks | detectCycles => .truth
  | limit | maxFileSize | maxCycleDepth => .whole
  | damping | floor => .real

/-- The values of a scalar. -/
def Value : Scalar → Type
  | excludeTests | includeFrameworks | detectCycles => Bool
  | maxFileSize => Int
  | limit | maxCycleDepth => Option Int
  | damping | floor => Float

/-- The value of a scalar in a configuration. -/
def value : (f : Scalar) → Config → f.Value
  | excludeTests, c => c.scan.excludeTests
  | limit, c => c.scan.limit
  | maxFileSize, c => c.scan.maxFileSize
  | damping, c => c.detection.damping
  | floor, c => c.detection.floor
  | includeFrameworks, c => c.aggregation.includeFrameworks
  | detectCycles, c => c.aggregation.detectCycles
  | maxCycleDepth, c => c.aggregation.maxCycleDepth

/-- The section of a scalar. -/
def sectionOf (f : Scalar) (entries : Table Setting) : Table Setting :=
  (entries.setting f.part).section?

/-- What a mapping says of a scalar. -/
def said (f : Scalar) (entries : Table Setting) : Setting :=
  (f.sectionOf entries).setting f.key

/-- The mapping without the entry of a scalar. -/
def dropFrom (f : Scalar) (entries : Table Setting) : Table Setting :=
  withoutEntry entries f.part f.key

/-- There is an entry for a scalar, and it cannot be read as one. -/
structure Misread (f : Scalar) (entries : Table Setting) : Prop where
  /-- The entry says something. -/
  there : f.said entries ≠ .null
  /-- It does not say anything of the kind that is asked for. -/
  unread : ¬ (f.said entries).Reads f.reading

instance (f : Scalar) (entries : Table Setting) : Decidable (f.Misread entries) :=
  decidable_of_iff (¬ f.said entries = .null ∧ ¬ (f.said entries).Reads f.reading)
    ⟨fun ⟨there, unread⟩ => ⟨there, unread⟩, fun ⟨there, unread⟩ => ⟨there, unread⟩⟩

end Scalar

/-- The configuration without a bound on the length of cycles. -/
def unbounded (c : Config) : Config :=
  { c with aggregation := { c.aggregation with maxCycleDepth := none } }

/-! ## Sections -/

section

variable {t : Table Setting} {f : Scalar}

theorem scanOf_without (inScan : f.part = "scan")
    (lost : (t.setting f.key).ReadsAsNull f.reading) : scanOf (t.without f.key) = scanOf t := by
  cases f with
  | excludeTests =>
    have lost : (t.setting "exclude_test_files").bool? = Setting.bool? .null := lost
    simp (disch := decide) only [scanOf_eq, extensionsOf, SizeRefused, Scalar.key, lost,
      Table.has_without_of_ne, Table.setting_without_of_ne, Table.setting_without_self]
  | limit =>
    have lost : (t.setting "limit").int? = Setting.int? .null := lost
    simp (disch := decide) only [scanOf_eq, extensionsOf, SizeRefused, Scalar.key, lost,
      Table.has_without_of_ne, Table.setting_without_of_ne, Table.setting_without_self]
  | maxFileSize =>
    have lost : (t.setting "max_file_size").int? = Setting.int? .null := lost
    simp (disch := decide) only [scanOf_eq, extensionsOf, SizeRefused, Scalar.key, lost,
      Table.has_without_of_ne, Table.setting_without_of_ne, Table.setting_without_self]
  | _ => exact absurd inScan (by decide)

theorem detectionOf_without (inDetection : f.part = "detection")
    (lost : (t.setting f.key).ReadsAsNull f.reading) :
    detectionOf (t.without f.key) = detectionOf t := by
  cases f with
  | damping =>
    have lost : (t.setting "damping_factor").real? = Setting.real? .null := lost
    simp (disch := decide) only [detectionOf, positive, Scalar.key, lost,
      Table.setting_without_of_ne, Table.setting_without_self]
  | floor =>
    have lost : (t.setting "min_max_score").real? = Setting.real? .null := lost
    simp (disch := decide) only [detectionOf, positive, Scalar.key, lost,
      Table.setting_without_of_ne, Table.setting_without_self]
  | _ => exact absurd inDetection (by decide)

/-- Of a section on the result a misread entry matters in one place. -/
theorem aggregationOf_without (inAggregation : f.part = "aggregation")
    (there : t.setting f.key ≠ .null) (lost : (t.setting f.key).ReadsAsNull f.reading) :
    aggregationOf t = if f = .maxCycleDepth
      then { aggregationOf (t.without f.key) with maxCycleDepth := none }
      else aggregationOf (t.without f.key) := by
  cases f with
  | includeFrameworks =>
    have lost : (t.setting "include_frameworks").bool? = Setting.bool? .null := lost
    simp (disch := decide) only [aggregationOf, Scalar.key, lost, Table.has_without_of_ne,
      Table.setting_without_of_ne, Table.setting_without_self, reduceCtorEq, if_false]
  | detectCycles =>
    have lost : (t.setting "detect_circular_dependencies").bool? = Setting.bool? .null := lost
    simp (disch := decide) only [aggregationOf, Scalar.key, lost, Table.has_without_of_ne,
      Table.setting_without_of_ne, Table.setting_without_self, reduceCtorEq, if_false]
  | maxCycleDepth =>
    have lost : (t.setting "max_circular_depth").int? = none := lost
    cases has : t.has "max_circular_depth" with
    | false => exact absurd (Table.setting_of_not_has has) there
    | true =>
      simp (disch := decide) only [aggregationOf, Scalar.key, lost, has, if_true,
        Table.setting_without_of_ne]
  | _ => exact absurd inAggregation (by decide)

theorem eq_default_of_positive {key : String} {default x : Float} {refusal : ConfigError}
    (null : t.setting key = .null) (given : positive t key default refusal = .ok x) :
    x = default := by
  rw [positive, null] at given
  exact (Except.ok.inj given).symm

end

/-! ## Whole configurations -/

section

variable {t entries : Table Setting} {f : Scalar} {config : Config}

theorem exists_real?_of_positive {key : String} {default x : Float} {refusal : ConfigError}
    (given : positive t key default refusal = .ok x) :
    ∃ value, (t.setting key).real? = .ok value := by
  refine (Setting.failsIff_real? _).exists_ok fun huge => ?_
  rw [positive_of_isHuge huge] at given
  cases given

/-- Where the configuration is given, a misread entry reads as null. -/
theorem reads_as_null (misread : f.Misread entries) (given : ofEntries entries = .ok config) :
    (f.said entries).ReadsAsNull f.reading := by
  have weighed := detectionOf_eq_ok (ofEntries_eq_ok_iff.mp given).2.1
  cases f with
  | damping => exact Setting.readsAsNull misread.unread fun _ => exists_real?_of_positive weighed.1
  | floor => exact Setting.readsAsNull misread.unread fun _ => exists_real?_of_positive weighed.2
  | _ => exact Setting.readsAsNull misread.unread nofun

theorem section?_dropFrom (f : Scalar) (entries : Table Setting) (name : String) :
    ((f.dropFrom entries).setting name).section? =
      if name = f.part then (f.sectionOf entries).without f.key
      else (entries.setting name).section? := by
  rw [Scalar.dropFrom, setting_withoutEntry]
  split
  next same => rw [Setting.section?_without, same, Scalar.sectionOf]
  next => rfl

theorem sectionOf_dropFrom (f : Scalar) (entries : Table Setting) :
    f.sectionOf (f.dropFrom entries) = (f.sectionOf entries).without f.key := by
  rw [Scalar.sectionOf, section?_dropFrom, if_pos rfl]

/-- A scalar without an entry has its default. -/
theorem value_of_missing (missing : (f.sectionOf entries).has f.key = false)
    (given : ofEntries entries = .ok config) : f.value config = f.value {} := by
  obtain ⟨scanned, weighed, made⟩ := ofEntries_eq_ok_iff.mp given
  have null := Table.setting_of_not_has missing
  cases f with
  | excludeTests =>
    refine (readFrom_of_scanOf scanned).excludeTests.trans ?_
    exact congrArg (fun s : Setting => s.bool?.getD ({} : ScanSettings).excludeTests) null
  | limit => exact (readFrom_of_scanOf scanned).limit.trans (congrArg Setting.int? null)
  | maxFileSize =>
    refine (readFrom_of_scanOf scanned).maxFileSize.trans ?_
    exact congrArg (fun s : Setting => s.int?.getD ({} : ScanSettings).maxFileSize) null
  | damping => exact eq_default_of_positive null (detectionOf_eq_ok weighed).1
  | floor => exact eq_default_of_positive null (detectionOf_eq_ok weighed).2
  | includeFrameworks =>
    refine (congrArg AggregationSettings.includeFrameworks made).symm.trans ?_
    exact congrArg (fun s : Setting => s.bool?.getD true) null
  | detectCycles =>
    refine (congrArg AggregationSettings.detectCycles made).symm.trans ?_
    exact congrArg (fun s : Setting => s.bool?.getD true) null
  | maxCycleDepth =>
    refine (congrArg AggregationSettings.maxCycleDepth made).symm.trans ?_
    exact if_neg (Bool.eq_false_iff.mp missing)

theorem scanOf_dropFrom (lost : (f.said entries).ReadsAsNull f.reading) :
    scanOf ((f.dropFrom entries).setting "scan").section? =
      scanOf (entries.setting "scan").section? := by
  by_cases inScan : f.part = "scan"
  · rw [section?_dropFrom, if_pos inScan.symm, scanOf_without inScan lost, Scalar.sectionOf, inScan]
  · rw [section?_dropFrom, if_neg (Ne.symm inScan)]

theorem detectionOf_dropFrom (lost : (f.said entries).ReadsAsNull f.reading) :
    detectionOf ((f.dropFrom entries).setting "detection").section? =
      detectionOf (entries.setting "detection").section? := by
  by_cases inDetection : f.part = "detection"
  · rw [section?_dropFrom, if_pos inDetection.symm, detectionOf_without inDetection lost,
      Scalar.sectionOf, inDetection]
  · rw [section?_dropFrom, if_neg (Ne.symm inDetection)]

theorem aggregationOf_dropFrom (there : f.said entries ≠ .null)
    (lost : (f.said entries).ReadsAsNull f.reading) :
    let dropped := aggregationOf ((f.dropFrom entries).setting "aggregation").section?
    aggregationOf (entries.setting "aggregation").section? =
      if f = .maxCycleDepth then { dropped with maxCycleDepth := none } else dropped := by
  dsimp only
  by_cases inAggregation : f.part = "aggregation"
  · rw [section?_dropFrom, if_pos inAggregation.symm,
      ← aggregationOf_without inAggregation there lost, Scalar.sectionOf, inAggregation]
  · have other : f ≠ .maxCycleDepth := by
      rintro rfl
      exact inAggregation rfl
    rw [section?_dropFrom, if_neg (Ne.symm inAggregation), if_neg other]

/-- A misread entry is passed over, but takes the bound on the length of cycles away. -/
theorem ofEntries_dropFrom (misread : f.Misread entries) (given : ofEntries entries = .ok config) :
    ∃ absent, ofEntries (f.dropFrom entries) = .ok absent ∧
      config = if f = .maxCycleDepth then absent.unbounded else absent := by
  have lost := reads_as_null misread given
  obtain ⟨scanned, weighed, made⟩ := ofEntries_eq_ok_iff.mp given
  let dropped := aggregationOf ((f.dropFrom entries).setting "aggregation").section?
  refine ⟨{ config with aggregation := dropped }, ofEntries_eq_ok_iff.mpr ⟨?_, ?_, rfl⟩, ?_⟩
  · rw [scanOf_dropFrom lost, scanned]
  · rw [detectionOf_dropFrom lost, weighed]
  · rw [aggregationOf_dropFrom misread.there lost] at made
    split
    next deep =>
      rw [if_pos deep] at made
      rw [unbounded, made]
    next other =>
      rw [if_neg other] at made
      exact congrArg (fun a => { config with aggregation := a }) made.symm

end

end Config

namespace Survey

variable {ws : Scan.Workspace} {path : String} {entries : Table Setting} {config : Config}
  {reader : Setting.Reader} {f : Config.Scalar}

/-- The configuration file that a path stands for is read as a mapping with these entries. -/
def ConfiguredBy (ws : Scan.Workspace) (path : String) (entries : Table Setting)
    (reader : Setting.Reader := Setting.ofYaml) : Prop :=
  ∃ name bytes text, configFile? ws path = some (name, .file bytes) ∧
    Text.decode? bytes = some text ∧ Config.entriesOfText text reader = .ok entries

theorem ofEntries_of_loadConfig (stands : ConfiguredBy ws path entries reader)
    (given : loadConfig ws path reader = .ok config) : Config.ofEntries entries = .ok config := by
  obtain ⟨name, bytes, text, there, spelled, read⟩ := stands
  rw [loadConfig_of_file there, Config.ofBytes_of_decode? spelled, read] at given
  cases made : Config.ofEntries entries with
  | ok c =>
    rw [Outcome.bind_of_eq_ok rfl made] at given
    exact congrArg Except.ok (Except.ok.inj given)
  | error e =>
    rw [Outcome.bind_of_eq_ok rfl made] at given
    cases given

/-- A scalar that is misread is passed over: the configuration is the one that the file gives
without the entry, where the scalar has its default. Only what is misread as the bound on the
length of cycles takes that bound away. -/
theorem misread_scalar_passed_over (stands : ConfiguredBy ws path entries reader)
    (misread : f.Misread entries) (given : loadConfig ws path reader = .ok config) :
    ∃ absent, Config.ofEntries (f.dropFrom entries) = .ok absent ∧
      f.value absent = f.value {} ∧
      config = if f = .maxCycleDepth then absent.unbounded else absent := by
  obtain ⟨absent, made, same⟩ :=
    Config.ofEntries_dropFrom misread (ofEntries_of_loadConfig stands given)
  have missing : (f.sectionOf (f.dropFrom entries)).has f.key = false := by
    rw [Config.sectionOf_dropFrom, Table.has_without_self]
  exact ⟨absent, made, Config.value_of_missing missing made, same⟩

/-- A working directory with a configuration file whose entries have some property. -/
theorem exists_configured {bytes : ByteArray} {P : Table Setting → Prop} [DecidablePred P]
    (text : String) (spelled : Text.decode? bytes = some text)
    (read : (Config.entriesOfText text).toOption.map (fun entries => decide (P entries)) =
      some true) : ∃ entries, ConfiguredBy (configured bytes) "." entries ∧ P entries := by
  obtain ⟨entries, given, holds⟩ := Option.map_eq_some_iff.mp read
  refine ⟨entries, ⟨Config.fileName, bytes, text, configFile?_configured bytes, spelled, ?_⟩, ?_⟩
  · exact Outcome.eq_ok_of_toOption given
  · exact of_decide_eq_true holds

/-- A file in which the damping factor is a list. -/
def listAsFactor : ByteArray :=
  "detection:\n  damping_factor: [1, 2]\n".toUTF8

theorem exists_configured_listAsFactor :
    ∃ entries, ConfiguredBy (configured listAsFactor) "." entries ∧
      Config.Scalar.damping.Misread entries :=
  exists_configured "detection:\n  damping_factor: [1, 2]\n"
    (by decide +kernel) (by decide +kernel)

theorem misread_scalar_passed_over_of_list : ∃ entries config,
    ConfiguredBy (configured listAsFactor) "." entries ∧
      Config.Scalar.damping.Misread entries ∧
      loadConfig (configured listAsFactor) "." = .ok config ∧
      ∃ absent, Config.ofEntries (Config.Scalar.damping.dropFrom entries) = .ok absent ∧
        absent.detection.damping = ({} : Config).detection.damping ∧ config = absent := by
  obtain ⟨entries, stands, misread⟩ := exists_configured_listAsFactor
  have loaded : (loadConfig (configured listAsFactor) ".").toOption.isSome = true := by
    decide +kernel
  obtain ⟨config, some⟩ := Option.isSome_iff_exists.mp loaded
  have given := Outcome.eq_ok_of_toOption some
  exact ⟨entries, config, stands, misread, given, misread_scalar_passed_over stands misread given⟩

/-- A file in which the bound on the length of cycles is a word. -/
def wordAsDepth : ByteArray :=
  "aggregation:\n  max_circular_depth: lots\n".toUTF8

theorem exists_configured_wordAsDepth :
    ∃ entries, ConfiguredBy (configured wordAsDepth) "." entries ∧
      Config.Scalar.maxCycleDepth.Misread entries :=
  exists_configured "aggregation:\n  max_circular_depth: lots\n"
    (by decide +kernel) (by decide +kernel)

/-- A word in place of the bound on the length of cycles does not leave the default. -/
theorem cycle_bound_lost_to_word : ¬ ∀ f entries config,
    ConfiguredBy (configured wordAsDepth) "." entries → Config.Scalar.Misread f entries →
      loadConfig (configured wordAsDepth) "." = .ok config → f.value config = f.value {} := by
  obtain ⟨entries, stands, misread⟩ := exists_configured_wordAsDepth
  have loaded : (loadConfig (configured wordAsDepth) ".").toOption.map
      (fun config => config.aggregation.maxCycleDepth) = some none := by
    decide +kernel
  obtain ⟨config, some, lost⟩ := Option.map_eq_some_iff.mp loaded
  intro kept
  have bounded := kept .maxCycleDepth entries config stands misread (Outcome.eq_ok_of_toOption some)
  exact nomatch lost.symm.trans bounded

end Survey

end RepoSurvey
