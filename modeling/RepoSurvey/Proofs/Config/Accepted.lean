import RepoSurvey.Detection.Framework
import RepoSurvey.Proofs.Config.Refusals
import RepoSurvey.Proofs.Detection.Achievable

/-!
# What an accepted configuration weighs with

A number that weighs the evidence is refused when it is zero or less, and what is no number is
neither. So in a configuration that is accepted each of them is positive or no number (`Accepted`).
Where they are numbers every scale is a positive number, except that an infinite factor makes none
of it where nothing could be found (`scale_pos_iff`), and against a scale that is a positive number
every confidence lies between zero and one (`confidence_within`). Whatever the scale, what is
reported lies there (`reported_within`): a confidence that is no number reaches no threshold.
-/

namespace RepoSurvey

open Decimal

namespace Detection.Framework

variable {corpus : Corpus} {profiles : List Profile} {p : Profile} {w : Weighing Float}

/-! ## Scales and confidences -/

/-- A factor that is positive damps what could be found to no number only if it is infinite and
nothing could be found. -/
theorem isNaN_damped_iff (known : p ∈ Framework.profiles)
    (damping : w.damping.isNaN ∨ 0 < w.damping) :
    ((achievable p corpus : Float) * w.damping).isNaN ↔
      w.damping.isNaN ∨ (achievable p corpus = 0 ∧ w.damping.isInf) := by
  have number : ¬ (achievable p corpus : Float).isNaN :=
    (zero_le_iff.mp (Double.zero_le_ofNat _)).1
  have nonzero : ¬ (w.damping == 0) := by
    intro zero
    rcases damping with none | positive
    · exact (beq_iff.mp zero).1 none
    · exact Double.not_beq_zero_of_pos positive zero
  rw [isNaN_mul_iff, ofNat_beq_zero_iff (achievable_le_of_known known)]
  simp only [number, nonzero, Bool.false_eq_true, false_or, and_false]

/-- Over a floor that is a number every scale is a positive number, unless the factor is none or
is infinite and nothing could be found. -/
theorem scale_pos_iff (known : p ∈ Framework.profiles) (floored : 0 < w.floor)
    (damping : w.damping.isNaN ∨ 0 < w.damping) : 0 < scale w p corpus ↔
      ¬ w.damping.isNaN ∧ (achievable p corpus ≠ 0 ∨ ¬ w.damping.isInf) := by
  have some : (¬ w.damping.isNaN ∧ (achievable p corpus ≠ 0 ∨ ¬ w.damping.isInf)) ↔
      ¬ ((achievable p corpus : Float) * w.damping).isNaN := by
    rw [isNaN_damped_iff known damping, not_or, not_and_or]
  rw [some, scale]
  split
  next low => exact iff_of_true floored (lt_iff.mp low).1
  next high =>
    refine ⟨fun positive => (lt_iff.mp positive).2.1, fun number => ?_⟩
    exact Double.lt_of_lt_of_le floored
      (Double.le_of_not_lt number (lt_iff.mp floored).2.1 high)

/-- A confidence on a scale that is a positive number lies between zero and one. -/
theorem confidence_within {score : Nat} {scale : Float} (positive : 0 < scale)
    (finite : ¬ (score : Float).isInf) : 0 ≤ confidence score scale ∧ confidence score scale ≤ 1 := by
  have unit : (0 : Float) ≤ 1 ∧ (1 : Float) ≤ 1 := by decide +kernel
  have nonnegative : 0 ≤ (score : Float) := Double.zero_le_ofNat score
  have number : ¬ ((score : Float) / scale).isNaN := by
    intro none
    rcases isNaN_div_iff.mp none with none | none | ⟨infinite, -⟩ | ⟨-, zero⟩
    · exact (zero_le_iff.mp nonnegative).1 none
    · exact (lt_iff.mp positive).2.1 none
    · exact finite infinite
    · exact Double.not_beq_zero_of_pos positive zero
  rw [confidence]
  split
  next => exact unit
  next low =>
    exact ⟨Double.zero_le_div nonnegative positive number,
      Double.le_of_not_lt (le_iff.mp unit.2).1 number low⟩

theorem zero_le_least : ∀ p ∈ Framework.profiles, (0 : Float) ≤ p.least := by
  decide +kernel

/-- What is reported has a confidence between zero and one, whatever it is measured against. -/
theorem reported_within (known : profiles ⊆ Framework.profiles)
    {found : List (FrameworkDetection Float)} (ok : detect w profiles corpus = .ok found) :
    ∀ d ∈ found, 0 ≤ d.confidence ∧ d.confidence ≤ 1 := by
  intro d there
  obtain ⟨p, mem, spoken, reached⟩ := (mem_detect_iff ok).mp there
  have reached : p.least ≤ d.confidence := of_decide_eq_true reached
  refine ⟨Double.le_trans (zero_le_least p (known mem)) reached, ?_⟩
  have unit : (1 : Float) ≤ 1 := by decide +kernel
  have number := (le_iff.mp reached).2.1
  obtain ⟨-, -, rfl⟩ := weigh_eq_some_iff.mp spoken
  rw [verdict, confidence] at number ⊢
  split at number
  next more =>
    rw [if_pos more]
    exact unit
  next low =>
    rw [if_neg low]
    exact Double.le_of_not_lt (le_iff.mp unit).1 number low

/-- What the numbers of a configuration are good for. -/
structure Weighs (settings : DetectionSettings) : Prop where
  /-- Over a least score that is a number there always are detections. -/
  answers : ¬ settings.floor.isNaN → ∀ profiles corpus,
    ∃ found, detect (ofSettings settings) profiles corpus = .ok found
  /-- Over a least score that is a number every scale is a positive number, unless the damping
  factor is none, or is infinite where nothing could be found. -/
  scales : ¬ settings.floor.isNaN → ∀ p ∈ Framework.profiles, ∀ corpus,
    (0 < scale (ofSettings settings) p corpus ↔
      ¬ settings.damping.isNaN ∧ (achievable p corpus ≠ 0 ∨ ¬ settings.damping.isInf))
  /-- On a scale that is a positive number the confidence of a score lies between zero and one. -/
  confidences : ∀ p corpus, 0 < scale (ofSettings settings) p corpus →
    ∀ score : Nat, ¬ (score : Float).isInf →
      0 ≤ confidence score (scale (ofSettings settings) p corpus) ∧
        confidence score (scale (ofSettings settings) p corpus) ≤ 1
  /-- On any scale what is reported has a confidence between zero and one. -/
  reports : ∀ profiles ⊆ Framework.profiles, ∀ corpus found,
    detect (ofSettings settings) profiles corpus = .ok found →
      ∀ d ∈ found, 0 ≤ d.confidence ∧ d.confidence ≤ 1

theorem weighs_of_positive {settings : DetectionSettings}
    (damping : settings.damping.isNaN ∨ 0 < settings.damping)
    (floor : settings.floor.isNaN ∨ 0 < settings.floor) : Weighs settings where
  answers number _ _ := (failsIff_detect ..).exists_ok
    (not_offScale_of_floor_pos (floor.resolve_left number))
  scales number _ known _ := scale_pos_iff known (floor.resolve_left number) damping
  confidences _ _ positive _ finite := confidence_within positive finite
  reports _ known _ _ ok := reported_within known ok

end Detection.Framework

/-! ## Accepted configurations -/

namespace Config

variable {entries : Table Setting} {config : Config} {reader : Setting.Reader} {bytes : ByteArray}

/-- What holds of a configuration that is accepted: a size limit allows some size, and each number
that weighs the evidence is positive or no number. -/
structure Accepted (config : Config) : Prop where
  /-- The size limit is positive. -/
  size : 1 ≤ config.scan.maxFileSize
  /-- The damping factor is positive or no number. -/
  damping : config.detection.damping.isNaN ∨ 0 < config.detection.damping
  /-- The least score is positive or no number. -/
  floor : config.detection.floor.isNaN ∨ 0 < config.detection.floor

theorem accepted_default : Accepted {} where
  size := by decide
  damping := by decide +kernel
  floor := by decide +kernel

theorem size_of_scanOf {scan : ScanSettings} (given : scanOf entries = .ok scan) :
    1 ≤ scan.maxFileSize := by
  have read := readFrom_of_scanOf given
  rw [read.maxFileSize]
  exact Int.not_le.mp read.accepted

theorem positive_eq_ok {key : String} {default x : Float} {refusal : ConfigError}
    (default_positive : 0 < default) (given : positive entries key default refusal = .ok x) :
    x.isNaN ∨ 0 < x := by
  have zero : ¬ (0 : Float).isNaN := by decide +kernel
  obtain ⟨value, -, given⟩ := Outcome.exists_of_bind_ok given
  cases value with
  | none =>
    cases given
    exact .inr default_positive
  | some y =>
    by_cases low : y ≤ 0
    · exact nomatch (if_pos low).symm.trans given
    · cases (if_neg low).symm.trans given
      by_cases none : x.isNaN
      · exact .inl none
      · exact .inr (Double.lt_of_not_le none zero low)

theorem accepted_ofEntries (given : ofEntries entries = .ok config) : Accepted config := by
  obtain ⟨scanned, weighed, -⟩ := ofEntries_eq_ok_iff.mp given
  obtain ⟨damped, floored⟩ := detectionOf_eq_ok weighed
  exact ⟨size_of_scanOf scanned, positive_eq_ok (by decide +kernel) damped,
    positive_eq_ok (by decide +kernel) floored⟩

theorem accepted_ofBytes (given : ofBytes bytes reader = .ok config) : Accepted config := by
  rw [ofBytes] at given
  split at given
  next =>
    obtain ⟨entries, -, given⟩ := Outcome.exists_of_bind_ok given
    exact accepted_ofEntries given
  next => cases given

end Config

namespace Survey

variable {ws : Scan.Workspace} {path : String} {reader : Setting.Reader} {config : Config}

theorem accepted_loadConfig (given : loadConfig ws path reader = .ok config) :
    Config.Accepted config := by
  rw [loadConfig] at given
  split at given
  next =>
    cases given
    exact Config.accepted_default
  next => cases given
  next =>
    split at given
    next read =>
      cases given
      exact Config.accepted_ofBytes read
    next => cases given

/-- A configuration that is accepted allows some size and weighs with numbers that are positive or
none, and what is weighed with them is as follows. -/
theorem weighs_of_loadConfig (given : loadConfig ws path reader = .ok config) :
    Config.Accepted config ∧ Detection.Framework.Weighs config.detection :=
  have accepted := accepted_loadConfig given
  ⟨accepted, Detection.Framework.weighs_of_positive accepted.damping accepted.floor⟩

/-- A configuration with a damping factor. -/
def dampedBy (factor : String) : ByteArray :=
  ("detection:\n  damping_factor: " ++ factor ++ "\n").toUTF8

/-- A factor that is no number is accepted. -/
theorem loadConfig_accepts_noNumber : ¬ ∀ config,
    loadConfig (configured (dampedBy ".nan")) "." = .ok config → 0 < config.detection.damping := by
  have accepted : (loadConfig (configured (dampedBy ".nan")) ".").toOption.map
      (fun config => decide (0 < config.detection.damping)) = some false := by
    decide +kernel
  intro positive
  obtain ⟨config, given, low⟩ := Option.map_eq_some_iff.mp accepted
  exact of_decide_eq_false low (positive config (Outcome.eq_ok_of_toOption given))

theorem weighs_of_loadConfig_of_half : ∃ config,
    loadConfig (configured (dampedBy "0.5")) "." = .ok config ∧
      Config.Accepted config ∧ Detection.Framework.Weighs config.detection := by
  have loaded : (loadConfig (configured (dampedBy "0.5")) ".").toOption.isSome = true := by
    decide +kernel
  obtain ⟨config, some⟩ := Option.isSome_iff_exists.mp loaded
  have given := Outcome.eq_ok_of_toOption some
  exact ⟨config, given, weighs_of_loadConfig given⟩

end Survey

end RepoSurvey
