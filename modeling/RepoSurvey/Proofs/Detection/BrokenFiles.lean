import RepoSurvey.Detection.Framework
import RepoSurvey.Proofs.Detection.Evidence

/-!
# Files that are broken

A file whose analysis carries an error gives no evidence (`evidence_usable`), but its language
counts when it is asked what a corpus could yield. Two corpora with the same evidence have the same
detections exactly if what they measure it against makes no difference that shows
(`detect_eq_iff_of_evidence_eq`), so a broken file is inert exactly if its language moves no
framework across its threshold and no confidence that is reported (`detect_usable_iff`). A broken
file in a language of a file that is not broken is always inert; one in a further language can
take a framework away (`not_inert_of_brokenDart`), and in exact numbers that is all it can do
(`exists_detection_of_usable`).
-/

namespace RepoSurvey.Detection.Framework

variable {corpus corpus' : Corpus} {profiles : List Profile} {name : String} {p : Profile}

/-- No two of the profiles have one name. -/
def NamesApart (profiles : List Profile) : Prop :=
  ∀ p ∈ profiles, ∀ q ∈ profiles, p.name = q.name → p = q

theorem namesApart_of_subset (known : profiles ⊆ Framework.profiles) : NamesApart profiles :=
  have apart : (Framework.profiles.map Profile.name).Nodup := by decide
  fun _ left _ right same => List.inj_on_of_nodup_map apart (known left) (known right) same

/-! ## One evidence, two scales -/

section

variable {α : Type} [NatCast α] [Mul α] [Div α] [LT α] [DecidableLT α] {w : Weighing α}

theorem verdict_eq_of_confidence_eq
    (same : evidence profiles p.name corpus = evidence profiles p.name corpus')
    (as : (verdict w profiles corpus p).confidence = (verdict w profiles corpus' p).confidence) :
    verdict w profiles corpus p = verdict w profiles corpus' p := by
  rw [verdict, verdict] at as ⊢
  rw [FrameworkDetection.mk.injEq]
  exact ⟨rfl, as, congrArg (distinct ·.files) same, congrArg (distinct ·.signs) same⟩

variable [BEq α]

theorem weigh_of_measured (measured : ¬ OffScale w profiles corpus) (known : p ∈ profiles)
    (evident : (evidence profiles p.name corpus).score ≠ 0) :
    weigh w profiles corpus p = .ok (some (verdict w profiles corpus p)) :=
  weigh_eq_some_iff.mpr ⟨evident, fun zero => measured ⟨p, known, evident, zero⟩, rfl⟩

variable [LE α] [DecidableLE α]

/-- Two corpora say the same of a profile as far as it shows: with one confidence, or both below
its threshold. -/
def Alike (w : Weighing α) (profiles : List Profile) (corpus corpus' : Corpus) (p : Profile) :
    Prop :=
  (verdict w profiles corpus p).confidence = (verdict w profiles corpus' p).confidence ∨
    (¬ p.least ≤ (verdict w profiles corpus p).confidence ∧
      ¬ p.least ≤ (verdict w profiles corpus' p).confidence)

/-- What is reported has its confidence in every corpus with the same detections. -/
theorem confidence_eq_of_detect_eq (apart : NamesApart profiles)
    (measured : ¬ OffScale w profiles corpus)
    (same : detect w profiles corpus = detect w profiles corpus') (known : p ∈ profiles)
    (evident : (evidence profiles p.name corpus).score ≠ 0)
    (reached : p.least ≤ (verdict w profiles corpus p).confidence) :
    (verdict w profiles corpus p).confidence = (verdict w profiles corpus' p).confidence := by
  obtain ⟨found, ok⟩ := (failsIff_detect ..).exists_ok measured
  have there := (mem_detect_iff ok).mpr
    ⟨p, known, weigh_of_measured measured known evident, decide_eq_true reached⟩
  obtain ⟨q, known', spoken, -⟩ := (mem_detect_iff (same ▸ ok)).mp there
  obtain ⟨-, -, is⟩ := weigh_eq_some_iff.mp spoken
  cases apart p known q known' (congrArg FrameworkDetection.name is)
  exact congrArg FrameworkDetection.confidence is

theorem reported_eq_of_alike
    (same : ∀ name, evidence profiles name corpus = evidence profiles name corpus')
    (measured : ¬ OffScale w profiles corpus) (measured' : ¬ OffScale w profiles corpus')
    (known : p ∈ profiles)
    (alike : (evidence profiles p.name corpus).score ≠ 0 → Alike w profiles corpus corpus' p) :
    reported w profiles corpus p = reported w profiles corpus' p := by
  by_cases evident : (evidence profiles p.name corpus).score = 0
  · rw [reported, reported, weigh, weigh, ← same, evident]
    rfl
  · have spoken := weigh_of_measured measured known evident
    have spoken' := weigh_of_measured measured' known (same p.name ▸ evident)
    rw [reported, reported, spoken, spoken']
    rcases alike evident with as | ⟨low, low'⟩
    · rw [verdict_eq_of_confidence_eq (same p.name) as]
    · have dropped : reaches p (verdict w profiles corpus p) = false := decide_eq_false low
      have dropped' : reaches p (verdict w profiles corpus' p) = false := decide_eq_false low'
      simp only [Except.map, Option.toList, List.filter, dropped, dropped']

/-- Two corpora with the same evidence have the same detections if and only if some evidence meets
a scale of zero in both or in neither, and where none does, every framework with evidence has one
confidence in both or stays below its threshold in both. -/
theorem detect_eq_iff_of_evidence_eq (apart : NamesApart profiles)
    (same : ∀ name, evidence profiles name corpus = evidence profiles name corpus') :
    detect w profiles corpus = detect w profiles corpus' ↔
      (OffScale w profiles corpus ↔ OffScale w profiles corpus') ∧
        (¬ OffScale w profiles corpus → ∀ p ∈ profiles,
          (evidence profiles p.name corpus).score ≠ 0 → Alike w profiles corpus corpus' p) := by
  by_cases off : OffScale w profiles corpus <;> by_cases off' : OffScale w profiles corpus'
  · rw [(failsIff_detect ..).eq_error off, (failsIff_detect ..).eq_error off']
    simp only [off, off', not_true, false_imp_iff, and_self]
  · obtain ⟨found, ok⟩ := (failsIff_detect ..).exists_ok off'
    rw [(failsIff_detect ..).eq_error off, ok]
    simp only [off, off', iff_false, not_true, false_and, reduceCtorEq]
  · obtain ⟨found, ok⟩ := (failsIff_detect ..).exists_ok off
    rw [(failsIff_detect ..).eq_error off', ok]
    simp only [off, off', iff_true, false_and, reduceCtorEq]
  · simp only [off, off', true_and, not_false_eq_true, true_imp_iff]
    constructor
    · intro equal p known evident
      by_cases reached : p.least ≤ (verdict w profiles corpus p).confidence
      · exact .inl (confidence_eq_of_detect_eq apart off equal known evident reached)
      · by_cases reached' : p.least ≤ (verdict w profiles corpus' p).confidence
        · have evident' := same p.name ▸ evident
          exact .inl
            (confidence_eq_of_detect_eq apart off' equal.symm known evident' reached').symm
        · exact .inr ⟨reached, reached'⟩
    · intro alike
      rw [detect_eq, detect_eq, Outcome.mapM_congr fun p known =>
        reported_eq_of_alike same off off' known (alike p known)]

end

/-! ## Broken files -/

theorem usable_subset : corpus.usable ⊆ corpus :=
  List.filter_subset_self corpus

/-- Files that are broken give no evidence. -/
theorem evidence_usable : evidence profiles name corpus.usable = evidence profiles name corpus := by
  have again : corpus.usable.usable = corpus.usable := by
    simp only [Corpus.usable, List.filter_filter, Bool.and_self]
  rw [evidence, evidence, findings, findings, again]

/-- Every language is not known, or that of a file that is not broken. -/
def BrokenAreFamiliar (corpus : Corpus) : Prop :=
  ∀ entry ∈ corpus, entry.2.language = unknownLanguage ∨ entry.2.language = "" ∨
    ∃ other ∈ corpus.usable, other.2.language = entry.2.language

section

variable {α : Type} [NatCast α] [Mul α] [Div α] [BEq α] [LT α] [DecidableLT α] {w : Weighing α}

theorem weigh_usable (familiar : BrokenAreFamiliar corpus) :
    weigh w profiles corpus.usable p = weigh w profiles corpus p := by
  rw [weigh, weigh, evidence_usable]
  by_cases none : (evidence profiles p.name corpus).score = 0
  · simp only [none, beq_self_eq_true, if_true]
  · have filled : corpus.usable ≠ [] := ne_nil_of_score (evidence_usable.symm ▸ none)
    rw [scale, scale, achievable_of_familiar usable_subset filled familiar]

variable [LE α] [DecidableLE α]

/-- Broken files are inert if and only if without them evidence meets a scale of zero just when it
does with them, and otherwise every framework with evidence keeps its confidence or is below its
threshold with and without them. They give no evidence of their own, and where their languages are
those of other files they are inert. -/
theorem detect_usable_iff (w : Weighing α) (apart : NamesApart profiles) (corpus : Corpus) :
    (∀ name, evidence profiles name corpus.usable = evidence profiles name corpus) ∧
      (detect w profiles corpus.usable = detect w profiles corpus ↔
        (OffScale w profiles corpus.usable ↔ OffScale w profiles corpus) ∧
          (¬ OffScale w profiles corpus → ∀ p ∈ profiles,
            (evidence profiles p.name corpus).score ≠ 0 →
              Alike w profiles corpus.usable corpus p)) ∧
      (BrokenAreFamiliar corpus → detect w profiles corpus.usable = detect w profiles corpus) := by
  refine ⟨fun name => evidence_usable, ?_, fun familiar => ?_⟩
  · rw [detect_eq_iff_of_evidence_eq apart fun _ => evidence_usable]
    simp only [evidence_usable]
    exact and_congr_right fun off => by rw [off]
  · simp only [detect, weigh_usable familiar]

end

/-- A file that is given up. -/
def brokenFile (path language : String) : FileAnalysis where
  path := path
  language := language
  error := some "Analysis failed: boom"

/-- A package of which the only Dart file is broken. -/
def brokenDart : Corpus :=
  [("pubspec.yaml", { path := "pubspec.yaml", language := "yaml" }),
    ("broken.dart", brokenFile "broken.dart" "dart")]

/-- Without the broken file the package is one of Flutter, with it there is none. -/
theorem not_inert_of_brokenDart : ¬ ∀ corpus : Corpus,
    detect (ofSettings {}) Framework.profiles corpus =
      detect (ofSettings {}) Framework.profiles corpus.usable := by
  intro inert
  have names := congrArg (fun found => found.toOption.map (List.map FrameworkDetection.name))
    (inert brokenDart)
  have hidden : (detect (ofSettings {}) Framework.profiles brokenDart).toOption.map
      (List.map FrameworkDetection.name) = some [] := by decide +kernel
  have shown : (detect (ofSettings {}) Framework.profiles brokenDart.usable).toOption.map
      (List.map FrameworkDetection.name) = some ["Flutter"] := by decide +kernel
  cases hidden.symm.trans (names.trans shown)

theorem detect_usable_iff_of_brokenDart : NamesApart Framework.profiles ∧
    (∀ name, evidence Framework.profiles name brokenDart.usable =
        evidence Framework.profiles name brokenDart) ∧
      (detect (ofSettings {}) Framework.profiles brokenDart.usable =
          detect (ofSettings {}) Framework.profiles brokenDart ↔
        (OffScale (ofSettings {}) Framework.profiles brokenDart.usable ↔
            OffScale (ofSettings {}) Framework.profiles brokenDart) ∧
          (¬ OffScale (ofSettings {}) Framework.profiles brokenDart →
            ∀ p ∈ Framework.profiles, (evidence Framework.profiles p.name brokenDart).score ≠ 0 →
              Alike (ofSettings {}) Framework.profiles brokenDart.usable brokenDart p)) ∧
      (BrokenAreFamiliar brokenDart →
        detect (ofSettings {}) Framework.profiles brokenDart.usable =
          detect (ofSettings {}) Framework.profiles brokenDart) :=
  have apart := namesApart_of_subset (List.Subset.refl Framework.profiles)
  ⟨apart, detect_usable_iff (ofSettings {}) apart brokenDart⟩

/-! ## Exact numbers -/

/-- In exact numbers a broken file can only take frameworks away and lower a confidence. -/
theorem exists_detection_of_usable {α : Type} [Field α] [LinearOrder α] [IsStrictOrderedRing α]
    {w : Weighing α} (floored : 0 < w.floor) (damped : 0 ≤ w.damping)
    {found found' : List (FrameworkDetection α)} (ok : detect w profiles corpus = .ok found)
    (ok' : detect w profiles corpus.usable = .ok found') :
    ∀ d ∈ found, ∃ d' ∈ found', d'.name = d.name ∧ d.confidence ≤ d'.confidence ∧
      d.evidence ⊆ d'.evidence ∧ d.patterns ⊆ d'.patterns := by
  refine exists_detection_of_gain floored ok ok' (fun name => ?_) fun p _ _ => ?_
  · rw [evidence_usable]
    exact evidence_within (List.Sublist.refl _)
  · rw [scale_eq_max, scale_eq_max]
    have less : achievable p corpus.usable ≤ achievable p corpus :=
      achievable_le_of_subset usable_subset
    exact max_le_max_left _ (mul_le_mul_of_nonneg_right (Nat.cast_le.mpr less) damped)

end RepoSurvey.Detection.Framework
