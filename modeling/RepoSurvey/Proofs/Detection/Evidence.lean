import Mathlib.Algebra.Order.BigOperators.Group.List
import Mathlib.Algebra.Order.Field.Basic
import Mathlib.Algebra.Order.Field.Rat
import Mathlib.Data.List.Flatten
import RepoSurvey.Detection.Framework.Known
import RepoSurvey.Proofs.Detection.Frameworks
import RepoSurvey.Proofs.Tally

/-!
# More files, more evidence

A corpus with more files yields more evidence, and against a scale that is not greater more
evidence gives no less confidence. So a framework that is reported stays reported when its evidence
grows and its scale does not (`exists_detection_of_gain`). Here numbers are exact.

A file that brings no new language leaves every scale as it is, so adding one takes no framework
away and lowers no confidence (`detections_kept`), and every confidence that is reported lies
between the threshold of its profile and one.
-/

namespace RepoSurvey.Detection.Framework

variable {corpus corpus' : Corpus} {profiles : List Profile} {name : String} {p : Profile}

/-! ## Evidence -/

theorem findings_sublist (more : corpus.Sublist corpus') :
    (findings profiles name corpus).Sublist (findings profiles name corpus') :=
  (more.filter _).flatMap _

/-- All of one evidence is part of another. -/
structure Evidence.Within (e e' : Evidence) : Prop where
  /-- The weights do not exceed the others. -/
  score : e.score ≤ e'.score
  /-- The files are among the others. -/
  files : e.files ⊆ e'.files
  /-- The signs are among the others. -/
  signs : e.signs ⊆ e'.signs

theorem evidence_within (more : corpus.Sublist corpus') :
    (evidence profiles name corpus).Within (evidence profiles name corpus') := by
  have found : (findings profiles name corpus).Sublist (findings profiles name corpus') :=
    findings_sublist more
  rw [evidence_eq, evidence_eq]
  exact ⟨(found.map _).sum_le_sum fun _ _ => Nat.zero_le _, (found.map _).subset,
    (found.map _).subset⟩

theorem distinct_subset {labels labels' : List String} (some : labels ⊆ labels') :
    distinct labels ⊆ distinct labels' :=
  fun _ there => mem_distinct.mpr (some (mem_distinct.mp there))

theorem mem_knownLanguages {language : String} : language ∈ knownLanguages corpus ↔
    (∃ entry ∈ corpus, entry.2.language = language) ∧ language ≠ "" ∧
      language ≠ unknownLanguage := by
  rw [knownLanguages, List.mem_filter, List.mem_map]
  simp

/-- Evidence comes from files. -/
theorem ne_nil_of_score (evident : (evidence profiles name corpus).score ≠ 0) : corpus ≠ [] := by
  rintro rfl
  exact evident rfl

/-- In more files more could be found. -/
theorem achievable_le_of_subset (more : corpus ⊆ corpus') :
    achievable p corpus ≤ achievable p corpus' := by
  rw [achievable_eq, achievable_eq]
  refine ((List.monotone_filter_right _ fun s could => ?_).map _).sum_le_sum fun _ _ =>
    Nat.zero_le _
  rw [Sign.isAchievable] at could ⊢
  split at could
  next any =>
    rw [if_pos any]
    simp only [Bool.not_eq_true', List.isEmpty_eq_false_iff_exists_mem] at could ⊢
    exact could.imp fun _ there => more there
  next named =>
    rw [if_neg named]
    obtain ⟨language, there, listed⟩ := List.any_eq_true.mp could
    obtain ⟨⟨entry, mem, is⟩, known⟩ := mem_knownLanguages.mp there
    exact List.any_eq_true.mpr
      ⟨language, mem_knownLanguages.mpr ⟨⟨entry, more mem, is⟩, known⟩, listed⟩

/-- Further files whose languages are not known, or those of other files, add nothing that could be
found. -/
theorem achievable_of_familiar (more : corpus ⊆ corpus') (filled : corpus ≠ [])
    (familiar : ∀ entry ∈ corpus', entry.2.language = unknownLanguage ∨ entry.2.language = "" ∨
      ∃ other ∈ corpus, other.2.language = entry.2.language) :
    achievable p corpus = achievable p corpus' := by
  have filled' : corpus' ≠ [] := by
    rintro rfl
    exact filled (List.subset_nil.mp more)
  refine achievable_congr (iff_of_false filled filled') fun language => ?_
  rw [mem_knownLanguages, mem_knownLanguages]
  refine and_congr_left fun known => ⟨?_, ?_⟩
  · rintro ⟨entry, there, rfl⟩
    exact ⟨entry, more there, rfl⟩
  · rintro ⟨entry, there, rfl⟩
    rcases familiar entry there with unknown | empty | familiar
    · exact absurd unknown known.2
    · exact absurd empty known.1
    · exact familiar

/-! ## What is reported -/

section

variable {α : Type} [NatCast α] [Mul α] [Div α] [BEq α] [LT α] [DecidableLT α] {w : Weighing α}

/-- What the evidence for a profile says when there is some. -/
def verdict (w : Weighing α) (profiles : List Profile) (corpus : Corpus) (p : Profile) :
    FrameworkDetection α where
  name := p.name
  confidence := confidence (evidence profiles p.name corpus).score (scale w p corpus)
  evidence := distinct (evidence profiles p.name corpus).files
  patterns := distinct (evidence profiles p.name corpus).signs

theorem weigh_eq_some_iff {d : FrameworkDetection α} :
    weigh w profiles corpus p = .ok (some d) ↔ (evidence profiles p.name corpus).score ≠ 0 ∧
      ¬ (scale w p corpus == ((0 : Nat) : α)) = true ∧ d = verdict w profiles corpus p := by
  rw [weigh]
  by_cases none : (evidence profiles p.name corpus).score = 0
  · simp only [none, beq_self_eq_true, if_true, ne_eq, not_true, false_and, Except.ok.injEq,
      reduceCtorEq]
  · by_cases zero : (scale w p corpus == ((0 : Nat) : α)) = true
    · simp only [beq_iff_eq, none, if_false, zero, if_true, not_true, false_and, and_false,
        reduceCtorEq]
    · simp only [beq_iff_eq, none, if_false, zero, ne_eq, not_false_eq_true, true_and,
        Bool.false_eq_true, Except.ok.injEq, Option.some.injEq]
      exact eq_comm

variable [LE α] [DecidableLE α]

/-- A detection is what the evidence says for a profile that it reaches. -/
theorem mem_detect_iff {found : List (FrameworkDetection α)}
    (ok : detect w profiles corpus = .ok found) {d : FrameworkDetection α} : d ∈ found ↔
      ∃ p ∈ profiles, weigh w profiles corpus p = .ok (some d) ∧ reaches p d = true := by
  rw [detect_eq] at ok
  obtain ⟨weighed, each, rfl⟩ := Outcome.exists_of_map_ok ok
  rw [List.mem_mergeSort, List.mem_flatten]
  simp only [Outcome.mem_iff_of_mapM_ok each]
  constructor
  · rintro ⟨ds, ⟨p, known, read⟩, there⟩
    obtain ⟨given, spoken, rfl⟩ := Outcome.exists_of_map_ok read
    obtain ⟨given, reached⟩ := List.mem_filter.mp there
    rw [Option.mem_toList] at given
    exact ⟨p, known, given ▸ spoken, reached⟩
  · rintro ⟨p, known, spoken, reached⟩
    refine ⟨_, ⟨p, known, by rw [reported, spoken]; rfl⟩, ?_⟩
    exact List.mem_filter.mpr ⟨Option.mem_toList.mpr rfl, reached⟩

end

/-! ## Exact numbers -/

section Exact

variable {α : Type} [Field α] [LinearOrder α] {w : Weighing α}

theorem confidence_eq_min (score : Nat) (scale : α) :
    confidence score scale = min 1 (score / scale) := by
  rw [confidence, Nat.cast_one]
  split
  next more => exact (min_eq_left more.le).symm
  next low => exact (min_eq_right (not_lt.mp low)).symm

theorem scale_eq_max (w : Weighing α) (p : Profile) (corpus : Corpus) :
    scale w p corpus = max w.floor (achievable p corpus * w.damping) := by
  rw [scale]
  split
  next low => exact (max_eq_left low.le).symm
  next high => exact (max_eq_right (not_lt.mp high)).symm

theorem scale_pos (floored : 0 < w.floor) : 0 < scale w p corpus := by
  rw [scale_eq_max]
  exact floored.trans_le (le_max_left _ _)

theorem exists_detect (floored : 0 < w.floor) :
    ∃ found, detect w profiles corpus = .ok found := by
  refine (failsIff_detect ..).exists_ok ?_
  rintro ⟨p, -, -, zero⟩
  exact (scale_pos floored).ne' ((beq_iff_eq.mp zero).trans Nat.cast_zero)

/-- What is reported of a framework lies between its threshold and one. -/
theorem confidence_bounds {found : List (FrameworkDetection α)}
    (ok : detect w profiles corpus = .ok found) :
    ∀ d ∈ found, ∃ p ∈ profiles, p.name = d.name ∧ p.least ≤ d.confidence ∧ d.confidence ≤ 1 := by
  intro d there
  obtain ⟨p, known, spoken, reached⟩ := (mem_detect_iff ok).mp there
  obtain ⟨-, -, rfl⟩ := weigh_eq_some_iff.mp spoken
  refine ⟨p, known, rfl, of_decide_eq_true reached, ?_⟩
  rw [verdict, confidence_eq_min]
  exact min_le_left _ _

variable [IsStrictOrderedRing α]

/-- More evidence on a scale that is not greater gives no less confidence. -/
theorem confidence_le_confidence {score score' : Nat} {scale scale' : α} (more : score ≤ score')
    (finer : scale' ≤ scale) (positive : 0 < scale') :
    confidence score scale ≤ confidence score' scale' := by
  rw [confidence_eq_min, confidence_eq_min]
  exact min_le_min_left _
    (div_le_div₀ (Nat.cast_nonneg _) (Nat.cast_le.mpr more) positive finer)

/-- What is reported stays reported when its evidence grows and its scale does not. -/
theorem exists_detection_of_gain (floored : 0 < w.floor) {found found' : List (FrameworkDetection α)}
    (ok : detect w profiles corpus = .ok found) (ok' : detect w profiles corpus' = .ok found')
    (more : ∀ name, (evidence profiles name corpus).Within (evidence profiles name corpus'))
    (finer : ∀ p ∈ profiles, (evidence profiles p.name corpus).score ≠ 0 →
      scale w p corpus' ≤ scale w p corpus) :
    ∀ d ∈ found, ∃ d' ∈ found', d'.name = d.name ∧ d.confidence ≤ d'.confidence ∧
      d.evidence ⊆ d'.evidence ∧ d.patterns ⊆ d'.patterns := by
  intro d there
  obtain ⟨p, known, spoken, reached⟩ := (mem_detect_iff ok).mp there
  obtain ⟨evident, -, rfl⟩ := weigh_eq_some_iff.mp spoken
  have gain := more p.name
  have surer : (verdict w profiles corpus p).confidence ≤ (verdict w profiles corpus' p).confidence :=
    confidence_le_confidence gain.score (finer p known evident) (scale_pos floored)
  have spoken' : weigh w profiles corpus' p = .ok (some (verdict w profiles corpus' p)) := by
    refine weigh_eq_some_iff.mpr ⟨fun none => evident ?_, fun zero => ?_, rfl⟩
    · exact Nat.le_zero.mp (none ▸ gain.score)
    · exact (scale_pos floored).ne' ((beq_iff_eq.mp zero).trans Nat.cast_zero)
  have reached' : reaches p (verdict w profiles corpus' p) = true :=
    decide_eq_true ((of_decide_eq_true reached).trans surer)
  exact ⟨_, (mem_detect_iff ok').mpr ⟨p, known, spoken', reached'⟩, rfl, surer,
    distinct_subset gain.files, distinct_subset gain.signs⟩

/-! ## A further file -/

theorem achievable_of_further {before after : Corpus} {path : String} {a : FileAnalysis}
    (filled : before ++ after ≠ [])
    (familiar : a.language = unknownLanguage ∨ a.language = "" ∨
      ∃ entry ∈ before ++ after, entry.2.language = a.language) :
    achievable p (before ++ after) = achievable p (before ++ (path, a) :: after) := by
  have more : (before ++ after).Sublist (before ++ (path, a) :: after) :=
    (List.sublist_cons_self _ _).append_left before
  refine achievable_of_familiar more.subset filled fun entry there => ?_
  rcases List.mem_append.mp there with there | there
  · exact .inr (.inr ⟨entry, List.mem_append_left _ there, rfl⟩)
  · rcases List.mem_cons.mp there with rfl | there
    · exact familiar
    · exact .inr (.inr ⟨entry, List.mem_append_right _ there, rfl⟩)

/-- A further file that brings no new language takes no framework away: each is reported with no
less confidence and with all of its evidence, and every confidence lies between the threshold of
its profile and one. This holds of any profiles, whatever the factor that damps, and wherever the
file is put. -/
theorem detections_kept (floored : 0 < w.floor) {before after : Corpus} {path : String}
    {a : FileAnalysis} (familiar : a.language = unknownLanguage ∨ a.language = "" ∨
      ∃ entry ∈ before ++ after, entry.2.language = a.language) :
    ∃ earlier later, detect w profiles (before ++ after) = .ok earlier ∧
      detect w profiles (before ++ (path, a) :: after) = .ok later ∧
      (∀ d ∈ earlier, ∃ d' ∈ later, d'.name = d.name ∧ d.confidence ≤ d'.confidence ∧
        d.evidence ⊆ d'.evidence ∧ d.patterns ⊆ d'.patterns) ∧
      ∀ d ∈ earlier ++ later, ∃ p ∈ profiles, p.name = d.name ∧
        p.least ≤ d.confidence ∧ d.confidence ≤ 1 := by
  obtain ⟨earlier, ok⟩ : ∃ found, detect w profiles (before ++ after) = .ok found :=
    exists_detect floored
  obtain ⟨later, ok'⟩ : ∃ found, detect w profiles (before ++ (path, a) :: after) = .ok found :=
    exists_detect floored
  refine ⟨earlier, later, ok, ok', exists_detection_of_gain floored ok ok' (fun name => ?_)
    fun p _ evident => ?_, fun d there => ?_⟩
  · exact evidence_within ((List.sublist_cons_self _ _).append_left before)
  · rw [scale_eq_max, scale_eq_max, achievable_of_further (ne_nil_of_score evident) familiar]
  · exact (List.mem_append.mp there).elim (confidence_bounds ok d) (confidence_bounds ok' d)

end Exact

/-- A file of models. -/
def modelsFile (path name : String) : FileAnalysis where
  path := path
  language := "python"
  imports := [("django.db", ["models"])]
  classes := [(name, { line := 4, bases := ["models.Model"] })]

/-- The usual way to weigh, in fractions. -/
def usualFractions : Weighing ℚ where
  damping := 3 / 5
  floor := 10

/-- A repository with the models of a blog. -/
def blog : Corpus :=
  [("blog/models.py", modelsFile "blog/models.py" "Post")]

theorem detections_kept_of_second_models : 0 < usualFractions.floor ∧
    (∃ entry ∈ blog ++ [], entry.2.language = (modelsFile "shop/models.py" "Order").language) ∧
    ∃ earlier later, detect usualFractions Framework.profiles (blog ++ []) = .ok earlier ∧
      detect usualFractions Framework.profiles
        (blog ++ [("shop/models.py", modelsFile "shop/models.py" "Order")]) = .ok later ∧
      (∀ d ∈ earlier, ∃ d' ∈ later, d'.name = d.name ∧ d.confidence ≤ d'.confidence ∧
        d.evidence ⊆ d'.evidence ∧ d.patterns ⊆ d'.patterns) ∧
      ∀ d ∈ earlier ++ later, ∃ p ∈ Framework.profiles, p.name = d.name ∧
        p.least ≤ d.confidence ∧ d.confidence ≤ 1 :=
  have floored : 0 < usualFractions.floor := by decide +kernel
  have familiar : ∃ entry ∈ blog ++ [],
      entry.2.language = (modelsFile "shop/models.py" "Order").language :=
    ⟨("blog/models.py", modelsFile "blog/models.py" "Post"), List.mem_cons_self, rfl⟩
  ⟨floored, familiar, detections_kept floored (.inr (.inr familiar))⟩

end RepoSurvey.Detection.Framework
