import Mathlib.Algebra.GroupWithZero.Nat
import RepoSurvey.Detection.Framework.Score
import RepoSurvey.Proofs.Decimal.Order
import RepoSurvey.Proofs.Outcomes

/-!
# Frameworks and the order of files

The evidence for a framework is a sum over files, and the scale it is measured
against asks only which languages there are. So which frameworks are reported,
with what confidence and in what order, does not depend on the order of the
files (`titles_detect_of_perm`), and neither does the failure of a scale that
is zero. The order of the files shows only in the order in which a detection
lists its evidence.

There is a result unless evidence meets a scale of zero (`OffScale`), which
fails the detection as a whole. With a positive floor that cannot happen
(`not_offScale_of_floor_pos`).
-/

namespace RepoSurvey.Detection.Framework

variable {corpus corpus' : Corpus} {profiles : List Profile} {name : String} {p : Profile}

/-! ## Score and scale -/

theorem foldl_add (found : List (String × Sign)) (e : Evidence) :
    found.foldl (fun e (path, s) => e.add path s) e =
      { score := e.score + (found.map fun found => found.2.weight).sum
        files := e.files ++ found.map fun found => found.1
        signs := e.signs ++ found.map fun found => found.2.id } := by
  induction found generalizing e with
  | nil => simp only [List.foldl_nil, List.map_nil, List.sum_nil, Nat.add_zero, List.append_nil]
  | cons first rest ih =>
    rw [List.foldl_cons, ih]
    simp only [Evidence.add, List.map_cons, List.sum_cons, Nat.add_assoc, List.append_assoc,
      List.singleton_append]

/-- The evidence for a name lists the signs that were found and sums up their weights. -/
theorem evidence_eq : evidence profiles name corpus =
    { score := ((findings profiles name corpus).map fun found => found.2.weight).sum
      files := (findings profiles name corpus).map fun found => found.1
      signs := (findings profiles name corpus).map fun found => found.2.id } := by
  rw [evidence, foldl_add]
  simp only [Nat.zero_add, List.nil_append]

theorem score_evidence : (evidence profiles name corpus).score =
    ((findings profiles name corpus).map fun found => found.2.weight).sum := by
  rw [evidence_eq]

/-- The score does not depend on the order of the files. -/
theorem score_evidence_of_perm (perm : corpus.Perm corpus') :
    (evidence profiles name corpus).score = (evidence profiles name corpus').score := by
  rw [score_evidence, score_evidence]
  exact (((perm.filter _).flatMap_right _).map _).sum_nat

/-- What could be found is a sum of weights. -/
theorem achievable_eq : achievable p corpus =
    ((p.signs.filter fun s => s.isAchievable corpus).map Sign.weight).sum := by
  rw [achievable, List.sum_eq_foldr, List.foldr_map]

/-- What could be found depends only on the languages that are known, and on whether there are
files. -/
theorem achievable_congr (empty : corpus = [] ↔ corpus' = [])
    (same : ∀ language, language ∈ knownLanguages corpus ↔ language ∈ knownLanguages corpus') :
    achievable p corpus = achievable p corpus' := by
  have each (s : Sign) : s.isAchievable corpus = s.isAchievable corpus' := by
    rw [Sign.isAchievable, Sign.isAchievable, Bool.eq_iff_iff.mpr
      (List.isEmpty_iff.trans (empty.trans List.isEmpty_iff.symm)), Bool.eq_iff_iff.mpr
      (List.any_eq_true.trans ((exists_congr fun language => and_congr_left' (same language)).trans
        List.any_eq_true.symm))]
  simp only [achievable, each]

theorem achievable_of_perm (perm : corpus.Perm corpus') :
    achievable p corpus = achievable p corpus' := by
  refine achievable_congr ⟨fun none => ?_, fun none => ?_⟩ fun language =>
    ((perm.map _).filter _).mem_iff
  · exact (none ▸ perm).nil_eq.symm
  · exact (none ▸ perm).eq_nil

theorem scale_of_perm {α : Type} [NatCast α] [Mul α] [LT α] [DecidableLT α] {w : Weighing α}
    (perm : corpus.Perm corpus') : scale w p corpus = scale w p corpus' := by
  rw [scale, scale, achievable_of_perm perm]

/-! ## Detections without their evidence -/

open Outcome (FailsIff failsIff_mapM failsIff_ok map_map map_mapM)

section

variable {α : Type} [NatCast α] [Mul α] [Div α] [BEq α] [LT α] [DecidableLT α] {w : Weighing α}

/-- The name and the confidence of a detection. -/
def title (d : FrameworkDetection α) : String × α :=
  (d.name, d.confidence)

/-- What the evidence says for one profile is the same, the evidence itself aside. -/
theorem title_weigh_of_perm (perm : corpus.Perm corpus') (p : Profile) :
    (weigh w profiles corpus p).map (Option.map title) =
      (weigh w profiles corpus' p).map (Option.map title) := by
  simp only [weigh, score_evidence_of_perm perm, scale_of_perm perm]
  split
  · rfl
  · split <;> rfl

variable [LE α] [DecidableLE α]

/-- Those of the detections for one profile that are reported. -/
def reported (w : Weighing α) (profiles : List Profile) (corpus : Corpus) (p : Profile) :
    Except Failure (List (FrameworkDetection α)) :=
  (weigh w profiles corpus p).map fun found => found.toList.filter (reaches p)

theorem title_reported (corpus : Corpus) (p : Profile) :
    (reported w profiles corpus p).map (List.map title) =
      ((weigh w profiles corpus p).map (Option.map title)).map fun found =>
        found.toList.filter fun t => decide (p.least ≤ t.2) := by
  rw [reported, map_map, map_map]
  refine congrArg (Except.map · _) (funext fun found => ?_)
  cases found with
  | none => rfl
  | some d =>
    show List.map title ([d].filter (reaches p)) = [title d].filter _
    rw [← List.map_singleton, List.filter_map]
    rfl

theorem detect_eq (corpus : Corpus) : detect w profiles corpus =
    (profiles.mapM (reported w profiles corpus)).map fun weighed =>
      weighed.flatten.mergeSort fun a b => decide (b.confidence ≤ a.confidence) :=
  rfl

theorem titles_detect (corpus : Corpus) :
    (detect w profiles corpus).map (List.map title) =
      (profiles.mapM fun p => (reported w profiles corpus p).map (List.map title)).map
        fun titles => titles.flatten.mergeSort fun a b => decide (b.2 ≤ a.2) := by
  rw [detect_eq, ← map_mapM, map_map, map_map]
  refine congrArg (Except.map · _) (funext fun weighed => ?_)
  rw [← List.map_flatten]
  exact List.map_mergeSort fun _ _ _ _ => rfl

/-- The frameworks that are reported, their confidence and their order do not
depend on the order of the files. -/
theorem titles_detect_of_perm (w : Weighing α) (profiles : List Profile)
    (perm : corpus.Perm corpus') :
    (detect w profiles corpus).map (List.map title) =
      (detect w profiles corpus').map (List.map title) := by
  simp only [titles_detect, title_reported, title_weigh_of_perm perm]

/-! ## Scales of zero -/

/-- There is evidence for a profile whose scale is zero. -/
def Unmeasured (w : Weighing α) (profiles : List Profile) (corpus : Corpus) (p : Profile) : Prop :=
  (evidence profiles p.name corpus).score ≠ 0 ∧ (scale w p corpus == ((0 : Nat) : α)) = true

/-- There is evidence for some profile whose scale is zero. -/
def OffScale (w : Weighing α) (profiles : List Profile) (corpus : Corpus) : Prop :=
  ∃ p ∈ profiles, Unmeasured w profiles corpus p

/-- Only evidence that cannot be measured gives no result. -/
theorem failsIff_reported (w : Weighing α) (profiles : List Profile) (corpus : Corpus)
    (p : Profile) :
    FailsIff .noScale (Unmeasured w profiles corpus p) (reported w profiles corpus p) := by
  rw [reported, weigh]
  split
  next none => exact failsIff_ok (fun off => off.1 (beq_iff_eq.mp none)) _
  next evident =>
    by_cases zero : (scale w p corpus == ((0 : Nat) : α)) = true
    · rw [if_pos zero]
      exact .inl ⟨⟨fun none => evident (beq_iff_eq.mpr none), zero⟩, rfl⟩
    · rw [if_neg zero]
      exact failsIff_ok (fun off => zero off.2) _

/-- Only evidence that cannot be measured leaves a corpus without frameworks. -/
theorem failsIff_detect (w : Weighing α) (profiles : List Profile) (corpus : Corpus) :
    FailsIff .noScale (OffScale w profiles corpus) (detect w profiles corpus) :=
  (failsIff_mapM fun p _ => failsIff_reported w profiles corpus p).map _

end

/-! ## Positive floors -/

/-- Over a positive floor no scale is zero, so there always is a result. -/
theorem not_offScale_of_floor_pos {w : Weighing Float} (positive : 0 < w.floor) :
    ¬ OffScale w profiles corpus := by
  rintro ⟨p, -, -, zero⟩
  rw [scale] at zero
  split at zero
  next => exact Decimal.Double.not_beq_zero_of_pos positive zero
  next high => exact high (Decimal.Double.lt_of_beq_zero zero positive)

end RepoSurvey.Detection.Framework
