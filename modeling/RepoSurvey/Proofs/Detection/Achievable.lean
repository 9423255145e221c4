import RepoSurvey.Detection.Framework.Known
import RepoSurvey.Proofs.Decimal.Signs
import RepoSurvey.Proofs.Detection.Evidence
import RepoSurvey.Proofs.Sorting

/-!
# What is found could be found

Whether a sign counts is asked twice: of each file, by its language, and of the corpus, by the set
of its languages. Where every file has a language the two agree: a sign that is found in a file is
one that could be found in the corpus (`isAchievable_of_isIn`), so the weights of what is found sum
up to no more than what could be found, and a single file, measured without damping, does not
exceed its scale even after rounding (`found_le_achievable`).

A file without a language is searched for every sign and adds none that could be found, and a sign
for files that could not be placed could never be found, so neither may occur. No sign of a known
profile is of the second kind (`isOrdinary_of_known`).
-/

namespace RepoSurvey.Detection.Framework

variable {corpus : Corpus} {profiles : List Profile} {p : Profile} {s : Sign}

/-! ## Signs -/

/-- The languages of a sign are languages that can be known. -/
def Sign.IsOrdinary (s : Sign) : Prop :=
  "" ∉ s.languages ∧ unknownLanguage ∉ s.languages

instance (s : Sign) : Decidable s.IsOrdinary :=
  inferInstanceAs (Decidable (_ ∧ _))

theorem isOrdinary_of_known : ∀ p ∈ Framework.profiles, ∀ s ∈ p.signs, s.IsOrdinary := by
  decide

/-- A sign that is found in a file could be found in a corpus with it. -/
theorem isAchievable_of_isIn {entry : String × FileAnalysis} (there : entry ∈ corpus)
    (placed : entry.2.language ≠ "") (ordinary : s.IsOrdinary)
    (found : s.isIn entry.1 entry.2 = true) : s.isAchievable corpus = true := by
  have admitted := (Bool.and_eq_true_iff.mp found).1
  rw [Sign.isAchievable]
  split
  next any => simpa using List.ne_nil_of_mem there
  next named =>
    rw [Sign.admits] at admitted
    have listed : entry.2.language ∈ s.languages := by simpa [named, placed] using admitted
    exact List.any_eq_true.mpr ⟨entry.2.language,
      mem_knownLanguages.mpr ⟨⟨entry, there, rfl⟩, placed, ne_of_mem_of_not_mem listed ordinary.2⟩,
      List.contains_iff_mem.mpr listed⟩

/-! ## Profiles -/

/-- The signs of a profile that are found in some usable file. -/
def Profile.found (p : Profile) (corpus : Corpus) : List Sign :=
  p.signs.filter fun s => corpus.usable.any fun (path, a) => s.isIn path a

theorem found_sublist (ordinary : ∀ s ∈ p.signs, s.IsOrdinary)
    (placed : ∀ entry ∈ corpus, entry.2.language ≠ "") :
    (p.found corpus).Sublist (p.signs.filter fun s => s.isAchievable corpus) := by
  have could : ∀ s ∈ p.signs, (corpus.usable.any fun (path, a) => s.isIn path a) =
      ((corpus.usable.any fun (path, a) => s.isIn path a) && s.isAchievable corpus) := by
    intro s sign
    refine Bool.eq_iff_iff.mpr ((iff_self_and.mpr fun found => ?_).trans Bool.and_eq_true_iff.symm)
    obtain ⟨entry, usable, found⟩ := List.any_eq_true.mp found
    have there := List.mem_of_mem_filter usable
    exact isAchievable_of_isIn there (placed entry there) (ordinary s sign) found
  rw [Profile.found, List.filter_congr could, ← List.filter_filter]
  exact List.filter_sublist

theorem sum_found_le (ordinary : ∀ s ∈ p.signs, s.IsOrdinary)
    (placed : ∀ entry ∈ corpus, entry.2.language ≠ "") :
    ((p.found corpus).map Sign.weight).sum ≤ achievable p corpus := by
  rw [achievable_eq]
  exact ((found_sublist ordinary placed).map _).sum_le_sum fun _ _ => Nat.zero_le _

theorem filter_name (known : p ∈ profiles) (apart : (profiles.map Profile.name).Nodup) :
    (profiles.filter fun q => q.name == p.name) = [p] := by
  rw [filter_beq_eq_withKey]
  have mem : p ∈ withKey Profile.name profiles p.name := mem_withKey.mpr ⟨known, rfl⟩
  obtain ⟨q, only⟩ := List.length_eq_one_iff.mp
    ((length_withKey_le apart).antisymm (List.length_pos_of_mem mem))
  rw [only] at mem ⊢
  rw [List.mem_singleton.mp mem]

/-- The score that a single file gives is the sum of the weights of the signs found in it. -/
theorem score_of_single (known : p ∈ profiles) (apart : (profiles.map Profile.name).Nodup)
    (single : corpus.length ≤ 1) :
    (evidence profiles p.name corpus).score = ((p.found corpus).map Sign.weight).sum := by
  have few : corpus.usable.length ≤ 1 := (List.length_filter_le _ _).trans single
  rw [score_evidence, findings, filter_name known apart, Profile.found]
  cases usable : corpus.usable with
  | nil => simp
  | cons entry rest =>
    rw [usable, List.length_cons, Nat.add_le_add_iff_right, Nat.le_zero, List.length_eq_zero_iff]
      at few
    subst few
    simp [Function.comp_def]

/-! ## Rounding -/

theorem achievable_le_of_known (known : p ∈ Framework.profiles) : achievable p corpus ≤ 135 := by
  have whole : ∀ p ∈ Framework.profiles, (p.signs.map Sign.weight).sum ≤ 135 := by decide
  rw [achievable_eq]
  exact ((List.filter_sublist.map _).sum_le_sum fun _ _ => Nat.zero_le _).trans (whole p known)

/-- Counts that are small enough to be weights of a profile are in order as doubles. -/
theorem ofNat_le_ofNat {m n : Nat} (le : m ≤ n) (small : n ≤ 135) : (m : Float) ≤ (n : Float) := by
  have step : ∀ n < 136, Float.ofNat n ≤ Float.ofNat (n + 1) := by decide +kernel
  induction le with
  | refl =>
    have number := (Decimal.le_iff.mp (step m (by omega))).1
    exact Decimal.le_iff.mpr ⟨number, number, le_rfl⟩
  | step le ih => exact Decimal.Double.le_trans (ih (by omega)) (step _ (by omega))

/-- Of these counts only zero is zero as a double. -/
theorem ofNat_beq_zero_iff {n : Nat} (small : n ≤ 135) : ((n : Float) == 0) ↔ n = 0 := by
  have one : (0 : Float) < Float.ofNat 1 := by decide +kernel
  refine ⟨fun zero => ?_, fun zero => by rw [zero]; decide +kernel⟩
  by_contra more
  have above : (0 : Float) < (n : Float) := Decimal.Double.lt_of_lt_of_le one
    (ofNat_le_ofNat (Nat.one_le_iff_ne_zero.mpr more) small)
  exact Decimal.Double.not_beq_zero_of_pos above zero

/-- What could be found counts in full. -/
def undamped (floor : Float) : Weighing Float where
  damping := 1
  floor := floor

/-- Without damping a scale is not less than what could be found. -/
theorem ofNat_le_scale {n : Nat} (known : p ∈ Framework.profiles) (le : n ≤ achievable p corpus)
    (floor : Float) : (n : Float) ≤ scale (undamped floor) p corpus := by
  have whole : ∀ n < 136, Float.ofNat n ≤ Float.ofNat n * 1 := by decide +kernel
  have small : achievable p corpus ≤ 135 := achievable_le_of_known known
  have below := Decimal.Double.le_trans (ofNat_le_ofNat le small)
    (whole _ (Nat.lt_succ_of_le small))
  rw [scale]
  split
  next low => exact Decimal.Double.le_trans below (Decimal.Double.le_of_lt low)
  next => exact below

/-- The signs of a profile that are found are different, their weights sum up to no more than what
could be found, and without damping a single file has a confidence that needs no bound. -/
theorem found_le_achievable (known : p ∈ Framework.profiles)
    (placed : ∀ entry ∈ corpus, entry.2.language ≠ "") :
    ((p.found corpus).map Sign.id).Nodup ∧
      ((p.found corpus).map Sign.weight).sum ≤ achievable p corpus ∧
      ∀ profiles : List Profile, p ∈ profiles → (profiles.map Profile.name).Nodup →
        corpus.length = 1 → ∀ floor : Float,
          confidence (evidence profiles p.name corpus).score (scale (undamped floor) p corpus) =
            ((evidence profiles p.name corpus).score : Float) / scale (undamped floor) p corpus := by
  have different : ∀ p ∈ Framework.profiles, (p.signs.map Sign.id).Nodup := by decide
  have possible := sum_found_le (isOrdinary_of_known p known) placed
  refine ⟨(different p known).sublist (List.filter_sublist.map _), possible, ?_⟩
  intro profiles among apart single floor
  rw [score_of_single among apart single.le, confidence]
  exact if_neg (Decimal.Double.not_one_lt_div (Decimal.Double.zero_le_ofNat _)
    (ofNat_le_scale known possible floor))

example : ((django.found blog).map Sign.weight).sum = 25 ∧ achievable django blog = 76 := by
  decide +kernel

theorem found_le_achievable_of_blog : django ∈ Framework.profiles ∧
    (∀ entry ∈ blog, entry.2.language ≠ "") ∧
    ((django.found blog).map Sign.id).Nodup ∧
      ((django.found blog).map Sign.weight).sum ≤ achievable django blog ∧
      ∀ profiles : List Profile, django ∈ profiles → (profiles.map Profile.name).Nodup →
        blog.length = 1 → ∀ floor : Float,
          confidence (evidence profiles django.name blog).score (scale (undamped floor) django blog) =
            ((evidence profiles django.name blog).score : Float) /
              scale (undamped floor) django blog :=
  have known : django ∈ Framework.profiles := by simp [Framework.profiles]
  have placed : ∀ entry ∈ blog, entry.2.language ≠ "" := by decide
  ⟨known, placed, found_le_achievable known placed⟩

end RepoSurvey.Detection.Framework
