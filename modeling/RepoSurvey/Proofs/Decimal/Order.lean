import Mathlib.Data.Int.Order.Basic
import Mathlib.Data.Prod.Lex
import Mathlib.Order.Compare

/-!
# The order of doubles

What is measured is a double, and measures are compared. Apart from what is no number, doubles
stand in a linear order: by their kind, then by their exponent, then by their mantissa (`place`).
Every comparison of two doubles is one of their places in which both are numbers (`le_iff`,
`lt_iff`, `beq_iff`), so what holds of a linear order holds of doubles that are numbers.
-/

namespace RepoSurvey.Decimal

open Float.Model Float.Model.UnpackedFloat

/-! ## The order of doubles -/

/-- Where a number stands among the others: its kind, then its exponent, then its mantissa. -/
def place : UnpackedFloat → ℤ ×ₗ ℤ ×ₗ ℤ
  | .notANumber | .zero _ => toLex (0, toLex (0, 0))
  | .infinity .negative => toLex (-2, toLex (0, 0))
  | .infinity .positive => toLex (2, toLex (0, 0))
  | .finite .negative m e _ => toLex (-1, toLex (-e, -(m : ℤ)))
  | .finite .positive m e _ => toLex (1, toLex (e, (m : ℤ)))

theorem compare_toLex (k e m k' e' m' : ℤ) :
    compare (toLex (k, toLex (e, m))) (toLex (k', toLex (e', m'))) =
      (compare k k').then ((compare e e').then (compare m m')) := by
  rw [Prod.Lex.compare_def, compareLex, compareOn, compareOn, Prod.Lex.compare_def]
  rfl

theorem compare_neg (a b : ℤ) : compare (-a) (-b) = (compare a b).swap := by
  rcases lt_trichotomy a b with less | same | more
  · rw [compare_lt_iff_lt.mpr less, compare_gt_iff_gt.mpr (Int.neg_lt_neg less)]
    rfl
  · rw [same, compare_eq_iff_eq.mpr rfl, compare_eq_iff_eq.mpr rfl]
    rfl
  · rw [compare_gt_iff_gt.mpr more, compare_lt_iff_lt.mpr (Int.neg_lt_neg more)]
    rfl

theorem compare_natCast (a b : ℕ) : compare (a : ℤ) (b : ℤ) = compare a b := by
  rcases lt_trichotomy a b with less | same | more
  · rw [compare_lt_iff_lt.mpr less, compare_lt_iff_lt.mpr (Int.ofNat_lt.mpr less)]
  · rw [same, compare_eq_iff_eq.mpr rfl, compare_eq_iff_eq.mpr rfl]
  · rw [compare_gt_iff_gt.mpr more, compare_gt_iff_gt.mpr (Int.ofNat_lt.mpr more)]

theorem compare_of_place {u v : UnpackedFloat} {k e m k' e' m' : ℤ}
    (left : place u = toLex (k, toLex (e, m))) (right : place v = toLex (k', toLex (e', m')))
    (order : u.compare v = some ((compare k k').then ((compare e e').then (compare m m')))) :
    u.compare v = some (compare (place u) (place v)) := by
  rw [left, right, compare_toLex, order]

/-- Numbers compare as their places do. -/
theorem compare_eq_place {u v : UnpackedFloat} (left : u ≠ .notANumber) (right : v ≠ .notANumber) :
    u.compare v = some (compare (place u) (place v)) := by
  cases u with
  | notANumber => exact absurd rfl left
  | infinity s =>
    cases v with
    | notANumber => exact absurd rfl right
    | infinity s' => cases s <;> cases s' <;> rfl
    | zero s' => cases s <;> rfl
    | finite s' m' e' positive => cases s <;> cases s' <;> exact compare_of_place rfl rfl rfl
  | zero s =>
    cases v with
    | notANumber => exact absurd rfl right
    | infinity s' => cases s' <;> rfl
    | zero s' => rfl
    | finite s' m' e' positive => cases s' <;> exact compare_of_place rfl rfl rfl
  | finite s m e positive =>
    cases v with
    | notANumber => exact absurd rfl right
    | infinity s' => cases s <;> cases s' <;> exact compare_of_place rfl rfl rfl
    | zero s' => cases s <;> exact compare_of_place rfl rfl rfl
    | finite s' m' e' positive' =>
      cases s <;> cases s' <;> refine compare_of_place rfl rfl ?_
      case negative.negative =>
        rw [compare_neg e e', compare_neg m m', compare_natCast]
        exact congrArg some (Ordering.swap_then _ _)
      case positive.positive =>
        rw [compare_natCast]
        rfl
      all_goals rfl

theorem compare_eq_none {u v : UnpackedFloat} (none : u = .notANumber ∨ v = .notANumber) :
    u.compare v = .none := by
  rcases none with rfl | rfl
  · rfl
  · cases u with
    | infinity s => cases s <;> rfl
    | _ => rfl

section Order

variable {x y z : Float}

/-- The place of a double. -/
def rank (x : Float) : ℤ ×ₗ ℤ ×ₗ ℤ :=
  place x.toModel.unpack

theorem isNaN_iff : x.isNaN ↔ x.toModel.unpack = .notANumber := by
  show x.toModel.unpack.isNaN = true ↔ _
  cases x.toModel.unpack with
  | notANumber => exact iff_of_true rfl rfl
  | _ => exact iff_of_false Bool.false_ne_true UnpackedFloat.noConfusion

/-- A property of the comparison of two doubles that holds only of some orderings. -/
theorem compare_any_iff (holds : Ordering → Bool) :
    (x.toModel.unpack.compare y.toModel.unpack).any holds ↔
      ¬ x.isNaN ∧ ¬ y.isNaN ∧ holds (compare (rank x) (rank y)) := by
  by_cases none : x.toModel.unpack = .notANumber ∨ y.toModel.unpack = .notANumber
  · rw [compare_eq_none none, isNaN_iff, isNaN_iff]
    refine iff_of_false Bool.false_ne_true ?_
    rintro ⟨left, right, -⟩
    exact none.elim left right
  · obtain ⟨left, right⟩ := not_or.mp none
    rw [compare_eq_place left right, isNaN_iff, isNaN_iff]
    exact ⟨fun held => ⟨left, right, held⟩, fun held => held.2.2⟩

theorem le_iff : x ≤ y ↔ ¬ x.isNaN ∧ ¬ y.isNaN ∧ rank x ≤ rank y := by
  have model : x ≤ y ↔ (x.toModel.unpack.compare y.toModel.unpack).any (·.isLE) := decide_eq_true_iff
  rw [model, compare_any_iff, ← Ordering.ne_gt_iff_isLE]
  exact and_congr_right fun _ => and_congr_right fun _ => compare_le_iff_le

theorem lt_iff : x < y ↔ ¬ x.isNaN ∧ ¬ y.isNaN ∧ rank x < rank y := by
  have model : x < y ↔ (x.toModel.unpack.compare y.toModel.unpack).any (· == .lt) := by
    show (decide (x.toModel < y.toModel) = true) ↔ _
    rw [decide_eq_true_iff]
    show (x.toModel.unpack.compare y.toModel.unpack == some .lt) = true ↔ _
    cases x.toModel.unpack.compare y.toModel.unpack <;> rfl
  rw [model, compare_any_iff, beq_iff_eq, compare_lt_iff_lt]

theorem beq_iff : (x == y) ↔ ¬ x.isNaN ∧ ¬ y.isNaN ∧ rank x = rank y := by
  have model : (x == y) ↔ (x.toModel.unpack.compare y.toModel.unpack).any (· == .eq) := by
    show (x.toModel.unpack.compare y.toModel.unpack == some .eq) = true ↔ _
    cases x.toModel.unpack.compare y.toModel.unpack <;> rfl
  rw [model, compare_any_iff, beq_iff_eq, compare_eq_iff_eq]

theorem Double.le_trans (low : x ≤ y) (high : y ≤ z) : x ≤ z := by
  obtain ⟨number, -, low⟩ := le_iff.mp low
  obtain ⟨-, number', high⟩ := le_iff.mp high
  exact le_iff.mpr ⟨number, number', low.trans high⟩

theorem Double.lt_of_lt_of_le (low : x < y) (high : y ≤ z) : x < z := by
  obtain ⟨number, -, low⟩ := lt_iff.mp low
  obtain ⟨-, number', high⟩ := le_iff.mp high
  exact lt_iff.mpr ⟨number, number', low.trans_le high⟩

theorem Double.le_of_lt (less : x < y) : x ≤ y := by
  obtain ⟨number, number', less⟩ := lt_iff.mp less
  exact le_iff.mpr ⟨number, number', less.le⟩

/-- Numbers are comparable. -/
theorem Double.le_of_not_lt (number : ¬ x.isNaN) (number' : ¬ y.isNaN) (not : ¬ x < y) : y ≤ x :=
  le_iff.mpr ⟨number', number, le_of_not_gt fun less => not (lt_iff.mpr ⟨number, number', less⟩)⟩

theorem Double.lt_of_not_le (number : ¬ x.isNaN) (number' : ¬ y.isNaN) (not : ¬ x ≤ y) : y < x :=
  lt_iff.mpr ⟨number', number, lt_of_not_ge fun less => not (le_iff.mpr ⟨number, number', less⟩)⟩

/-- What equals zero lies below what is positive. -/
theorem Double.lt_of_beq_zero (zero : (x == 0) = true) (positive : 0 < y) : x < y := by
  obtain ⟨number, -, same⟩ := beq_iff.mp zero
  obtain ⟨-, number', less⟩ := lt_iff.mp positive
  exact lt_iff.mpr ⟨number, number', same ▸ less⟩

theorem Double.not_beq_zero_of_pos (positive : 0 < x) : ¬ (x == 0) :=
  fun zero => (lt_iff.mp positive).2.2.ne' (beq_iff.mp zero).2.2

end Order

end RepoSurvey.Decimal
