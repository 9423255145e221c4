import RepoSurvey.Proofs.Decimal.Rounding

/-!
# Doubles that are not negative

Rounding and packing keep a sign, so what is computed from doubles that are not negative by
multiplication and division is not negative where it is a number, and so is every count as a double.
A quotient is a number unless zero is divided by zero or an infinity by an infinity
(`isNaN_div_iff`).
-/

namespace RepoSurvey.Decimal

open Float.Model Float.Model.UnpackedFloat

/-! ## Signs -/

/-- What is a number and not zero has the positive sign. -/
def NotNegative : UnpackedFloat → Prop
  | .infinity s | .finite s _ _ _ => s = .positive
  | .zero _ | .notANumber => True

theorem zero_le_iff {x : Float} : 0 ≤ x ↔ ¬ x.isNaN ∧ NotNegative x.toModel.unpack := by
  have zero : ¬ (0 : Float).isNaN := by decide +kernel
  have origin : rank 0 = toLex (0, toLex (0, 0)) := rfl
  have below (k : ℤ) (rest : ℤ ×ₗ ℤ) (less : 0 < k) : rank 0 ≤ toLex (k, rest) :=
    Prod.Lex.toLex_le_toLex.mpr (.inl less)
  have above (k : ℤ) (rest : ℤ ×ₗ ℤ) (less : k < 0) : ¬ rank 0 ≤ toLex (k, rest) :=
    not_le_of_gt (Prod.Lex.toLex_lt_toLex.mpr (.inl less))
  have opposite : Sign.negative ≠ .positive := Sign.noConfusion
  rw [le_iff, and_iff_right zero]
  refine and_congr_right fun _ => ?_
  rw [rank.eq_1 x]
  cases x.toModel.unpack with
  | notANumber => exact iff_of_true le_rfl trivial
  | zero s => exact iff_of_true le_rfl trivial
  | infinity s =>
    cases s with
    | negative => exact iff_of_false (above _ _ (by decide)) opposite
    | positive => exact iff_of_true (below _ _ (by decide)) rfl
  | finite s m e positive =>
    cases s with
    | negative => exact iff_of_false (above _ _ (by decide)) opposite
    | positive => exact iff_of_true (below _ _ (by decide)) rfl

theorem notNegative_round (m : ℕ) (e : ℤ) (a : Accuracy) :
    NotNegative (roundWithAccuracy .binary64 .positive m e a) := by
  rw [roundWithAccuracy]
  dsimp only
  split
  · trivial
  · rfl

theorem NotNegative.mul {u v : UnpackedFloat} (left : NotNegative u) (right : NotNegative v) :
    NotNegative (UnpackedFloat.mul .binary64 u v) := by
  cases u with
  | notANumber => cases v <;> trivial
  | zero s => cases v <;> trivial
  | infinity s =>
    cases left
    cases v <;> first | trivial | (cases right; rfl)
  | finite s m e positive =>
    cases left
    cases v with
    | finite s' m' e' positive' =>
      cases right
      exact notNegative_round _ _ _
    | infinity s' =>
      cases right
      rfl
    | zero s' => trivial
    | notANumber => trivial

/-- A zero has a sign that shows when it divides. -/
theorem NotNegative.div {u v : UnpackedFloat} (left : NotNegative u) (right : NotNegative v)
    (nonzero : ∀ s, v ≠ .zero s) : NotNegative (UnpackedFloat.div .binary64 u v) := by
  cases v with
  | notANumber => cases u <;> trivial
  | zero s => exact absurd rfl (nonzero s)
  | infinity s => cases u <;> trivial
  | finite s m e positive =>
    cases right
    cases u with
    | finite s' m' e' positive' =>
      cases left
      exact notNegative_round _ _ _
    | infinity s' =>
      cases left
      rfl
    | zero s' => trivial
    | notANumber => trivial

theorem notNegative_of_sign {b : BitVec Format.binary64.numBits}
    (positive : Sign.ofBitVec (unpackSign b) = .positive) :
    NotNegative (UnpackedFloat.unpack .binary64 b) := by
  rw [UnpackedFloat.unpack]
  simp only [positive]
  split
  · split
    · rfl
    · trivial
  · split
    · split
      · trivial
      · rfl
    · rfl

/-- Packing keeps the sign. -/
theorem NotNegative.unpack_pack {u : UnpackedFloat} (nonnegative : NotNegative u) :
    NotNegative (UnpackedFloat.unpack .binary64 (UnpackedFloat.pack .binary64 u)) := by
  have signed (exponent : BitVec 11) (mantissa : BitVec 52) :
      Sign.ofBitVec (unpackSign (packComponents .binary64 .positive exponent mantissa)) =
        .positive := by
    rw [unpackSign_packComponents, Sign.ofBitVec_toBitVec]
  cases u with
  | notANumber =>
    rw [UnpackedFloat.pack, unpack_packedNaN]
    trivial
  | zero s =>
    rw [UnpackedFloat.pack, unpack_packedZero]
    trivial
  | infinity s =>
    cases nonnegative
    exact notNegative_of_sign (signed _ _)
  | finite s m e positive =>
    cases nonnegative
    refine notNegative_of_sign ?_
    rw [UnpackedFloat.pack]
    dsimp only
    split
    · exact signed _ _
    · split <;> exact signed _ _

/-! ## Products, quotients and counts -/

section

variable {x y : Float}

theorem Double.zero_le_mul (left : 0 ≤ x) (right : 0 ≤ y) (number : ¬ (x * y).isNaN) :
    0 ≤ x * y :=
  zero_le_iff.mpr ⟨number, ((zero_le_iff.mp left).2.mul (zero_le_iff.mp right).2).unpack_pack⟩

theorem unpack_ne_zero_of_pos (positive : 0 < y) (s : Sign) : y.toModel.unpack ≠ .zero s :=
  fun zero => Double.not_beq_zero_of_pos positive (beq_zero_iff.mpr ⟨s, zero⟩)

theorem Double.zero_le_div (left : 0 ≤ x) (right : 0 < y) (number : ¬ (x / y).isNaN) :
    0 ≤ x / y :=
  zero_le_iff.mpr ⟨number, ((zero_le_iff.mp left).2.div (zero_le_iff.mp (Double.le_of_lt right)).2
    (unpack_ne_zero_of_pos right)).unpack_pack⟩

theorem div_eq_notANumber_iff {u v : UnpackedFloat} :
    UnpackedFloat.div .binary64 u v = .notANumber ↔ u = .notANumber ∨ v = .notANumber ∨
      (u.isInf ∧ v.isInf) ∨ ((∃ s, u = .zero s) ∧ ∃ s, v = .zero s) := by
  cases u <;> cases v <;>
    simp [UnpackedFloat.div, UnpackedFloat.isInf, round_ne_notANumber]

/-- A quotient of numbers is a number, unless both are infinite or both are zero. -/
theorem isNaN_div_iff : (x / y).isNaN ↔
    x.isNaN ∨ y.isNaN ∨ (x.isInf ∧ y.isInf) ∨ ((x == 0) ∧ (y == 0)) := by
  rw [beq_zero_iff, beq_zero_iff, isNaN_iff (x := x), isNaN_iff (x := y)]
  exact isNaN_pack_iff.trans div_eq_notANumber_iff

theorem zero_le_pack {u : UnpackedFloat} (number : u ≠ .notANumber) (nonnegative : NotNegative u) :
    0 ≤ Float.ofModel (Float.Model.pack u) :=
  zero_le_iff.mpr ⟨fun none => number (isNaN_pack_iff.mp none), nonnegative.unpack_pack⟩

theorem zero_le_toFloat (n : UInt64) : 0 ≤ n.toFloat := by
  have whole : UnpackedFloat.ofUInt64 .binary64 n = .zero .positive ∨ ∃ m e a,
      UnpackedFloat.ofUInt64 .binary64 n = roundWithAccuracy .binary64 .positive m e a := by
    rw [UnpackedFloat.ofUInt64, UnpackedFloat.ofNat, UnpackedFloat.ofInt, UnpackedFloat.normalize]
    split
    next low => exact absurd (compare_lt_iff_lt.mp low) (by omega)
    next => exact .inl rfl
    next => exact .inr ⟨_, _, _, rfl⟩
  rcases whole with zero | ⟨m, e, a, rounded⟩
  · exact zero_le_pack (zero ▸ nofun) (zero ▸ trivial)
  · exact zero_le_pack (rounded ▸ round_ne_notANumber _ _ _ _) (rounded ▸ notNegative_round _ _ _)

/-- A count as a double is a number that is not negative. -/
theorem Double.zero_le_ofNat (n : ℕ) : 0 ≤ Float.ofNat n := by
  have one : (0 : Float) < Float.exactlyRepresentablePowersOfTen[0] := by decide +kernel
  have finite : ¬ Float.exactlyRepresentablePowersOfTen[0].isInf := by decide +kernel
  show 0 ≤ Float.ofScientific n false 0
  rw [Float.ofScientific]
  split
  next small =>
    refine Double.zero_le_mul (zero_le_toFloat _) (Double.le_of_lt one) fun none => ?_
    rcases isNaN_mul_iff.mp none with none | none | ⟨-, zero⟩ | ⟨-, infinite⟩
    · exact (zero_le_iff.mp (zero_le_toFloat _)).1 none
    · exact (lt_iff.mp one).2.1 none
    · exact Double.not_beq_zero_of_pos one zero
    · exact finite infinite
  next big =>
    have filled : n ≠ 0 := by
      rintro rfl
      exact big (by decide)
    have product : ∃ m e p m' e' p', UnpackedFloat.ofScientific .binary64 n (Int.ofNat 0) =
        UnpackedFloat.mul .binary64 (.finite .positive m e p) (.finite .positive m' e' p') := by
      rw [UnpackedFloat.ofScientific, dif_neg filled, if_neg (by decide), if_neg (by simp),
        if_pos (by decide)]
      exact ⟨_, _, _, _, _, _, rfl⟩
    obtain ⟨m, e, p, m', e', p', product⟩ := product
    exact zero_le_pack (product ▸ round_ne_notANumber _ _ _ _) (product ▸ notNegative_round _ _ _)

end

end RepoSurvey.Decimal
