import Mathlib
import RepoSurvey.Proofs.Decimal.Order

/-!
# Products and quotients of doubles

The result of an operation is rounded and packed into the bits of a double. Packing makes no number
only of no number, so a product is no number only when a factor is none or when a zero meets an
infinity (`isNaN_mul_iff`). A number divided by one that is not less is at most one: the exact
quotient is at most one, and rounding does not pass a power of two (`Double.not_one_lt_div`).
-/

namespace RepoSurvey.Decimal

open Float.Model Float.Model.UnpackedFloat

/-! ## Packing -/

theorem pack_eq_packedNaN_iff {u : UnpackedFloat} :
    UnpackedFloat.pack .binary64 u = packedNaN .binary64 ↔ u = .notANumber := by
  refine ⟨fun packed => ?_, fun same => by rw [same]; rfl⟩
  cases u with
  | notANumber => rfl
  | infinity s => cases s <;> exact absurd packed (by decide)
  | zero s => cases s <;> exact absurd packed (by decide)
  | finite s m e positive =>
    -- The field of the exponent is all ones in what is no number, and in no finite one.
    have field (exponent : BitVec 11) (mantissa : BitVec 52)
        (packed : packComponents .binary64 s exponent mantissa = packedNaN .binary64) :
        exponent = -1#11 := by
      have read : unpackExponent (packComponents .binary64 s exponent mantissa) = exponent :=
        unpackExponent_packComponents
      exact read.symm.trans (packed ▸ by decide)
    rw [UnpackedFloat.pack] at packed
    dsimp only at packed
    split at packed
    next => cases s <;> exact absurd packed (by decide)
    next low =>
      split at packed
      · have full := congrArg BitVec.toNat (field _ _ packed)
        simp only [BitVec.toNat_ofNat, BitVec.toNat_neg] at full
        omega
      · exact absurd (field _ _ packed) (by decide)

/-- Only what is no number is packed into what is none. -/
theorem isNaN_pack_iff {u : UnpackedFloat} :
    (Float.ofModel (Float.Model.pack u)).isNaN ↔ u = .notANumber := by
  have valid : Format.binary64.Valid (UnpackedFloat.pack .binary64 u) := valid_pack
  exact isNaN_iff.trans ((unpack_eq_notANumber_iff_of_valid valid).trans pack_eq_packedNaN_iff)

theorem round_ne_notANumber (s : Sign) (m : ℕ) (e : ℤ) (a : Accuracy) :
    roundWithAccuracy .binary64 s m e a ≠ .notANumber := by
  rw [roundWithAccuracy]
  dsimp only
  split <;> exact UnpackedFloat.noConfusion

theorem mul_eq_notANumber_iff {u v : UnpackedFloat} :
    UnpackedFloat.mul .binary64 u v = .notANumber ↔ u = .notANumber ∨ v = .notANumber ∨
      (u.isInf ∧ ∃ s, v = .zero s) ∨ ((∃ s, u = .zero s) ∧ v.isInf) := by
  cases u <;> cases v <;> simp [UnpackedFloat.mul, UnpackedFloat.isInf, round_ne_notANumber]

theorem beq_zero_iff {x : Float} : (x == 0) ↔ ∃ s, x.toModel.unpack = .zero s := by
  rw [beq_iff, isNaN_iff, rank]
  cases x.toModel.unpack with
  | notANumber => simp
  | zero s => exact iff_of_true ⟨nofun, by decide, rfl⟩ ⟨s, rfl⟩
  | infinity s =>
    refine iff_of_false (fun same => ?_) nofun
    cases s <;> exact absurd same.2.2 (by decide)
  | finite s m e positive =>
    refine iff_of_false (fun same => ?_) nofun
    have kind := congrArg Prod.fst same.2.2
    cases s <;> cases kind

/-- A product of numbers is a number, unless a zero meets an infinity. -/
theorem isNaN_mul_iff {x y : Float} : (x * y).isNaN ↔
    x.isNaN ∨ y.isNaN ∨ (x.isInf ∧ (y == 0)) ∨ ((x == 0) ∧ y.isInf) := by
  rw [beq_zero_iff, beq_zero_iff, isNaN_iff (x := x), isNaN_iff (x := y)]
  exact isNaN_pack_iff.trans mul_eq_notANumber_iff

/-! ## Quotients -/

theorem toNat_one_append {w : ℕ} (v : BitVec w) : (1#1 ++ v).toNat = 2 ^ w + v.toNat := by
  rw [BitVec.toNat_append, ← Nat.shiftLeft_add_eq_or_of_lt v.isLt, Nat.shiftLeft_eq]
  exact congrArg (· + _) (Nat.one_mul _)

/-- A finite number has at most 53 bits, and fewer only with the least exponent. -/
theorem bounds_of_unpack {b : BitVec Format.binary64.numBits} {s : Sign} {m : ℕ} {e : ℤ}
    {positive : 0 < m} (finite : unpack .binary64 b = .finite s m e positive) :
    m < 2 ^ 53 ∧ -1074 ≤ e ∧ (e = -1074 ∨ 2 ^ 52 ≤ m) := by
  have width : (@unpackMantissa .binary64 b).toNat < 2 ^ 52 := (unpackMantissa b).isLt
  rw [UnpackedFloat.unpack] at finite
  dsimp only at finite
  split at finite
  next => split at finite <;> cases finite
  next =>
    split at finite
    next zero =>
      split at finite
      next => cases finite
      next =>
        cases finite
        rw [zero]
        exact ⟨width.trans (by decide), by decide, .inl (by decide)⟩
    next normal =>
      cases finite
      rw [toNat_one_append]
      have bias : (Format.binary64.exponentBias : ℤ) = 1023 := rfl
      have bits : (Format.binary64.mantissaBitsWithoutImplicit : ℤ) = 52 := rfl
      have least : (@unpackExponent .binary64 b).toNat ≠ 0 := fun least =>
        normal (BitVec.eq_of_toNat_eq least)
      have power : 2 ^ Format.binary64.mantissaBitsWithoutImplicit = 2 ^ 52 := rfl
      rw [bias, bits, power]
      omega

theorem mantissa_shiftRight (em : ExtendedMantissa) (n : ℕ) :
    (em >>> n).mantissa = em.mantissa / 2 ^ n := by
  induction n with
  | zero => exact (Nat.div_one _).symm
  | succ n ih =>
    show (em >>> n).mantissa / 2 = _
    rw [ih, Nat.div_div_eq_div_mul, ← Nat.pow_succ]

/-- A power of two that is shifted by no more than its exponent stays exact. -/
theorem pow_shiftRight {k n : ℕ} (fits : n ≤ k) :
    ExtendedMantissa.ofMantissaAndAccuracy (2 ^ k) .exact >>> n =
      .ofMantissaAndAccuracy (2 ^ (k - n)) .exact := by
  induction n with
  | zero => rfl
  | succ n ih =>
    have next : k - n = k - (n + 1) + 1 := by omega
    show (ExtendedMantissa.ofMantissaAndAccuracy (2 ^ k) .exact >>> n).shiftRightOne = _
    rw [ih (by omega), next, Nat.pow_succ]
    simp [ExtendedMantissa.shiftRightOne, ExtendedMantissa.ofMantissaAndAccuracy]

theorem roundedMantissa_le (em : ExtendedMantissa) : em.roundedMantissa ≤ em.mantissa + 1 := by
  rw [ExtendedMantissa.roundedMantissa]
  cases em.accuracy with
  | exact => exact Nat.le_succ _
  | inexact side =>
    cases side with
    | lt => exact Nat.le_succ _
    | eq => exact Nat.add_le_add_left (Nat.le_of_lt_succ (Nat.mod_lt _ (by decide))) _
    | gt => exact Nat.le_refl _

/-- A quotient with this mantissa, at the exponent `-k`, is at most one. -/
def Proper (k q : ℕ) (a : Accuracy) : Prop :=
  q < 2 ^ k ∨ (q = 2 ^ k ∧ a = .exact)

theorem Proper.le {k q : ℕ} {a : Accuracy} (proper : Proper k q a) : q ≤ 2 ^ k := by
  rcases proper with low | ⟨same, -⟩
  · exact low.le
  · exact same.le

/-- Rounding does not pass the power of two above. -/
theorem Proper.roundedMantissa_le {k q n : ℕ} {a : Accuracy} (proper : Proper k q a) (fits : n ≤ k) :
    (ExtendedMantissa.ofMantissaAndAccuracy q a >>> n).roundedMantissa ≤ 2 ^ (k - n) := by
  rcases proper with low | ⟨rfl, rfl⟩
  · refine (Decimal.roundedMantissa_le _).trans ?_
    have mantissa : (ExtendedMantissa.ofMantissaAndAccuracy q a).mantissa = q := by
      cases a with
      | exact => rfl
      | inexact side => cases side <;> rfl
    rw [mantissa_shiftRight, mantissa, Nat.succ_le_iff, Nat.div_lt_iff_lt_mul (by positivity),
      ← Nat.pow_add, Nat.sub_add_cancel fits]
    exact low
  · rw [pow_shiftRight fits]
    exact Nat.le_refl _

/-- The number is at most one. -/
def AtMostOne : UnpackedFloat → Prop
  | .zero _ => True
  | .finite _ m e _ => e < -52 ∨ (e = -52 ∧ m ≤ 2 ^ 52)
  | _ => False

theorem log2_le_of_le_pow {n k : ℕ} (le : n ≤ 2 ^ k) : n.log2 ≤ k := by
  by_cases zero : n = 0
  · rw [zero]
    exact Nat.zero_le _
  · exact Nat.le_of_lt_succ ((Nat.log2_lt zero).mpr (le.trans_lt (Nat.pow_lt_pow_succ (by decide))))

/-- How far a mantissa is shifted to fit into a double. -/
def excess (m : ℕ) (e : ℤ) : ℕ :=
  (max ((m.log2 : ℤ) + 1 + e - 53) (-1074) - e).toNat

theorem shiftToTargetExponent_eq (m : ℕ) (e : ℤ) (a : Accuracy) :
    shiftToTargetExponent .binary64 m e a =
      (ExtendedMantissa.ofMantissaAndAccuracy m a >>> excess m e, e + excess m e) :=
  rfl

theorem atMostOne_round {s : Sign} {m : ℕ} {e e' e'' : ℤ} {a : Accuracy}
    {first last : ExtendedMantissa}
    (shifted : shiftToTargetExponent .binary64 m e a = (first, e'))
    (again : shiftToTargetExponent .binary64 first.roundedMantissa e' .exact = (last, e''))
    (low : e'' < -52 ∨ (e'' = -52 ∧ last.mantissa ≤ 2 ^ 52)) :
    AtMostOne (roundWithAccuracy .binary64 s m e a) := by
  rw [roundWithAccuracy, shifted]
  dsimp only
  rw [again]
  dsimp only
  split
  · trivial
  · exact low

/-- Rounding keeps a quotient that is at most one there. -/
theorem Proper.atMostOne_round {k q : ℕ} {a : Accuracy} (s : Sign) (proper : Proper k q a)
    (fine : 53 ≤ k) : AtMostOne (roundWithAccuracy .binary64 s q (-k) a) := by
  have total : q.log2 ≤ k := log2_le_of_le_pow proper.le
  have fits : excess q (-k) ≤ k := by
    rw [excess]
    omega
  have rounded := proper.roundedMantissa_le fits
  refine Decimal.atMostOne_round (shiftToTargetExponent_eq _ _ _) (shiftToTargetExponent_eq _ _ _) ?_
  have reach : excess q (-k) ≤ k - 52 := by
    rw [excess]
    omega
  generalize excess q (-k) = n at fits rounded reach ⊢
  generalize (ExtendedMantissa.ofMantissaAndAccuracy q a >>> n).roundedMantissa = r at rounded ⊢
  have total' := log2_le_of_le_pow rounded
  have fits' : excess r (-k + n) ≤ k - n - 52 := by
    rw [excess]
    omega
  generalize excess r (-k + n) = n' at fits' ⊢
  by_cases top : n + n' = k - 52
  · refine .inr ⟨by omega, ?_⟩
    have rest : k - n = 52 + n' := by omega
    rw [rest, Nat.pow_add] at rounded
    rw [mantissa_shiftRight]
    exact Nat.div_le_of_le_mul (rounded.trans_eq (Nat.mul_comm _ _))
  · exact .inl (by omega)

theorem AtMostOne.place_le {u : UnpackedFloat} (low : AtMostOne u) : place u ≤ rank 1 := by
  have one : rank 1 = toLex (1, toLex (-52, 2 ^ 52)) := rfl
  rw [one]
  cases u with
  | notANumber => exact low.elim
  | infinity s => exact low.elim
  | zero s => exact Prod.Lex.toLex_le_toLex.mpr (.inl (by decide))
  | finite s m e positive =>
    cases s with
    | negative => exact Prod.Lex.toLex_le_toLex.mpr (.inl (show (-1 : ℤ) < 1 by decide))
    | positive =>
      refine Prod.Lex.toLex_le_toLex.mpr (.inr ⟨rfl, Prod.Lex.toLex_le_toLex.mpr ?_⟩)
      exact low.imp_right fun low => ⟨low.1, Int.ofNat_le.mpr low.2⟩

/-- Bits whose exponent field is no greater than that of one, and that have no further bit then. -/
theorem atMostOne_unpack {s : Sign} {exponent : BitVec 11} {mantissa : BitVec 52}
    (low : exponent.toNat < 1023 ∨ (exponent.toNat = 1023 ∧ mantissa.toNat = 0)) :
    AtMostOne (unpack .binary64 (packComponents .binary64 s exponent mantissa)) := by
  have bias : (Format.binary64.exponentBias : ℤ) = 1023 := rfl
  have bits : (Format.binary64.mantissaBitsWithoutImplicit : ℤ) = 52 := rfl
  rw [UnpackedFloat.unpack]
  simp only [unpackMantissa_packComponents, unpackExponent_packComponents,
    unpackSign_packComponents, Sign.ofBitVec_toBitVec, bias, bits]
  split
  next full =>
    have full := congrArg BitVec.toNat full
    simp only [BitVec.toNat_neg, BitVec.toNat_ofNat] at full
    omega
  next =>
    split
    next zero =>
      split
      · trivial
      · rw [zero]
        exact .inl (by decide)
    next =>
      have whole := toNat_one_append mantissa
      rw [AtMostOne, whole]
      omega

/-- Packing keeps a number that is at most one there. -/
theorem AtMostOne.unpack_pack {u : UnpackedFloat} (low : AtMostOne u) :
    AtMostOne (unpack .binary64 (UnpackedFloat.pack .binary64 u)) := by
  cases u with
  | notANumber => exact low.elim
  | infinity s => exact low.elim
  | zero s =>
    rw [UnpackedFloat.pack, unpack_packedZero]
    trivial
  | finite s m e positive =>
    have bias : (Format.binary64.exponentBias : ℤ) = 1023 := rfl
    have bits : (Format.binary64.mantissaBitsWithoutImplicit : ℤ) = 52 := rfl
    have low' : e < -52 ∨ (e = -52 ∧ m ≤ 2 ^ 52) := low
    rw [UnpackedFloat.pack]
    simp only [bias, bits]
    rw [if_neg (by omega)]
    split
    next full =>
      refine atMostOne_unpack ?_
      simp only [BitVec.toNat_ofNat]
      have bits : Format.binary64.mantissaBits = 53 := rfl
      have normal : 2 ^ m.log2 ≤ m := Nat.log2_self_le positive.ne'
      have width : m.log2 = 52 := by omega
      rw [width] at normal
      omega
    next => exact atMostOne_unpack (.inl (by decide))

theorem proper_div {a b k : ℕ} (le : a ≤ b * 2 ^ k) :
    Proper k (a / b) (accuracyOfFraction (a % b) b) := by
  rcases (Nat.div_le_of_le_mul le).lt_or_eq with low | same
  · exact .inl low
  · refine .inr ⟨same, ?_⟩
    have parts := Nat.div_add_mod a b
    rw [same] at parts
    have exact : a % b = 0 := by omega
    rw [exact]
    rfl

/-- The quotient of a finite number and one that is not less. -/
theorem proper_divCore {m m' : ℕ} {e e' : ℤ} (positive : 0 < m)
    (width : m < 2 ^ 53) (least : -1074 ≤ e) (normal : e' = -1074 ∨ 2 ^ 52 ≤ m')
    (le : e < e' ∨ (e = e' ∧ m ≤ m')) : ∃ (k : ℕ) (q : ℕ) (a : Accuracy),
      divCore .binary64 m e m' e' = (q, -(k : ℤ), a) ∧ 53 ≤ k ∧ Proper k q a := by
  have below : m ≤ m' * 2 ^ (e' - e).toNat := by
    rcases le with less | ⟨rfl, le⟩
    · have step : 2 ^ 1 ≤ 2 ^ (e' - e).toNat := Nat.pow_le_pow_right (by decide) (by omega)
      have wide : 2 ^ 52 ≤ m' := by omega
      calc m ≤ 2 ^ 52 * 2 ^ 1 := width.le
        _ ≤ m' * 2 ^ (e' - e).toNat := Nat.mul_le_mul wide step
    · exact le.trans (Nat.le_mul_of_pos_right _ (by positivity))
  have total : m.log2 + e ≤ m'.log2 + e' := by
    have high : m < 2 ^ (m'.log2 + 1 + (e' - e).toNat) := by
      rw [Nat.pow_add]
      exact below.trans_lt (Nat.mul_lt_mul_of_pos_right Nat.lt_log2_self (by positivity))
    have bits := (Nat.log2_lt positive.ne').mpr high
    omega
  have bits : (Format.binary64.mantissaBits : ℤ) = 53 := rfl
  have smallest : Format.binary64.minExponent = -1074 := rfl
  rw [divCore]
  simp only [Format.targetExponent, totalExponent, bits, smallest]
  generalize aim : min (e - e') _ = t
  obtain ⟨k, rfl⟩ : ∃ k : ℕ, t = -k := ⟨(-t).toNat, by omega⟩
  refine ⟨k, _, _, rfl, by omega, proper_div ?_⟩
  have reach : k = (e' - e).toNat + (e - e' - -(k : ℤ)).toNat := by omega
  calc m <<< (e - e' - -(k : ℤ)).toNat = m * 2 ^ (e - e' - -(k : ℤ)).toNat := Nat.shiftLeft_eq _ _
    _ ≤ m' * 2 ^ (e' - e).toNat * 2 ^ (e - e' - -(k : ℤ)).toNat := Nat.mul_le_mul_right _ below
    _ = m' * 2 ^ k := by rw [Nat.mul_assoc, ← Nat.pow_add, ← reach]

/-- Behind zero stand the positive numbers and the positive infinity. -/
theorem cases_of_one_le_place {v : UnpackedFloat} (kind : 1 ≤ (ofLex (place v)).1) :
    v = .infinity .positive ∨ ∃ m e h, v = .finite .positive m e h := by
  cases v with
  | notANumber => simp [place] at kind
  | zero s => simp [place] at kind
  | infinity s =>
    cases s with
    | negative => simp [place] at kind
    | positive => exact .inl rfl
  | finite s m e h =>
    cases s with
    | negative => simp [place] at kind
    | positive => exact .inr ⟨m, e, h, rfl⟩

theorem eq_infinity_of_place_le {v : UnpackedFloat}
    (order : place (.infinity .positive) ≤ place v) : v = .infinity .positive := by
  have kind : 2 ≤ (ofLex (place v)).1 := Prod.Lex.monotone_fst _ _ order
  rcases cases_of_one_le_place (one_le_two.trans kind) with infinite | ⟨m, e, h, rfl⟩
  · exact infinite
  · simp [place] at kind

/-- What is not less than a positive finite number is infinite, or finite with no less an
exponent. -/
theorem cases_of_finite_place_le {v : UnpackedFloat} {m : ℕ} {e : ℤ} {h : 0 < m}
    (order : place (.finite .positive m e h) ≤ place v) : v = .infinity .positive ∨
      ∃ m' e' h', v = .finite .positive m' e' h' ∧ (e < e' ∨ (e = e' ∧ m ≤ m')) := by
  refine (cases_of_one_le_place (Prod.Lex.monotone_fst _ _ order)).imp_right ?_
  rintro ⟨m', e', h', rfl⟩
  simp only [place, Prod.Lex.toLex_le_toLex, lt_self_iff_false, true_and, false_or] at order
  exact ⟨m', e', h', rfl, order.imp_right fun le => ⟨le.1, Int.ofNat_le.mp le.2⟩⟩

/-- A number that is not negative, divided by one that is not less, is at most one if it is a
number. -/
theorem atMostOne_div {x y : Float} (nonnegative : 0 ≤ x) (le : x ≤ y) :
    UnpackedFloat.div .binary64 x.toModel.unpack y.toModel.unpack = .notANumber ∨
      AtMostOne (UnpackedFloat.div .binary64 x.toModel.unpack y.toModel.unpack) := by
  have kind : 0 ≤ (ofLex (rank x)).1 := Prod.Lex.monotone_fst _ _ (le_iff.mp nonnegative).2.2
  obtain ⟨number, -, order⟩ := le_iff.mp le
  rw [rank, rank] at order
  rw [rank] at kind
  cases left : x.toModel.unpack with
  | notANumber => exact absurd (isNaN_iff.mpr left) number
  | zero s => cases y.toModel.unpack <;> first | exact .inl rfl | exact .inr trivial
  | infinity s =>
    rw [left] at order kind
    cases s with
    | negative => simp [place] at kind
    | positive =>
      rw [eq_infinity_of_place_le order]
      exact .inl rfl
  | finite s m e h =>
    rw [left] at order kind
    cases s with
    | negative => simp [place] at kind
    | positive =>
      rcases cases_of_finite_place_le order with infinite | ⟨m', e', h', right, le⟩
      · rw [infinite]
        exact .inr trivial
      · obtain ⟨width, least, -⟩ := bounds_of_unpack left
        obtain ⟨-, -, normal⟩ := bounds_of_unpack right
        obtain ⟨k, q, a, quotient, fine, proper⟩ := proper_divCore h width least normal le
        rw [right, UnpackedFloat.div, quotient]
        exact .inr (proper.atMostOne_round _ fine)

/-- A number that is not negative, divided by one that is not less, does not exceed one. -/
theorem Double.not_one_lt_div {x y : Float} (nonnegative : 0 ≤ x) (le : x ≤ y) : ¬ 1 < x / y := by
  intro more
  obtain ⟨-, number, more⟩ := lt_iff.mp more
  rcases atMostOne_div nonnegative le with none | low
  · exact number (isNaN_pack_iff.mpr none)
  · exact more.not_ge low.unpack_pack.place_le

end RepoSurvey.Decimal
