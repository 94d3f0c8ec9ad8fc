import HostValue.Number.Double

/-!
# Magnitudes of doubles

The fields of a double are bounded, and with them its significand and the exponent of its unit. So
every magnitude lies on the grid of a larger unit or below the numbers that have this unit, an
infinity lies above all finite numbers, and one magnitude has one significand.
-/

namespace HostValue.Double

/-! ### Fields -/

theorem fraction_lt (x : Double) : x.fraction < Nat.pow 2 52 :=
  Nat.mod_lt _ (by decide)

private theorem exponentField_lt (x : Double) : x.exponentField < 2048 :=
  Nat.mod_lt _ (by decide)

theorem isFinite_iff {x : Double} : x.isFinite = true ↔ x.exponentField ≠ 2047 :=
  bne_iff_ne

theorem isInfinite_iff {x : Double} :
    x.isInfinite = true ↔ x.exponentField = 2047 ∧ x.fraction = 0 := by
  simp [isInfinite]

theorem isNaN_iff {x : Double} : x.isNaN = true ↔ x.exponentField = 2047 ∧ x.fraction ≠ 0 := by
  simp [isNaN]

theorem isNaN_of_isFinite {x : Double} (finite : x.isFinite = true) : x.isNaN = false := by
  rw [← Bool.not_eq_true, isNaN_iff]
  exact fun nan => isFinite_iff.mp finite nan.1

theorem isNaN_of_isInfinite {x : Double} (infinite : x.isInfinite = true) : x.isNaN = false := by
  rw [← Bool.not_eq_true, isNaN_iff]
  exact fun nan => nan.2 (isInfinite_iff.mp infinite).2

theorem isFinite_of_number {x : Double} (number : x.isNaN = false)
    (bounded : x.isInfinite = false) : x.isFinite = true := by
  rw [← Bool.not_eq_true, isNaN_iff] at number
  rw [← Bool.not_eq_true, isInfinite_iff] at bounded
  rw [isFinite_iff]
  intro top
  exact number ⟨top, fun zero => bounded ⟨top, zero⟩⟩

private theorem significand_lt (x : Double) : x.significand < Nat.pow 2 53 := by
  have bound := x.fraction_lt
  have doubled : Nat.pow 2 53 = Nat.pow 2 52 + Nat.pow 2 52 := rfl
  unfold significand
  split
  · omega
  · omega

private theorem leading_or_least (x : Double) :
    Nat.pow 2 52 ≤ x.significand ∨ x.unitExponent = 0 := by
  unfold significand unitExponent
  split
  · omega
  · exact Or.inl (Nat.le_add_right _ _)

private theorem unitExponent_le {x : Double} (finite : x.isFinite = true) :
    x.unitExponent ≤ 2045 := by
  have bound := x.exponentField_lt
  rw [isFinite_iff] at finite
  unfold unitExponent
  omega

/-! ### Magnitudes -/

theorem two_pow_pos (exponent : Nat) : 0 < Nat.pow 2 exponent :=
  Nat.pow_pos Nat.two_pos

theorem two_pow_add (first second : Nat) :
    Nat.pow 2 (first + second) = Nat.pow 2 first * Nat.pow 2 second :=
  Nat.pow_add 2 _ _

theorem magnitude_lt_of_unitExponent_lt {x : Double} {exponent : Nat}
    (small : x.unitExponent < exponent) : x.magnitude < Nat.pow 2 52 * Nat.pow 2 exponent := by
  have unit : Nat.pow 2 (53 + x.unitExponent) ≤ Nat.pow 2 (52 + exponent) :=
    Nat.pow_le_pow_right Nat.two_pos (by omega)
  calc x.magnitude < Nat.pow 2 53 * Nat.pow 2 x.unitExponent :=
        Nat.mul_lt_mul_of_pos_right x.significand_lt (two_pow_pos _)
    _ = Nat.pow 2 (53 + x.unitExponent) := (two_pow_add 53 x.unitExponent).symm
    _ ≤ Nat.pow 2 (52 + exponent) := unit
    _ = Nat.pow 2 52 * Nat.pow 2 exponent := two_pow_add 52 exponent

theorem magnitude_lt_of_unit_lt {x y : Double} (small : x.unitExponent < y.unitExponent) :
    x.magnitude < y.magnitude := by
  have leading : Nat.pow 2 52 ≤ y.significand := y.leading_or_least.resolve_right (by omega)
  exact Nat.lt_of_lt_of_le (magnitude_lt_of_unitExponent_lt small)
    (Nat.mul_le_mul_right _ leading)

theorem magnitude_lt_of_isInfinite {x y : Double} (finite : x.isFinite = true)
    (infinite : y.isInfinite = true) : x.magnitude < y.magnitude := by
  have small := unitExponent_le finite
  apply magnitude_lt_of_unit_lt
  have unit : y.unitExponent = 2046 := by rw [unitExponent, (isInfinite_iff.mp infinite).1]
  omega

theorem infiniteMagnitude_pos {x : Double} (infinite : x.isInfinite = true) : 0 < x.magnitude := by
  have leading : x.significand ≠ 0 := by
    rw [significand, (isInfinite_iff.mp infinite).1]
    exact Nat.ne_of_gt (Nat.lt_of_lt_of_le (by decide) (Nat.le_add_right (Nat.pow 2 52) _))
  exact Nat.mul_pos (Nat.pos_of_ne_zero leading) (two_pow_pos _)

theorem magnitude_eq_of_isInfinite {x y : Double} (infinite : x.isInfinite = true)
    (otherInfinite : y.isInfinite = true) : x.magnitude = y.magnitude := by
  obtain ⟨top, zero⟩ := isInfinite_iff.mp infinite
  obtain ⟨otherTop, otherZero⟩ := isInfinite_iff.mp otherInfinite
  unfold magnitude significand unitExponent
  rw [top, zero, otherTop, otherZero]

/-- A magnitude is a multiple of a larger unit, by an odd factor only if the factor is its
significand, or it lies below the numbers with a leading one that have this unit. -/
theorem magnitude_grid (x : Double) (exponent : Nat) :
    (∃ factor, x.magnitude = factor * Nat.pow 2 exponent ∧
        (factor % 2 = 1 → x.significand = factor)) ∨
      x.magnitude < Nat.pow 2 52 * Nat.pow 2 exponent := by
  rcases Nat.lt_or_ge x.unitExponent exponent with small | large
  · exact Or.inr (magnitude_lt_of_unitExponent_lt small)
  · refine Or.inl ⟨x.significand * Nat.pow 2 (x.unitExponent - exponent), ?_, ?_⟩
    · have steps := two_pow_add (x.unitExponent - exponent) exponent
      rw [Nat.sub_add_cancel large] at steps
      rw [magnitude, steps, Nat.mul_assoc]
    · intro odd
      cases excess : x.unitExponent - exponent with
      | zero => exact (Nat.mul_one x.significand).symm
      | succ steps =>
          have even : Nat.pow 2 (steps + 1) = Nat.pow 2 steps * 2 := rfl
          rw [excess, even, ← Nat.mul_assoc, Nat.mul_mod_left] at odd
          cases odd

theorem unitExponent_eq_of_magnitude {x y : Double} (same : x.magnitude = y.magnitude) :
    x.unitExponent = y.unitExponent := by
  apply Nat.le_antisymm
  · exact Nat.le_of_not_lt fun small => Nat.ne_of_gt (magnitude_lt_of_unit_lt small) same
  · exact Nat.le_of_not_lt fun small => Nat.ne_of_lt (magnitude_lt_of_unit_lt small) same

theorem significand_eq_of_magnitude {x y : Double} (same : x.magnitude = y.magnitude) :
    x.significand = y.significand := by
  rw [magnitude, magnitude, unitExponent_eq_of_magnitude same] at same
  exact Nat.eq_of_mul_eq_mul_right (two_pow_pos _) same

theorem eq_of_magnitude {x y : Double} (same : x.magnitude = y.magnitude)
    (sign : x.isNegative = y.isNegative) : x = y := by
  have units := unitExponent_eq_of_magnitude same
  have significands := significand_eq_of_magnitude same
  have fields : x.exponentField = y.exponentField ∧ x.fraction = y.fraction := by
    have bound := x.fraction_lt
    have otherBound := y.fraction_lt
    unfold unitExponent at units
    unfold significand at significands
    split at significands <;> split at significands <;> omega
  have words : x.word = y.word := by
    obtain ⟨exponents, fractions⟩ := fields
    have bound := x.bits.toNat_lt
    have otherBound := y.bits.toNat_lt
    change x.word < 18446744073709551616 at bound
    change y.word < 18446744073709551616 at otherBound
    change decide (9223372036854775808 ≤ x.word) = decide (9223372036854775808 ≤ y.word) at sign
    change x.word / 4503599627370496 % 2048 = y.word / 4503599627370496 % 2048 at exponents
    change x.word % 4503599627370496 = y.word % 4503599627370496 at fractions
    rw [decide_eq_decide] at sign
    omega
  exact congrArg Double.mk (UInt64.toNat_inj.mp words)

/-! ### Numbers by their words -/

section Words

variable {word : Nat} (small : word < Nat.pow 2 63) (negative : Bool)

include small

theorem word_ofSignedWord :
    (ofSignedWord negative word).word = if negative then Nat.pow 2 63 + word else word := by
  have sum : Nat.pow 2 63 + Nat.pow 2 63 = UInt64.size := rfl
  refine UInt64.toNat_ofNat_of_lt ?_
  cases negative with
  | false => exact Nat.lt_trans small (by decide)
  | true => exact sum ▸ Nat.add_lt_add_left small _

theorem isNegative_ofSignedWord : (ofSignedWord negative word).isNegative = negative := by
  rw [isNegative, word_ofSignedWord small]
  cases negative with
  | false => exact decide_eq_false (Nat.not_le_of_lt small)
  | true => exact decide_eq_true (Nat.le_add_right _ _)

private theorem exponentField_ofSignedWord :
    (ofSignedWord negative word).exponentField = word / Nat.pow 2 52 := by
  rw [exponentField, word_ofSignedWord small]
  change word < 9223372036854775808 at small
  change (if negative = true then 9223372036854775808 + word else word) / 4503599627370496 % 2048 =
    word / 4503599627370496
  cases negative with
  | false => rw [if_neg Bool.false_ne_true]; omega
  | true => rw [if_pos rfl]; omega

private theorem fraction_ofSignedWord :
    (ofSignedWord negative word).fraction = word % Nat.pow 2 52 := by
  rw [fraction, word_ofSignedWord small]
  change (if negative = true then 9223372036854775808 + word else word) % 4503599627370496 =
    word % 4503599627370496
  cases negative with
  | false => rw [if_neg Bool.false_ne_true]
  | true => rw [if_pos rfl]; omega

end Words

/-- A significand that is added to its exponent field may be the power of two above all
significands: it is then carried into the exponent. -/
theorem ofSignedWord_carried (negative : Bool) {exponent rounded : Nat} (small : exponent ≤ 2044)
    (least : Nat.pow 2 52 ≤ rounded) (greatest : rounded ≤ Nat.pow 2 53) :
    (ofSignedWord negative (exponent * Nat.pow 2 52 + rounded)).isFinite = true ∧
      (ofSignedWord negative (exponent * Nat.pow 2 52 + rounded)).magnitude =
        rounded * Nat.pow 2 exponent ∧
      (rounded % 2 = 0 →
        (ofSignedWord negative (exponent * Nat.pow 2 52 + rounded)).significand % 2 = 0) := by
  change 4503599627370496 ≤ rounded at least
  change rounded ≤ 9007199254740992 at greatest
  have inWord : exponent * Nat.pow 2 52 + rounded < Nat.pow 2 63 := by
    change exponent * 4503599627370496 + rounded < 9223372036854775808
    omega
  have field := exponentField_ofSignedWord inWord negative
  have rest := fraction_ofSignedWord inWord negative
  generalize ofSignedWord negative (exponent * Nat.pow 2 52 + rounded) = x at field rest ⊢
  change x.exponentField = (exponent * 4503599627370496 + rounded) / 4503599627370496 at field
  change x.fraction = (exponent * 4503599627370496 + rounded) % 4503599627370496 at rest
  have notLeast : x.exponentField ≠ 0 := by omega
  have leading : x.significand = 4503599627370496 + x.fraction := if_neg notLeast
  rw [isFinite_iff]
  by_cases carried : rounded = 9007199254740992
  · have unit : x.unitExponent = exponent + 1 := by unfold unitExponent; omega
    have significand : x.significand = 4503599627370496 := by omega
    have doubled : Nat.pow 2 (exponent + 1) = Nat.pow 2 exponent * 2 := rfl
    refine ⟨by omega, ?_, by omega⟩
    rw [magnitude, significand, unit, carried, doubled]
    omega
  · have unit : x.unitExponent = exponent := by unfold unitExponent; omega
    have significand : x.significand = rounded := by omega
    refine ⟨by omega, ?_, by omega⟩
    rw [magnitude, significand, unit]

end HostValue.Double
