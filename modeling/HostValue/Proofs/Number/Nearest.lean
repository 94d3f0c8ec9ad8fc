import HostValue.Proofs.Number.Exact
import Mathlib.Algebra.Order.Field.Basic
import Mathlib.Data.Nat.Dist
import Mathlib.Tactic.Linarith

/-!
# Nearest doubles

Which double stands for an integer: the one nearest to it, and of two equally near ones the one whose
significand is even. The conversion of integers finds it, and every double with its value is as good.
-/

namespace HostValue.Double

/-- The double lies nearest to the integer among the finite ones, and its significand is even where
another one lies as near. -/
structure IsNearest (x : Double) (n : Int) : Prop where
  finite : x.isFinite = true
  closest : ∀ y : Double, y.isFinite = true → |(n : Rat) - x.rational| ≤ |(n : Rat) - y.rational|
  even : ∀ y : Double, y.isFinite = true → |(n : Rat) - y.rational| = |(n : Rat) - x.rational| →
    y.rational = x.rational ∨ x.significand % 2 = 0

/-! ### Rounded quotients -/

theorem roundQuotient_cases (numerator denominator : Nat) :
    (roundQuotient numerator denominator = numerator / denominator ∧
        2 * (numerator % denominator) < denominator) ∨
      (roundQuotient numerator denominator = numerator / denominator + 1 ∧
        denominator < 2 * (numerator % denominator)) ∨
      (2 * (numerator % denominator) = denominator ∧
        roundQuotient numerator denominator % 2 = 0 ∧
        (roundQuotient numerator denominator = numerator / denominator ∨
          roundQuotient numerator denominator = numerator / denominator + 1)) := by
  unfold roundQuotient
  cases order : compare (2 * (numerator % denominator)) denominator with
  | lt => exact Or.inl ⟨rfl, Nat.compare_eq_lt.mp order⟩
  | gt => exact Or.inr (Or.inl ⟨rfl, Nat.compare_eq_gt.mp order⟩)
  | eq =>
      refine Or.inr (Or.inr ⟨Nat.compare_eq_eq.mp order, ?_⟩)
      dsimp only
      split
      · next even => exact ⟨even, Or.inl rfl⟩
      · next odd => exact ⟨by omega, Or.inr rfl⟩

theorem multiple_cases (factor quotient denominator : Nat) :
    factor * denominator + denominator ≤ quotient * denominator ∨ factor = quotient ∨
      factor = quotient + 1 ∨ quotient * denominator + 2 * denominator ≤ factor * denominator := by
  rcases Nat.lt_trichotomy factor quotient with below | same | above
  · have apart := Nat.mul_le_mul_right denominator (Nat.succ_le_of_lt below)
    rw [Nat.succ_eq_add_one, Nat.add_one_mul] at apart
    exact Or.inl apart
  · exact Or.inr (Or.inl same)
  · by_cases next : factor = quotient + 1
    · exact Or.inr (Or.inr (Or.inl next))
    · have apart : (quotient + 2) * denominator ≤ factor * denominator :=
        Nat.mul_le_mul_right denominator (by omega)
      rw [Nat.add_mul] at apart
      exact Or.inr (Or.inr (Or.inr apart))

section Quotients

variable {numerator denominator : Nat} (positive : 0 < denominator) (factor : Nat)

include positive

theorem roundQuotient_nearest :
    Nat.dist numerator (roundQuotient numerator denominator * denominator) ≤
      Nat.dist numerator (factor * denominator) := by
  have parts := Nat.div_add_mod' numerator denominator
  have next := Nat.add_one_mul (numerator / denominator) denominator
  have remainder := Nat.mod_lt numerator positive
  have place := multiple_cases factor (numerator / denominator) denominator
  unfold Nat.dist
  rcases roundQuotient_cases numerator denominator with ⟨down, _⟩ | ⟨up, _⟩ | ⟨_, _, down | up⟩
  · rw [down]
    rcases place with below | rfl | rfl | above <;> omega
  · rw [up]
    rcases place with below | rfl | rfl | above <;> omega
  · rw [down]
    rcases place with below | rfl | rfl | above <;> omega
  · rw [up]
    rcases place with below | rfl | rfl | above <;> omega

/-- Of two multiples that lie equally near the even one is chosen, and the other one is odd. -/
private theorem roundQuotient_tie (other : factor ≠ roundQuotient numerator denominator)
    (asNear : Nat.dist numerator (factor * denominator) =
      Nat.dist numerator (roundQuotient numerator denominator * denominator)) :
    roundQuotient numerator denominator % 2 = 0 ∧ factor % 2 = 1 := by
  have parts := Nat.div_add_mod' numerator denominator
  have next := Nat.add_one_mul (numerator / denominator) denominator
  have remainder := Nat.mod_lt numerator positive
  have place := multiple_cases factor (numerator / denominator) denominator
  unfold Nat.dist at asNear
  rcases roundQuotient_cases numerator denominator with ⟨down, _⟩ | ⟨up, _⟩ | ⟨_, even, down | up⟩
  · rw [down] at other asNear ⊢
    rcases place with below | same | rfl | above <;> omega
  · rw [up] at other asNear ⊢
    rcases place with below | rfl | same | above <;> omega
  · rw [down] at other asNear even ⊢
    rcases place with below | same | rfl | above <;> omega
  · rw [up] at other asNear even ⊢
    rcases place with below | rfl | same | above <;> omega

end Quotients

/-! ### Gaps -/

/-- The units between an integer and a finite double. -/
def gap (n : Int) (x : Double) : Nat :=
  (n * unitsPerOne - x.scaled).natAbs

theorem abs_sub_rational (n : Int) (x : Double) :
    |(n : Rat) - x.rational| = (gap n x : Rat) / unitsPerOne := by
  have positive : (0 : Rat) < unitsPerOne := Nat.cast_pos.mpr unitsPerOne_pos
  have common : (n : Rat) - x.rational =
      ((n * unitsPerOne - x.scaled : Int) : Rat) / unitsPerOne := by
    rw [rational, eq_div_iff positive.ne', sub_mul, div_mul_cancel₀ _ positive.ne', Int.cast_sub,
      Int.cast_mul, Int.cast_natCast]
  rw [common, abs_div, abs_of_pos positive, gap, Nat.cast_natAbs, Int.cast_abs]

theorem closer_iff {n : Int} {x y : Double} :
    |(n : Rat) - x.rational| ≤ |(n : Rat) - y.rational| ↔ gap n x ≤ gap n y := by
  have positive : (0 : Rat) < unitsPerOne := Nat.cast_pos.mpr unitsPerOne_pos
  rw [abs_sub_rational, abs_sub_rational, div_le_div_iff_of_pos_right positive, Nat.cast_le]

theorem asClose_iff {n : Int} {x y : Double} :
    |(n : Rat) - x.rational| = |(n : Rat) - y.rational| ↔ gap n x = gap n y := by
  rw [le_antisymm_iff, closer_iff, closer_iff, le_antisymm_iff]

/-! ### Conversion of integers -/

def unitsOf (n : Int) : Nat :=
  n.natAbs * unitsPerOne

/-- The exponent of the unit that the double nearest to the integer has, if it has a leading one. -/
def binadeOf (n : Int) : Nat :=
  (unitsOf n).log2 - 52

def roundedOf (n : Int) : Nat :=
  roundQuotient (unitsOf n) (Nat.pow 2 (binadeOf n))

section Integers

variable {n : Int}

theorem unitsOf_ge (nonzero : n ≠ 0) : unitsPerOne ≤ unitsOf n :=
  Nat.le_mul_of_pos_left _ (Int.natAbs_pos.mpr nonzero)

private theorem unitsPerOne_ge : Nat.pow 2 52 ≤ unitsPerOne := by
  decide +kernel

theorem binadeOf_bounds (nonzero : n ≠ 0) :
    Nat.pow 2 52 * Nat.pow 2 (binadeOf n) ≤ unitsOf n ∧
      unitsOf n < Nat.pow 2 53 * Nat.pow 2 (binadeOf n) := by
  have large := Nat.le_trans unitsPerOne_ge (unitsOf_ge nonzero)
  have notZero : unitsOf n ≠ 0 := Nat.ne_of_gt (Nat.lt_of_lt_of_le (two_pow_pos 52) large)
  have leading : 52 ≤ (unitsOf n).log2 := (Nat.le_log2 notZero).mpr large
  have lower : Nat.pow 2 (unitsOf n).log2 ≤ unitsOf n := Nat.log2_self_le notZero
  have upper : unitsOf n < Nat.pow 2 ((unitsOf n).log2 + 1) := Nat.lt_log2_self
  have lowerSteps := two_pow_add 52 (binadeOf n)
  have upperSteps := two_pow_add 53 (binadeOf n)
  have lowerIs : 52 + binadeOf n = (unitsOf n).log2 := by unfold binadeOf; omega
  have upperIs : 53 + binadeOf n = (unitsOf n).log2 + 1 := by omega
  rw [← lowerSteps, ← upperSteps, lowerIs, upperIs]
  exact ⟨lower, upper⟩

theorem roundedOf_bounds (nonzero : n ≠ 0) :
    Nat.pow 2 52 ≤ roundedOf n ∧ roundedOf n ≤ Nat.pow 2 53 := by
  obtain ⟨lower, upper⟩ := binadeOf_bounds nonzero
  have positive := two_pow_pos (binadeOf n)
  have quotientLower := (Nat.le_div_iff_mul_le positive).mpr lower
  have quotientUpper := (Nat.div_lt_iff_lt_mul positive).mpr upper
  unfold roundedOf
  rcases roundQuotient_cases (unitsOf n) (Nat.pow 2 (binadeOf n)) with
    ⟨down, _⟩ | ⟨up, _⟩ | ⟨_, _, down | up⟩ <;> omega

private theorem roundedOf_zero : roundedOf 0 = 0 := by
  decide +kernel

theorem log2_lt_of_lt {number exponent : Nat} (nonzero : number ≠ 0)
    (below : number < Nat.pow 2 exponent) : number.log2 < exponent :=
  (Nat.log2_lt nonzero).mpr below

theorem binadeOf_le (small : n.natAbs < Nat.pow 2 64) : binadeOf n ≤ 2044 := by
  have range : Nat.pow 2 64 * unitsPerOne = Nat.pow 2 1138 := by decide +kernel
  have below : unitsOf n < Nat.pow 2 64 * unitsPerOne :=
    Nat.mul_lt_mul_of_pos_right small unitsPerOne_pos
  rw [range] at below
  unfold binadeOf
  by_cases zero : unitsOf n = 0
  · rw [zero]
    decide
  · have bound := log2_lt_of_lt zero below
    omega

private theorem ofInt_eq (small : n.natAbs < Nat.pow 2 64) :
    ofInt n = ofSignedWord (n < 0) (binadeOf n * Nat.pow 2 52 + roundedOf n) := by
  have exponent := binadeOf_le small
  have rounded : roundedOf n ≤ Nat.pow 2 53 := by
    by_cases zero : n = 0
    · rw [zero, roundedOf_zero]
      exact Nat.zero_le _
    · exact (roundedOf_bounds zero).2
  have inRange : binadeOf n * Nat.pow 2 52 + roundedOf n ≤ infinityWord := by
    change roundedOf n ≤ 9007199254740992 at rounded
    change binadeOf n * 4503599627370496 + roundedOf n ≤ 2047 * 4503599627370496
    omega
  have word : ofInt n = ofSignedWord (n < 0)
      (min (((unitsOf n / 1).log2 - 52) * Nat.pow 2 52 +
        roundQuotient (unitsOf n) (1 * Nat.pow 2 ((unitsOf n / 1).log2 - 52))) infinityWord) := rfl
  rw [word, Nat.div_one, Nat.one_mul]
  exact congrArg _ (Nat.min_eq_left inRange)

structure Converted (n : Int) (x : Double) : Prop where
  finite : x.isFinite = true
  sign : x.isNegative = decide (n < 0)
  magnitude : x.magnitude = roundedOf n * Nat.pow 2 (binadeOf n)
  even : roundedOf n % 2 = 0 → x.significand % 2 = 0

theorem ofInt_converted (nonzero : n ≠ 0) (small : n.natAbs < Nat.pow 2 64) :
    Converted n (ofInt n) := by
  obtain ⟨least, greatest⟩ := roundedOf_bounds nonzero
  have exponent := binadeOf_le small
  have inWord : binadeOf n * Nat.pow 2 52 + roundedOf n < Nat.pow 2 63 := by
    change roundedOf n ≤ 9007199254740992 at greatest
    change binadeOf n * 4503599627370496 + roundedOf n < 9223372036854775808
    omega
  obtain ⟨finite, magnitude, even⟩ := ofSignedWord_carried (n < 0) exponent least greatest
  rw [ofInt_eq small]
  exact ⟨finite, isNegative_ofSignedWord inWord _, magnitude, even⟩

/-! ### Distances from the integer -/

theorem mul_unitsPerOne (n : Int) :
    n * unitsPerOne = if n < 0 then -(unitsOf n : Int) else unitsOf n := by
  unfold unitsOf
  rw [Int.natCast_mul]
  split
  · next negative => rw [Int.ofNat_natAbs_of_nonpos negative.le, Int.neg_mul, Int.neg_neg]
  · next positive => rw [Int.natAbs_of_nonneg (Int.not_lt.mp positive)]

theorem gap_of_sign {x : Double} (sign : x.isNegative = decide (n < 0)) :
    gap n x = Nat.dist (unitsOf n) x.magnitude := by
  rw [gap, mul_unitsPerOne, scaled, sign, Nat.dist]
  by_cases negative : n < 0
  · rw [if_pos negative, if_pos (decide_eq_true negative)]
    omega
  · rw [if_neg negative, decide_eq_false negative, if_neg Bool.false_ne_true]
    omega

theorem gap_of_other_sign {x : Double} (other : x.isNegative ≠ decide (n < 0)) :
    gap n x = unitsOf n + x.magnitude := by
  have opposite : x.isNegative = !decide (n < 0) := Bool.eq_not_of_ne other
  rw [gap, mul_unitsPerOne, scaled, opposite]
  by_cases negative : n < 0
  · rw [if_pos negative, decide_eq_true negative, Bool.not_true, if_neg Bool.false_ne_true]
    omega
  · rw [if_neg negative, decide_eq_false negative, Bool.not_false, if_pos rfl]
    omega

theorem dist_le_gap (n : Int) (x : Double) : Nat.dist (unitsOf n) x.magnitude ≤ gap n x := by
  by_cases sign : x.isNegative = decide (n < 0)
  · rw [gap_of_sign sign]
  · rw [gap_of_other_sign sign, Nat.dist]
    omega

/-- No double lies nearer in magnitude than the rounded multiple of the unit, and one that lies as
near has its magnitude or the odd one of two significands. -/
theorem roundedOf_nearest (nonzero : n ≠ 0) (y : Double) :
    Nat.dist (unitsOf n) (roundedOf n * Nat.pow 2 (binadeOf n)) ≤
        Nat.dist (unitsOf n) y.magnitude ∧
      (Nat.dist (unitsOf n) y.magnitude =
          Nat.dist (unitsOf n) (roundedOf n * Nat.pow 2 (binadeOf n)) →
        y.magnitude = roundedOf n * Nat.pow 2 (binadeOf n) ∨
          (roundedOf n % 2 = 0 ∧ y.significand % 2 = 1)) := by
  have positive := two_pow_pos (binadeOf n)
  rcases magnitude_grid y (binadeOf n) with ⟨factor, onGrid, odd⟩ | below
  · rw [onGrid]
    refine ⟨roundQuotient_nearest positive factor, fun asNear => ?_⟩
    by_cases same : factor = roundedOf n
    · exact Or.inl (congrArg (· * Nat.pow 2 (binadeOf n)) same)
    · obtain ⟨even, oddFactor⟩ := roundQuotient_tie positive factor same asNear
      exact Or.inr ⟨even, (odd oddFactor).symm ▸ oddFactor⟩
  · -- Below the binade the number lies farther away than the least number of the binade.
    have least := (binadeOf_bounds nonzero).1
    have nearer : Nat.dist (unitsOf n) (roundedOf n * Nat.pow 2 (binadeOf n)) ≤
        Nat.dist (unitsOf n) (Nat.pow 2 52 * Nat.pow 2 (binadeOf n)) :=
      roundQuotient_nearest positive (Nat.pow 2 52)
    unfold Nat.dist at nearer ⊢
    omega

theorem Converted.magnitude_pos {x : Double} (nonzero : n ≠ 0) (converted : Converted n x) :
    0 < x.magnitude := by
  rw [converted.magnitude]
  exact Nat.mul_pos (Nat.lt_of_lt_of_le (two_pow_pos 52) (roundedOf_bounds nonzero).1)
    (two_pow_pos _)

private theorem Converted.closest {x : Double} (nonzero : n ≠ 0) (converted : Converted n x)
    (y : Double) :
    gap n x ≤ gap n y := by
  calc gap n x = Nat.dist (unitsOf n) x.magnitude := gap_of_sign converted.sign
    _ ≤ Nat.dist (unitsOf n) y.magnitude := by
        rw [converted.magnitude]
        exact (roundedOf_nearest nonzero y).1
    _ ≤ gap n y := dist_le_gap n y

theorem Converted.tie {x y : Double} (nonzero : n ≠ 0) (converted : Converted n x)
    (asNear : gap n y = gap n x) :
    y.rational = x.rational ∨ (x.significand % 2 = 0 ∧ y.significand % 2 = 1) := by
  have magnitudeIs := converted.magnitude
  have own := gap_of_sign converted.sign
  have toY := dist_le_gap n y
  obtain ⟨nearest, tie⟩ := roundedOf_nearest nonzero y
  rw [← magnitudeIs] at nearest tie
  rcases tie (by omega) with same | ⟨even, odd⟩
  · refine Or.inl ?_
    by_cases sign : y.isNegative = decide (n < 0)
    · rw [rational_eq_iff, scaled, scaled, same, sign, converted.sign]
    -- On the other side of zero a number of this magnitude would lie farther away.
    · have far := gap_of_other_sign sign
      have positive := converted.magnitude_pos nonzero
      have units := Nat.lt_of_lt_of_le unitsPerOne_pos (unitsOf_ge nonzero)
      unfold Nat.dist at own
      omega
  · exact Or.inr ⟨converted.even even, odd⟩

theorem ofInt_zero : (ofInt 0).isFinite = true ∧ (ofInt 0).magnitude = 0 := by
  decide +kernel

theorem rational_ofInt_zero : (ofInt 0).rational = 0 := by
  have size := (ofInt 0).natAbs_scaled
  rw [ofInt_zero.2, Int.natAbs_eq_zero] at size
  rw [rational, size, Int.cast_zero, zero_div]

theorem ofInt_isNearest (small : n.natAbs < Nat.pow 2 64) : (ofInt n).IsNearest n := by
  by_cases zero : n = 0
  · rw [zero]
    refine ⟨ofInt_zero.1, fun y _ => ?_, fun y _ asNear => ?_⟩
    · rw [rational_ofInt_zero, Int.cast_zero, sub_zero, abs_zero]
      exact abs_nonneg _
    · rw [rational_ofInt_zero, Int.cast_zero, sub_zero, abs_zero, zero_sub, abs_neg,
        abs_eq_zero] at asNear
      exact Or.inl (asNear.trans rational_ofInt_zero.symm)
  · have converted := ofInt_converted zero small
    refine ⟨converted.finite, fun y _ => closer_iff.mpr (converted.closest zero y), ?_⟩
    intro y _ asNear
    rcases converted.tie zero (asClose_iff.mp asNear) with same | ⟨even, _⟩
    · exact Or.inl same
    · exact Or.inr even

theorem isNearest_iff (small : n.natAbs < Nat.pow 2 64) {x : Double} (finite : x.isFinite = true) :
    x.IsNearest n ↔ x.rational = (ofInt n).rational := by
  have nearest := ofInt_isNearest small
  constructor
  · intro other
    have asNear : |(n : Rat) - x.rational| = |(n : Rat) - (ofInt n).rational| :=
      le_antisymm (other.closest _ nearest.finite) (nearest.closest _ finite)
    by_cases zero : n = 0
    · rw [zero, rational_ofInt_zero, Int.cast_zero, sub_zero, abs_zero, zero_sub, abs_neg,
        abs_eq_zero] at asNear
      rw [zero, asNear, rational_ofInt_zero]
    · have converted := ofInt_converted zero small
      rcases converted.tie zero (asClose_iff.mp asNear) with same | ⟨_, odd⟩
      · exact same
      · rcases other.even _ nearest.finite asNear.symm with same | even
        · exact same.symm
        · omega
  · intro same
    have sizes : x.magnitude = (ofInt n).magnitude := by
      rw [← natAbs_scaled, ← natAbs_scaled, rational_eq_iff.mp same]
    refine ⟨finite, fun y otherFinite => ?_, fun y otherFinite asNear => ?_⟩
    · rw [same]
      exact nearest.closest y otherFinite
    · rw [same] at asNear ⊢
      rw [significand_eq_of_magnitude sizes]
      exact nearest.even y otherFinite asNear

theorem isNearest_iff_eq (small : n.natAbs < Nat.pow 2 64) (nonzero : n ≠ 0) {x : Double} :
    x.IsNearest n ↔ x = ofInt n := by
  refine ⟨fun nearest => ?_, fun same => same ▸ ofInt_isNearest small⟩
  have same := rational_eq_iff.mp ((isNearest_iff small nearest.finite).mp nearest)
  have size := (ofInt_converted nonzero small).magnitude_pos nonzero
  rw [← natAbs_scaled, ← same, Int.natAbs_pos] at size
  exact eq_of_scaled same size

/-! ### Order towards the converted integer -/

private theorem isNearest_of_eq {x : Double} (finite : x.isFinite = true) (same : x.rational = n) :
    x.IsNearest n := by
  refine ⟨finite, fun y _ => ?_, fun y _ asNear => ?_⟩
  · rw [same, sub_self, abs_zero]
    exact abs_nonneg _
  · rw [same, sub_self, abs_zero, abs_eq_zero, sub_eq_zero] at asNear
    exact Or.inl (asNear.symm.trans same.symm)

theorem lt_iff_of_closer {number near far : Rat} (closer : |number - near| ≤ |number - far|)
    (different : near ≠ far) : near < far ↔ number < far := by
  constructor
  · intro below
    by_contra notBelow
    have farther : far ≤ number := not_lt.mp notBelow
    rw [abs_of_nonneg (by linarith), abs_of_nonneg (by linarith)] at closer
    linarith
  · intro below
    by_contra notBelow
    have beyond : far < near := lt_of_le_of_ne (not_lt.mp notBelow) different.symm
    rw [abs_of_nonpos (by linarith), abs_of_nonpos (by linarith)] at closer
    linarith

private theorem gt_iff_of_closer {number near far : Rat} (closer : |number - near| ≤ |number - far|)
    (different : near ≠ far) : far < near ↔ far < number := by
  have mirrored : |(-number) - (-near)| ≤ |(-number) - (-far)| := by
    rw [neg_sub_neg, neg_sub_neg, abs_sub_comm near, abs_sub_comm far]
    exact closer
  have negated := lt_iff_of_closer mirrored fun same => different (neg_injective same)
  rw [neg_lt_neg_iff, neg_lt_neg_iff] at negated
  exact negated

theorem order?_ofInt_of_isNearest (small : n.natAbs < Nat.pow 2 64) {x : Double}
    (nearest : x.IsNearest n) : (ofInt n).order? x = some .eq := by
  have same := (isNearest_iff small nearest.finite).mp nearest
  rw [order?_eq (value?_of_isFinite (ofInt_isNearest small).finite)
    (value?_of_isFinite nearest.finite), same]
  exact congrArg some (compare_eq_iff_eq.mpr rfl)

/-- Towards every double but the nearest one the converted integer stands where the integer itself
does. -/
theorem order?_ofInt_of_not_isNearest (small : n.natAbs < Nat.pow 2 64) {x : Double}
    {value : Extended} (found : x.value? = some value) (notNearest : ¬x.IsNearest n) :
    (ofInt n).order? x = some (compare (Extended.ofRat n) value) := by
  have nearest := ofInt_isNearest small
  rw [order?_eq (value?_of_isFinite nearest.finite) found]
  refine congrArg some ?_
  cases valued_of_value? found with
  | negativeInfinity =>
      exact compare_congr (iff_of_false not_lt_bot not_lt_bot)
        (iff_of_true (WithBot.bot_lt_coe _) (WithBot.bot_lt_coe _))
  | infinity =>
      exact compare_congr
        (iff_of_true (WithBot.coe_lt_coe.mpr (WithTop.coe_lt_top _))
          (WithBot.coe_lt_coe.mpr (WithTop.coe_lt_top _)))
        (iff_of_false not_top_lt not_top_lt)
  | finite finite =>
      have different : (ofInt n).rational ≠ x.rational :=
        fun same => notNearest ((isNearest_iff small finite).mpr same.symm)
      have closer := nearest.closest x finite
      refine compare_congr ?_ ?_
      · simpa [Extended.ofRat] using lt_iff_of_closer closer different
      · simpa [Extended.ofRat] using gt_iff_of_closer closer different

theorem compare_ne_eq_of_not_isNearest {x : Double} {value : Extended}
    (found : x.value? = some value) (notNearest : ¬x.IsNearest n) :
    compare (Extended.ofRat n) value ≠ .eq := by
  intro same
  have exact := compare_eq_iff_eq.mp same
  cases valued_of_value? found with
  | negativeInfinity => cases exact
  | infinity => cases exact
  | finite finite =>
      have rational : (n : Rat) = x.rational := by simpa [Extended.ofRat] using exact
      exact notNearest (isNearest_of_eq finite rational.symm)

/-! ### Integers that are doubles -/

private theorem two_pow_dvd {small large : Nat} (less : small ≤ large) :
    Nat.pow 2 small ∣ Nat.pow 2 large :=
  Nat.pow_dvd_pow 2 less

private theorem unitsPerOne_isPower : ∃ exponent, unitsPerOne = Nat.pow 2 exponent :=
  ⟨1074, by decide +kernel⟩

private theorem two_pow_dvd_unitsOf (nonzero : n ≠ 0) (exact : n.natAbs ≤ Nat.pow 2 53) :
    Nat.pow 2 (binadeOf n) ∣ unitsOf n := by
  obtain ⟨exponent, power⟩ := unitsPerOne_isPower
  rcases Nat.lt_or_ge exponent (binadeOf n) with coarse | fine
  · have lower := (binadeOf_bounds nonzero).1
    have doubled : Nat.pow 2 (exponent + 1) = Nat.pow 2 exponent * 2 := rfl
    have upper : unitsOf n ≤ Nat.pow 2 52 * Nat.pow 2 (exponent + 1) := by
      calc unitsOf n ≤ Nat.pow 2 53 * unitsPerOne := Nat.mul_le_mul_right _ exact
        _ = Nat.pow 2 52 * 2 * Nat.pow 2 exponent := congrArg _ power
        _ = Nat.pow 2 52 * Nat.pow 2 (exponent + 1) := by
            rw [Nat.mul_assoc, doubled, Nat.mul_comm 2]
    have between : Nat.pow 2 52 * Nat.pow 2 (exponent + 1) ≤ Nat.pow 2 52 * Nat.pow 2 (binadeOf n) :=
      Nat.mul_le_mul_left _ (Nat.le_of_dvd (two_pow_pos _) (two_pow_dvd coarse))
    rw [Nat.le_antisymm (Nat.le_trans upper between) lower]
    exact Nat.dvd_mul_left _ _
  · refine Nat.dvd_mul_left_of_dvd ?_ _
    rw [power]
    exact two_pow_dvd fine

theorem rational_ofInt (exact : n.natAbs ≤ Nat.pow 2 53) : (ofInt n).rational = n := by
  by_cases zero : n = 0
  · rw [zero, rational_ofInt_zero, Int.cast_zero]
  · have small : n.natAbs < Nat.pow 2 64 := Nat.lt_of_le_of_lt exact (by decide)
    have converted := ofInt_converted zero small
    obtain ⟨factor, whole⟩ := two_pow_dvd_unitsOf zero exact
    rw [Nat.mul_comm] at whole
    have nearest : Nat.dist (unitsOf n) (roundedOf n * Nat.pow 2 (binadeOf n)) ≤
        Nat.dist (unitsOf n) (factor * Nat.pow 2 (binadeOf n)) :=
      roundQuotient_nearest (two_pow_pos _) factor
    rw [← whole, Nat.dist_self, ← converted.magnitude, ← gap_of_sign converted.sign] at nearest
    have none : |(n : Rat) - (ofInt n).rational| = 0 := by
      rw [abs_sub_rational, Nat.le_zero.mp nearest, Nat.cast_zero, zero_div]
    exact (sub_eq_zero.mp (abs_eq_zero.mp none)).symm

end Integers

end HostValue.Double
