import HostValue.Proofs.Number.Nearest

/-!
# Single floats

What the thirty-two bits of a single float stand for, and that one double holds it exactly: the same
number under the same sign. Every NaN is held by the NaN that stands for all of them.
-/

namespace HostValue

/-! ### Single floats by their bits -/

namespace Single

variable (bits : UInt32)

def isNegative : Bool :=
  Nat.pow 2 31 ≤ bits.toNat

def exponentField : Nat :=
  bits.toNat / Nat.pow 2 23 % Nat.pow 2 8

def fraction : Nat :=
  bits.toNat % Nat.pow 2 23

def isNaN : Bool :=
  exponentField bits == 255 && fraction bits != 0

def isInfinite : Bool :=
  exponentField bits == 255 && fraction bits == 0

def significand : Nat :=
  if exponentField bits = 0 then fraction bits else Nat.pow 2 23 + fraction bits

/-- The absolute value in units of `2 ^ -149`, the least positive number. -/
def magnitude : Nat :=
  significand bits * Nat.pow 2 (exponentField bits - 1)

def rational : Rat :=
  (if isNegative bits then -(magnitude bits : Rat) else magnitude bits) / Nat.pow 2 149

def value? : Option Extended :=
  if isNaN bits then none
  else if isInfinite bits then some (if isNegative bits then ⊥ else ⊤)
  else some (.ofRat (rational bits))

private theorem significand_lt : significand bits < Nat.pow 2 24 := by
  have bound : fraction bits < Nat.pow 2 23 := Nat.mod_lt _ (by decide)
  have doubled : Nat.pow 2 24 = Nat.pow 2 23 + Nat.pow 2 23 := rfl
  unfold significand
  split
  · omega
  · omega

private theorem exponentField_lt : exponentField bits < 256 :=
  Nat.mod_lt _ (by decide)

end Single

namespace Double

/-- The double is the number of a single float, under its sign. -/
structure Holds (x : Double) (bits : UInt32) : Prop where
  value : x.value? = Single.value? bits
  sign : Single.isNaN bits = false → x.isNegative = Single.isNegative bits
  nan : Single.isNaN bits = true → x = .nan

/-! ### Exact quotients -/

private theorem roundQuotient_mul (factor : Nat) {denominator : Nat} (positive : 0 < denominator) :
    roundQuotient (factor * denominator) denominator = factor := by
  have quotient : factor * denominator / denominator = factor := Nat.mul_div_cancel _ positive
  have remainder : factor * denominator % denominator = 0 := Nat.mul_mod_left _ _
  rcases roundQuotient_cases (factor * denominator) denominator with
    ⟨down, _⟩ | ⟨_, far⟩ | ⟨half, _⟩
  · rw [down, quotient]
  · omega
  · omega

section Normalized

variable {factor exponent : Nat} (least : Nat.pow 2 52 ≤ factor) (below : factor < Nat.pow 2 53)

include least below

private theorem log2_of_normalized : (factor * Nat.pow 2 exponent).log2 = 52 + exponent := by
  have positive := two_pow_pos exponent
  have lower : Nat.pow 2 (52 + exponent) ≤ factor * Nat.pow 2 exponent := by
    rw [two_pow_add]
    exact Nat.mul_le_mul_right _ least
  have upper : factor * Nat.pow 2 exponent < Nat.pow 2 (52 + exponent + 1) := by
    have steps : 52 + exponent + 1 = 53 + exponent := by omega
    rw [steps, two_pow_add]
    exact Nat.mul_lt_mul_of_pos_right below positive
  have nonzero : factor * Nat.pow 2 exponent ≠ 0 :=
    Nat.ne_of_gt (Nat.lt_of_lt_of_le (two_pow_pos _) lower)
  exact (Nat.log2_eq_iff nonzero).mpr ⟨lower, upper⟩

private theorem ofRatio_of_normalized {numerator denominator : Nat} (negative : Bool)
    (positive : 0 < denominator) (small : exponent ≤ 2044)
    (exact : numerator * unitsPerOne = factor * Nat.pow 2 exponent * denominator) :
    (ofRatio negative numerator denominator).isFinite = true ∧
      (ofRatio negative numerator denominator).isNegative = negative ∧
      (ofRatio negative numerator denominator).magnitude = factor * Nat.pow 2 exponent := by
  have quotient : numerator * unitsPerOne / denominator = factor * Nat.pow 2 exponent := by
    rw [exact, Nat.mul_div_cancel _ positive]
  have unit : (numerator * unitsPerOne / denominator).log2 - 52 = exponent := by
    rw [quotient, log2_of_normalized least below, Nat.add_sub_cancel_left]
  have rounded : roundQuotient (numerator * unitsPerOne) (denominator * Nat.pow 2 exponent) =
      factor := by
    rw [exact, Nat.mul_assoc, Nat.mul_comm (Nat.pow 2 exponent)]
    exact roundQuotient_mul factor (Nat.mul_pos positive (two_pow_pos exponent))
  change factor < 9007199254740992 at below
  have inRange : exponent * Nat.pow 2 52 + factor ≤ infinityWord := by
    change exponent * 4503599627370496 + factor ≤ 2047 * 4503599627370496
    omega
  have inWord : exponent * Nat.pow 2 52 + factor < Nat.pow 2 63 := by
    change exponent * 4503599627370496 + factor < 9223372036854775808
    omega
  have made : ofRatio negative numerator denominator =
      ofSignedWord negative (exponent * Nat.pow 2 52 + factor) := by
    unfold ofRatio
    dsimp only
    rw [unit, rounded, Nat.min_eq_left inRange]
  obtain ⟨finite, magnitude, -⟩ :=
    ofSignedWord_carried negative small least (Nat.le_of_lt below)
  rw [made]
  exact ⟨finite, isNegative_ofSignedWord inWord negative, magnitude⟩

end Normalized

/-! ### Widening -/

def unitsPerLeast : Nat :=
  Nat.pow 2 925

private theorem unitsPerLeast_isPower :
    ∃ exponent, exponent = 925 ∧ unitsPerLeast = Nat.pow 2 exponent :=
  ⟨925, rfl, by decide +kernel⟩

theorem unitsPerOne_eq : unitsPerOne = unitsPerLeast * Nat.pow 2 149 := by
  decide +kernel

private theorem ofRatio_zero (negative : Bool) :
    (ofRatio negative 0 (Nat.pow 2 149)).isFinite = true ∧
      (ofRatio negative 0 (Nat.pow 2 149)).isNegative = negative ∧
      (ofRatio negative 0 (Nat.pow 2 149)).magnitude = 0 := by
  cases negative <;> decide +kernel

section Widening

variable (bits : UInt32)

/-- A single float other than zero has the significand and the exponent of a normal double. -/
private theorem exists_normalized (nonzero : Single.magnitude bits ≠ 0) :
    ∃ factor exponent, Nat.pow 2 52 ≤ factor ∧ factor < Nat.pow 2 53 ∧ exponent ≤ 2044 ∧
      Single.magnitude bits * unitsPerLeast = factor * Nat.pow 2 exponent := by
  have notZero : Single.significand bits ≠ 0 := left_ne_zero_of_mul nonzero
  have significandBound := Single.significand_lt bits
  have exponentBound := Single.exponentField_lt bits
  obtain ⟨scale, scaleIs, power⟩ := unitsPerLeast_isPower
  have leading : (Single.significand bits).log2 < 24 := log2_lt_of_lt notZero significandBound
  have lower : Nat.pow 2 (Single.significand bits).log2 ≤ Single.significand bits :=
    Nat.log2_self_le notZero
  have upper : Single.significand bits < Nat.pow 2 ((Single.significand bits).log2 + 1) :=
    Nat.lt_log2_self
  unfold Single.magnitude
  generalize (Single.significand bits).log2 = place at leading lower upper
  have positive := two_pow_pos (52 - place)
  refine ⟨Single.significand bits * Nat.pow 2 (52 - place),
    Single.exponentField bits - 1 + place + 873, ?_, ?_, by omega, ?_⟩
  · have steps : place + (52 - place) = 52 := by omega
    rw [← steps, two_pow_add, steps]
    exact Nat.mul_le_mul_right _ lower
  · have steps : place + 1 + (52 - place) = 53 := by omega
    rw [← steps, two_pow_add]
    exact Nat.mul_lt_mul_of_pos_right upper positive
  · have steps : 52 - place + (Single.exponentField bits - 1 + place + 873) =
        Single.exponentField bits - 1 + scale := by omega
    rw [power, Nat.mul_assoc, Nat.mul_assoc, ← two_pow_add, ← two_pow_add, steps]

private theorem ofRatio_single (negative : Bool) :
    (ofRatio negative (Single.magnitude bits) (Nat.pow 2 149)).isFinite = true ∧
      (ofRatio negative (Single.magnitude bits) (Nat.pow 2 149)).isNegative = negative ∧
      (ofRatio negative (Single.magnitude bits) (Nat.pow 2 149)).magnitude =
        Single.magnitude bits * unitsPerLeast := by
  by_cases zero : Single.magnitude bits = 0
  · rw [zero, Nat.zero_mul]
    exact ofRatio_zero negative
  · obtain ⟨factor, exponent, least, below, small, same⟩ := exists_normalized bits zero
    have exact : Single.magnitude bits * unitsPerOne =
        factor * Nat.pow 2 exponent * Nat.pow 2 149 := by
      rw [unitsPerOne_eq, ← Nat.mul_assoc, same]
    rw [same]
    exact ofRatio_of_normalized least below negative (two_pow_pos 149) small exact

private theorem ofSingleBits_eq :
    ofSingleBits bits =
      if Single.isNaN bits then .nan
      else if Single.isInfinite bits then .infinity (Single.isNegative bits)
      else ofRatio (Single.isNegative bits) (Single.magnitude bits) (Nat.pow 2 149) := by
  unfold ofSingleBits Single.isNaN Single.isInfinite Single.magnitude Single.significand
  change (if Single.exponentField bits = 255 then
      if Single.fraction bits = 0 then infinity (Single.isNegative bits) else nan
    else if Single.exponentField bits = 0 then
      ofRatio (Single.isNegative bits) (Single.fraction bits) (Nat.pow 2 149)
    else ofRatio (Single.isNegative bits) ((Nat.pow 2 23 + Single.fraction bits) *
      Nat.pow 2 (Single.exponentField bits - 1)) (Nat.pow 2 149)) = _
  by_cases top : Single.exponentField bits = 255
  · by_cases zero : Single.fraction bits = 0
    · simp [top, zero]
    · simp [top, zero]
  · by_cases least : Single.exponentField bits = 0
    · simp [least]
    · simp [top, least]

private theorem rational_of_magnitude {x : Double} (sign : x.isNegative = Single.isNegative bits)
    (size : x.magnitude = Single.magnitude bits * unitsPerLeast) :
    x.rational = Single.rational bits := by
  have positive : 0 < unitsPerLeast := by decide +kernel
  have nonzero : (unitsPerLeast : Rat) ≠ 0 := Nat.cast_ne_zero.mpr positive.ne'
  have scaledIs : (x.scaled : Rat) =
      (if Single.isNegative bits then -(Single.magnitude bits : Rat) else Single.magnitude bits) *
        unitsPerLeast := by
    rw [scaled, sign, size]
    split
    · rw [Int.cast_neg, Int.cast_natCast, Nat.cast_mul, neg_mul]
    · rw [Int.cast_natCast, Nat.cast_mul]
  rw [rational, Single.rational, scaledIs, unitsPerOne_eq, Nat.mul_comm, Nat.cast_mul,
    mul_div_mul_right _ _ nonzero]

private theorem value?_infinity (negative : Bool) :
    (infinity negative).value? = some (if negative then ⊥ else ⊤) := by
  cases negative <;> rfl

theorem ofSingleBits_holds : (ofSingleBits bits).Holds bits := by
  rw [ofSingleBits_eq]
  by_cases nan : Single.isNaN bits = true
  · rw [if_pos nan]
    refine ⟨?_, fun number => ?_, fun _ => rfl⟩
    · rw [Single.value?, if_pos nan]
      rfl
    · rw [nan] at number
      cases number
  · have number := Bool.eq_false_iff.mpr nan
    rw [if_neg nan]
    by_cases infinite : Single.isInfinite bits = true
    · rw [if_pos infinite]
      refine ⟨?_, fun _ => ?_, fun isNaN => absurd isNaN nan⟩
      · rw [Single.value?, if_neg nan, if_pos infinite, value?_infinity]
      · exact isNegative_ofSignedWord (by decide) _
    · rw [if_neg infinite]
      obtain ⟨finite, sign, size⟩ := ofRatio_single bits (Single.isNegative bits)
      refine ⟨?_, fun _ => sign, fun isNaN => absurd isNaN nan⟩
      rw [value?_of_isFinite finite, rational_of_magnitude bits sign size, Single.value?,
        if_neg nan, if_neg infinite]

end Widening

/-! ### Uniqueness -/

private theorem eq_of_value? {x y : Double} {value : Extended} (found : x.value? = some value)
    (otherFound : y.value? = some value) (sign : x.isNegative = y.isNegative) : x = y := by
  have order := order?_eq found otherFound
  rw [order?, isNaN_of_value? found, isNaN_of_value? otherFound,
    compare_eq_iff_eq.mpr (rfl : value = value)] at order
  have same : x.scaled = y.scaled := compare_eq_iff_eq.mp (Option.some.inj order)
  have size : x.magnitude = y.magnitude := by
    rw [← natAbs_scaled, ← natAbs_scaled, same]
  exact eq_of_magnitude size sign

theorem holds_iff {x : Double} {bits : UInt32} : x.Holds bits ↔ x = ofSingleBits bits := by
  have made := ofSingleBits_holds bits
  refine ⟨fun holds => ?_, fun same => same ▸ made⟩
  cases nan : Single.isNaN bits with
  | true => exact (holds.nan nan).trans (made.nan nan).symm
  | false =>
      have known : ∃ value, (ofSingleBits bits).value? = some value := by
        rw [made.value, Single.value?, nan, if_neg Bool.false_ne_true]
        split
        · exact ⟨_, rfl⟩
        · exact ⟨_, rfl⟩
      obtain ⟨value, found⟩ := known
      have alsoFound : x.value? = some value := by
        rw [holds.value, ← made.value, found]
      exact eq_of_value? alsoFound found ((holds.sign nan).trans (made.sign nan).symm)

end Double

end HostValue
