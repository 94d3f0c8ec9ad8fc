import HostValue.Proofs.Number.Magnitude
import Mathlib.Algebra.Order.Field.Rat
import Mathlib.Algebra.Order.Ring.Cast
import Mathlib.Data.Int.Cast.Lemmas
import Mathlib.Order.WithBot

/-!
# Exact values of doubles

The value of a double on the line of rational numbers with both infinities, and the order of doubles
as the order of these values. A NaN has no value.
-/

namespace HostValue

abbrev Extended : Type :=
  WithBot (WithTop Rat)

def Extended.ofRat (number : Rat) : Extended :=
  ((number : WithTop Rat) : WithBot (WithTop Rat))

namespace Double

/-- The rational number that a finite double stands for. -/
def rational (x : Double) : Rat :=
  x.scaled / unitsPerOne

/-- The exact value of a double that is no NaN. -/
def value? (x : Double) : Option Extended :=
  if x.isNaN then none
  else if x.isInfinite then some (if x.isNegative then ⊥ else ⊤)
  else some (.ofRat x.rational)

/-! ### Values -/

theorem unitsPerOne_pos : 0 < unitsPerOne := by
  decide +kernel

theorem natAbs_scaled (x : Double) : x.scaled.natAbs = x.magnitude := by
  unfold scaled
  split
  · rw [Int.natAbs_neg, Int.natAbs_natCast]
  · rw [Int.natAbs_natCast]

theorem eq_of_scaled {x y : Double} (same : x.scaled = y.scaled) (nonzero : x.scaled ≠ 0) :
    x = y := by
  have size := x.natAbs_scaled
  have otherSize := y.natAbs_scaled
  refine eq_of_magnitude (by omega) ?_
  unfold scaled at same nonzero
  cases sign : x.isNegative <;> cases otherSign : y.isNegative <;>
    simp only [sign, otherSign, if_true, Bool.false_eq_true, if_false] at same nonzero ⊢ <;> omega

private theorem rational_lt_iff {x y : Double} : x.rational < y.rational ↔ x.scaled < y.scaled := by
  have positive : (0 : Rat) < unitsPerOne := Nat.cast_pos.mpr unitsPerOne_pos
  rw [rational, rational, div_lt_div_iff_of_pos_right positive, Int.cast_lt]

theorem rational_eq_iff {x y : Double} : x.rational = y.rational ↔ x.scaled = y.scaled := by
  have nonzero : (unitsPerOne : Rat) ≠ 0 := Nat.cast_ne_zero.mpr unitsPerOne_pos.ne'
  rw [rational, rational, div_left_inj' nonzero, Int.cast_inj]

inductive Valued (x : Double) : Extended → Prop where
  | negativeInfinity (infinite : x.isInfinite = true) (negative : x.isNegative = true) : Valued x ⊥
  | infinity (infinite : x.isInfinite = true) (positive : x.isNegative = false) : Valued x ⊤
  | finite (finite : x.isFinite = true) : Valued x (.ofRat x.rational)

theorem valued_of_value? {x : Double} {value : Extended} (found : x.value? = some value) :
    x.Valued value := by
  unfold value? at found
  split at found
  · cases found
  · next number =>
    split at found
    · next infinite =>
      cases found
      cases negative : x.isNegative with
      | true => exact .negativeInfinity infinite negative
      | false => exact .infinity infinite negative
    · next bounded =>
      cases found
      exact .finite (isFinite_of_number (Bool.eq_false_iff.mpr number)
        (Bool.eq_false_iff.mpr bounded))

theorem value?_of_isFinite {x : Double} (finite : x.isFinite = true) :
    x.value? = some (.ofRat x.rational) := by
  have bounded : x.isInfinite = false := by
    rw [← Bool.not_eq_true, isInfinite_iff]
    exact fun infinite => isFinite_iff.mp finite infinite.1
  simp [value?, isNaN_of_isFinite finite, bounded]

theorem exists_value? {x : Double} (number : x.isNaN = false) : ∃ value, x.value? = some value := by
  rw [value?, number]
  split
  · next nan => cases nan
  · split
    · exact ⟨_, rfl⟩
    · exact ⟨_, rfl⟩

theorem isNaN_of_value? {x : Double} {value : Extended} (found : x.value? = some value) :
    x.isNaN = false := by
  cases valued_of_value? found with
  | negativeInfinity infinite => exact isNaN_of_isInfinite infinite
  | infinity infinite => exact isNaN_of_isInfinite infinite
  | finite finite => exact isNaN_of_isFinite finite

/-! ### Order -/

private theorem scaled_of_negative {x : Double} (negative : x.isNegative = true) :
    x.scaled = -(x.magnitude : Int) :=
  if_pos negative

private theorem scaled_of_positive {x : Double} (positive : x.isNegative = false) :
    x.scaled = x.magnitude := by
  rw [scaled, positive, if_neg Bool.false_ne_true]

private theorem Valued.scaled_lt_iff {x y : Double} {own other : Extended} (valued : x.Valued own)
    (otherValued : y.Valued other) : x.scaled < y.scaled ↔ own < other := by
  have size := x.natAbs_scaled
  have otherSize := y.natAbs_scaled
  cases valued with
  | negativeInfinity infinite negative =>
      have least := scaled_of_negative negative
      cases otherValued with
      | negativeInfinity otherInfinite otherNegative =>
          have same := magnitude_eq_of_isInfinite infinite otherInfinite
          have otherLeast := scaled_of_negative otherNegative
          exact iff_of_false (by omega) (lt_irrefl _)
      | infinity otherInfinite otherPositive =>
          have large := infiniteMagnitude_pos infinite
          have otherGreatest := scaled_of_positive otherPositive
          exact iff_of_true (by omega) bot_lt_top
      | finite otherFinite =>
          have larger := magnitude_lt_of_isInfinite otherFinite infinite
          exact iff_of_true (by omega) (WithBot.bot_lt_coe _)
  | infinity infinite positive =>
      have greatest := scaled_of_positive positive
      cases otherValued with
      | negativeInfinity otherInfinite otherNegative =>
          have otherLeast := scaled_of_negative otherNegative
          exact iff_of_false (by omega) not_lt_bot
      | infinity otherInfinite otherPositive =>
          have same := magnitude_eq_of_isInfinite infinite otherInfinite
          have otherGreatest := scaled_of_positive otherPositive
          exact iff_of_false (by omega) (lt_irrefl _)
      | finite otherFinite =>
          have larger := magnitude_lt_of_isInfinite otherFinite infinite
          exact iff_of_false (by omega) not_top_lt
  | finite finite =>
      cases otherValued with
      | negativeInfinity otherInfinite otherNegative =>
          have larger := magnitude_lt_of_isInfinite finite otherInfinite
          have otherLeast := scaled_of_negative otherNegative
          exact iff_of_false (by omega) not_lt_bot
      | infinity otherInfinite otherPositive =>
          have larger := magnitude_lt_of_isInfinite finite otherInfinite
          have otherGreatest := scaled_of_positive otherPositive
          exact iff_of_true (by omega) (WithBot.coe_lt_coe.mpr (WithTop.coe_lt_top _))
      | finite otherFinite =>
          rw [Extended.ofRat, Extended.ofRat, WithBot.coe_lt_coe, WithTop.coe_lt_coe,
            rational_lt_iff]

theorem compare_congr {α β : Type} [LinearOrder α] [LinearOrder β] {a b : α} {c d : β}
    (less : a < b ↔ c < d) (greater : b < a ↔ d < c) : compare a b = compare c d := by
  rcases lt_trichotomy a b with below | same | above
  · rw [compare_lt_iff_lt.mpr below, compare_lt_iff_lt.mpr (less.mp below)]
  · have otherSame : c = d := by
      apply le_antisymm
      · exact le_of_not_gt fun below => lt_irrefl b (same ▸ greater.mpr below)
      · exact le_of_not_gt fun below => lt_irrefl b (same ▸ less.mpr below)
    rw [compare_eq_iff_eq.mpr same, compare_eq_iff_eq.mpr otherSame]
  · rw [compare_gt_iff_gt.mpr above, compare_gt_iff_gt.mpr (greater.mp above)]

theorem order?_eq {x y : Double} {own other : Extended} (found : x.value? = some own)
    (otherFound : y.value? = some other) : x.order? y = some (compare own other) := by
  have valued := valued_of_value? found
  have otherValued := valued_of_value? otherFound
  rw [order?, isNaN_of_value? found, isNaN_of_value? otherFound]
  exact congrArg some
    (compare_congr (valued.scaled_lt_iff otherValued) (otherValued.scaled_lt_iff valued))

end Double

end HostValue
