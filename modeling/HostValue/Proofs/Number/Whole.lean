import HostValue.Coalescing
import HostValue.Proofs.Number.Exact
import HostValue.Proofs.Number.Numeral

/-!
# Whole doubles

Which doubles are integers: those with nothing behind the point, and then the number without what
stands there is the number itself. The bound of the integers of sixty-four bits is a double, so the
order of doubles decides exactly which of them lie within the bounds, and a cast changes none of these.
-/

namespace HostValue.Double

variable {x : Double} {n : Int}

/-! ### Numbers without a fraction -/

theorem toInt_toInt64 (number : x.isNaN = false)
    (bounds : Int64.minValue.toInt ≤ x.truncated ∧ x.truncated ≤ Int64.maxValue.toInt) :
    x.toInt64.toInt = x.truncated := by
  have clamped :
      max Int64.minValue.toInt (min Int64.maxValue.toInt x.truncated) = x.truncated := by
    rw [min_eq_right bounds.2, max_eq_right bounds.1]
  rw [toInt64, number, if_neg Bool.false_ne_true, clamped]
  exact toInt_ofInt_of_bounds bounds

end HostValue.Double
