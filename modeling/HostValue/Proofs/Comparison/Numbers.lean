import HostValue.Proofs.Comparison.Agreement
import HostValue.Proofs.Number.Nearest
import HostValue.Proofs.Number.Numeral

/-!
# Comparison of integers with floats

An integer meets a float as the double nearest to the integer. So the two are equal when the float is
that double, be it the integer or not, and otherwise they stand in the order of their exact values.
Equality is transitive but for two integers that have one nearest double.
-/

namespace HostValue

private theorem Double.order?_eq_eq_iff {x y : Double} :
    x.order? y = some .eq ↔ x.isNaN = false ∧ y.isNaN = false ∧ x.scaled = y.scaled := by
  unfold order?
  cases x.isNaN <;> cases y.isNaN <;> simp

private theorem Double.order?_eq_trans {x y z : Double} (first : x.order? y = some .eq)
    (second : y.order? z = some .eq) : x.order? z = some .eq := by
  obtain ⟨number, _, same⟩ := order?_eq_eq_iff.mp first
  obtain ⟨_, otherNumber, otherSame⟩ := order?_eq_eq_iff.mp second
  exact order?_eq_eq_iff.mpr ⟨number, otherNumber, same.trans otherSame⟩

namespace Mode

variable {mode : Mode}

/-! ### Order and equality -/

private theorem exists_order_integer_float (n : Int64) {x : Double} {value : Extended}
    (found : x.value? = some value) :
    ∃ ordering, (Double.ofInt n.toInt).order? x = some ordering ∧
      (ordering = .eq ↔ x.IsNearest n.toInt) ∧
      (¬x.IsNearest n.toInt → ordering = Ord.compare (Extended.ofRat n.toInt) value) := by
  have small := natAbs_toInt_lt n
  by_cases nearest : x.IsNearest n.toInt
  · exact ⟨.eq, Double.order?_ofInt_of_isNearest small nearest, iff_of_true rfl nearest,
      fun other => absurd nearest other⟩
  · exact ⟨_, Double.order?_ofInt_of_not_isNearest small found nearest,
      iff_of_false (Double.compare_ne_eq_of_not_isNearest found nearest) nearest, fun _ => rfl⟩

private theorem order_integer_float_exact {n : Int64} (exact : n.toInt.natAbs ≤ Nat.pow 2 53)
    {x : Double}
    {value : Extended} (found : x.value? = some value) :
    (Double.ofInt n.toInt).order? x = some (Ord.compare (Extended.ofRat n.toInt) value) := by
  have finite := (Double.ofInt_isNearest (natAbs_toInt_lt n)).finite
  rw [Double.order?_eq (Double.value?_of_isFinite finite) found, Double.rational_ofInt exact]

/-! ### Transitivity -/

/-- The double that a number is compared as, unless it meets another integer. -/
inductive ComparedAs : Value → Double → Prop where
  | integer (n : Int64) : ComparedAs (.integer n) (.ofInt n.toInt)
  | float (x : Double) : ComparedAs (.float x) x

private theorem exists_comparedAs {value : Value} (numeric : value.kind.isNumeric = true) :
    ∃ x, ComparedAs value x := by
  cases value with
  | integer n => exact ⟨_, .integer n⟩
  | float x => exact ⟨_, .float x⟩
  | _ => cases numeric

private theorem equal_integers_iff {m n : Int64} :
    mode.equal (.integer m) (.integer n) = .ok true ↔ m = n := by
  have order : mode.compare (.integer m) (.integer n) = .ok (Ord.compare m n) := rfl
  rw [← compare_eq_ok_eq_iff, order, Except.ok.injEq, Std.compare_eq_iff_eq]

private theorem equal_numbers_iff {left right : Value} {x y : Double} (leftAs : ComparedAs left x)
    (rightAs : ComparedAs right y) (mixed : left.kind = .float ∨ right.kind = .float) :
    mode.equal left right = .ok true ↔ x.order? y = some .eq := by
  rw [← compare_eq_ok_eq_iff]
  cases leftAs with
  | integer m =>
      cases rightAs with
      | integer n => rcases mixed with impossible | impossible <;> cases impossible
      | float y => exact orderFloats_eq_ok_iff
  | float x =>
      cases rightAs with
      | integer n => exact orderFloats_eq_ok_iff
      | float y => exact orderFloats_eq_ok_iff

private theorem equal_numbers_trans {first second third : Value}
    (firstNumeric : first.kind.isNumeric = true)
    (secondNumeric : second.kind.isNumeric = true) (thirdNumeric : third.kind.isNumeric = true)
    (lower : mode.equal first second = .ok true) (upper : mode.equal second third = .ok true) :
    mode.equal first third = .ok true ∨
      ∃ m x n, first = .integer m ∧ second = .float x ∧ third = .integer n ∧ m ≠ n := by
  obtain ⟨x, firstAs⟩ := exists_comparedAs firstNumeric
  obtain ⟨y, secondAs⟩ := exists_comparedAs secondNumeric
  obtain ⟨z, thirdAs⟩ := exists_comparedAs thirdNumeric
  cases secondAs with
  | float y =>
      have below := (equal_numbers_iff firstAs (.float y) (Or.inr rfl)).mp lower
      have above := (equal_numbers_iff (.float y) thirdAs (Or.inl rfl)).mp upper
      have through := Double.order?_eq_trans below above
      cases firstAs with
      | float x => exact Or.inl ((equal_numbers_iff (.float x) thirdAs (Or.inl rfl)).mpr through)
      | integer m =>
          cases thirdAs with
          | float z =>
              exact Or.inl ((equal_numbers_iff (.integer m) (.float z) (Or.inr rfl)).mpr through)
          | integer n =>
              by_cases same : m = n
              · exact Or.inl (equal_integers_iff.mpr same)
              · exact Or.inr ⟨m, y, n, rfl, rfl, rfl, same⟩
  -- An integer in the middle is the integer at its side, or else floats stand at both sides.
  | integer k =>
      refine Or.inl ?_
      cases firstAs with
      | integer m => rwa [equal_integers_iff.mp lower]
      | float x =>
          cases thirdAs with
          | integer n => rwa [← equal_integers_iff.mp upper]
          | float z =>
              have below := (equal_numbers_iff (.float x) (.integer k) (Or.inl rfl)).mp lower
              have above := (equal_numbers_iff (.integer k) (.float z) (Or.inr rfl)).mp upper
              exact (equal_numbers_iff (.float x) (.float z) (Or.inl rfl)).mpr
                (Double.order?_eq_trans below above)

/-- Integers and floats are compared through the nearest double: a float is equal to the integers it
lies nearest to, and to every other integer it stands in the order of the exact values. -/
theorem compare_numbers_through_nearest (mode : Mode) :
    (∀ (n : Int64) (x : Double), x.isNaN = false →
      ∃ value ordering, x.value? = some value ∧
        mode.compare (.integer n) (.float x) = .ok ordering ∧
        mode.compare (.float x) (.integer n) = .ok ordering.swap ∧
        mode.equal (.integer n) (.float x) = .ok (ordering == .eq) ∧
        mode.equal (.float x) (.integer n) = .ok (ordering == .eq) ∧
        (ordering = .eq ↔ x.IsNearest n.toInt) ∧
        (¬x.IsNearest n.toInt ∨ n.toInt.natAbs ≤ Nat.pow 2 53 →
          ordering = Ord.compare (Extended.ofRat n.toInt) value)) ∧
      ∀ first second third : Value, first.kind.isNumeric = true → second.kind.isNumeric = true →
        third.kind.isNumeric = true → mode.equal first second = .ok true →
          mode.equal second third = .ok true →
            mode.equal first third = .ok true ∨
              ∃ m x n, first = .integer m ∧ second = .float x ∧ third = .integer n ∧ m ≠ n := by
  refine ⟨?_, fun first second third => equal_numbers_trans⟩
  intro n x number
  obtain ⟨value, found⟩ := Double.exists_value? number
  obtain ⟨ordering, ordered, nearest, exact⟩ := exists_order_integer_float n found
  have forward : mode.compare (.integer n) (.float x) = .ok ordering :=
    orderFloats_eq_ok_iff.mpr ordered
  have backward : mode.compare (.float x) (.integer n) = .ok ordering.swap :=
    orderFloats_eq_ok_iff.mpr (by rw [Double.order?_swap, ordered]; rfl)
  have unchanged : (ordering.swap == .eq) = (ordering == .eq) := by cases ordering <;> rfl
  have equalBackward := equal_of_compare backward
  rw [unchanged] at equalBackward
  refine ⟨value, ordering, found, forward, backward, equal_of_compare forward, equalBackward,
    nearest, ?_⟩
  rintro (other | small)
  · exact exact other
  · rw [order_integer_float_exact small found, Option.some.injEq] at ordered
    exact ordered.symm

/-- The last integer up to which all are doubles meets the double above it, and an integer stands
between two zeros, which are equal to it. -/
theorem compare_numbers_through_nearest_at_bound :
    strict.compare (.integer 9007199254740992) (.float ⟨0x4340000000000001⟩) = .ok .lt ∧
      humane.equal (.float (.zero true)) (.float (.zero false)) = .ok true := by
  constructor
  · obtain ⟨value, ordering, found, forward, -, -, -, -, exact⟩ :=
      (compare_numbers_through_nearest strict).1 9007199254740992 ⟨0x4340000000000001⟩ (by decide)
    have known : Double.value? ⟨0x4340000000000001⟩ = some (.ofRat 9007199254740994) := by
      decide +kernel
    have below : Ord.compare (Extended.ofRat (9007199254740992 : Int64).toInt)
        (.ofRat 9007199254740994) = .lt := by decide +kernel
    cases Option.some.inj (found.symm.trans known)
    rw [forward, exact (Or.inr (by decide)), below]
  · have through := (compare_numbers_through_nearest humane).2 (.float (.zero true)) (.integer 0)
      (.float (.zero false)) rfl rfl rfl (by decide +kernel) (by decide +kernel)
    rcases through with equal | ⟨m, x, n, impossible, -⟩
    · exact equal
    · cases impossible

/-- The double `2 ^ 53` is equal to the integer above it, and so to two integers that are not
equal. -/
theorem compare_numbers_not_exact :
    Double.value? ⟨0x4340000000000000⟩ = some (.ofRat 9007199254740992) ∧
      Ord.compare (Extended.ofRat (9007199254740993 : Int64).toInt) (.ofRat 9007199254740992) =
        .gt ∧
      strict.compare (.integer 9007199254740993) (.float ⟨0x4340000000000000⟩) = .ok .eq ∧
      strict.equal (.integer 9007199254740992) (.float ⟨0x4340000000000000⟩) = .ok true ∧
      strict.equal (.float ⟨0x4340000000000000⟩) (.integer 9007199254740993) = .ok true ∧
      strict.equal (.integer 9007199254740992) (.integer 9007199254740993) = .ok false := by
  decide +kernel

end Mode

end HostValue
