import HostValue.Proofs.Comparison.Ranks

/-!
# Comparison of leaves

The comparison of two values of which at most one is a vector or an object, and of which such a one
can only fail. What orders two leaves is listed case by case as a relation; from the list follow
that exchanged operands give the reversed order, that equality goes with order, and which leaves are
equal to themselves.
-/

namespace HostValue

open Std

/-! ### Doubles -/

theorem Double.order?_swap (x y : Double) : y.order? x = (x.order? y).map Ordering.swap := by
  unfold Double.order?
  rw [Bool.or_comm]
  split
  · rfl
  · exact congrArg some OrientedCmp.eq_swap

private theorem Double.order?_self {x : Double} (number : x.isNaN = false) :
    x.order? x = some .eq := by
  unfold Double.order?
  rw [number]
  exact congrArg some ReflCmp.compare_self

private theorem Double.same_eq_of_order? {x y : Double} {ordering : Ordering}
    (ordered : x.order? y = some ordering) : x.same y = (ordering == .eq) := by
  rw [Double.same, ordered]
  rfl

theorem Double.order?_of_same {x y : Double} (same : x.same y = true) : x.order? y = some .eq :=
  eq_of_beq same

private theorem Double.same_swap (x y : Double) : y.same x = x.same y := by
  unfold Double.same
  rw [Double.order?_swap x y]
  cases x.order? y with
  | none => rfl
  | some ordering => cases ordering <;> rfl

theorem orderFloats_eq_ok_iff {x y : Double} {ordering : Ordering} :
    orderFloats x y = .ok ordering ↔ x.order? y = some ordering := by
  unfold orderFloats
  cases x.order? y with
  | none => simp
  | some found => simp

/-! ### Order of scalars and handles -/

inductive ScalarOrder : Value → Value → Ordering → Prop where
  | null : ScalarOrder .null .null .eq
  | bool (a b : Bool) : ScalarOrder (.bool a) (.bool b) (compare a b)
  | integer (a b : Int64) : ScalarOrder (.integer a) (.integer b) (compare a b)
  | integerFloat {a : Int64} {b : Double} {ordering : Ordering}
      (ordered : (Double.ofInt a.toInt).order? b = some ordering) :
      ScalarOrder (.integer a) (.float b) ordering
  | floatInteger {a : Double} {b : Int64} {ordering : Ordering}
      (ordered : a.order? (Double.ofInt b.toInt) = some ordering) :
      ScalarOrder (.float a) (.integer b) ordering
  | float {a b : Double} {ordering : Ordering} (ordered : a.order? b = some ordering) :
      ScalarOrder (.float a) (.float b) ordering
  | string (a b : String) : ScalarOrder (.string a) (.string b) (compare a b)
  | handle (identity : Nat) (payload : Payload) :
      ScalarOrder (.hosted identity payload) (.hosted identity payload) .eq

theorem orderScalars_eq_ok_iff {left right : Value} {ordering : Ordering} :
    orderScalars left right = .ok ordering ↔ ScalarOrder left right ordering := by
  constructor
  · intro ordered
    unfold orderScalars at ordered
    split at ordered
    · cases ordered
      exact .null
    · cases ordered
      exact .bool _ _
    · cases ordered
      exact .integer _ _
    · exact .integerFloat (orderFloats_eq_ok_iff.mp ordered)
    · exact .floatInteger (orderFloats_eq_ok_iff.mp ordered)
    · exact .float (orderFloats_eq_ok_iff.mp ordered)
    · cases ordered
      exact .string _ _
    · split at ordered
      · next same =>
        cases ordered
        rw [same.1, same.2]
        exact .handle _ _
      · cases ordered
    · cases ordered
  · intro ordered
    cases ordered with
    | null | bool | integer | string => rfl
    | integerFloat ordered => exact orderFloats_eq_ok_iff.mpr ordered
    | floatInteger ordered => exact orderFloats_eq_ok_iff.mpr ordered
    | float ordered => exact orderFloats_eq_ok_iff.mpr ordered
    | handle identity payload => exact if_pos ⟨rfl, rfl⟩

theorem ScalarOrder.swap {left right : Value} {ordering : Ordering}
    (ordered : ScalarOrder left right ordering) : ScalarOrder right left ordering.swap := by
  cases ordered with
  | null => exact .null
  | bool a b => rw [← OrientedCmp.eq_swap]; exact .bool b a
  | integer a b => rw [← OrientedCmp.eq_swap]; exact .integer b a
  | integerFloat ordered => exact .floatInteger (by rw [Double.order?_swap, ordered]; rfl)
  | floatInteger ordered => exact .integerFloat (by rw [Double.order?_swap, ordered]; rfl)
  | float ordered => exact .float (by rw [Double.order?_swap, ordered]; rfl)
  | string a b => rw [← OrientedCmp.eq_swap]; exact .string b a
  | handle identity payload => exact .handle identity payload

private theorem ScalarOrder.self {value : Value} (leaf : value.kind.isCollection = false)
    (number : ∀ x, value = .float x → x.isNaN = false) : ScalarOrder value value .eq := by
  cases value with
  | null => exact .null
  | bool flag =>
      have order := ScalarOrder.bool flag flag
      rw [ReflOrd.compare_self] at order
      exact order
  | integer n =>
      have order := ScalarOrder.integer n n
      rw [ReflOrd.compare_self] at order
      exact order
  | float x => exact .float (Double.order?_self (number x rfl))
  | string text =>
      have order := ScalarOrder.string text text
      rw [ReflOrd.compare_self] at order
      exact order
  | vector | object => cases leaf
  | hosted identity payload => exact .handle identity payload

/-! ### Equality of scalars and handles -/

inductive ScalarEquality : Value → Value → Bool → Prop where
  | ordered {left right : Value} {ordering : Ordering} (ordered : ScalarOrder left right ordering) :
      ScalarEquality left right (ordering == .eq)
  | float (a b : Double) : ScalarEquality (.float a) (.float b) (a.same b)
  | handle {i j : Nat} {a b : Payload} (sameType : a.typeName = b.typeName) :
      ScalarEquality (.hosted i a) (.hosted j b) (decide (i = j ∧ a = b))

private theorem equalScalars_of_order {left right : Value} {ordering : Ordering}
    (ordered : ScalarOrder left right ordering) :
    equalScalars left right = .ok (ordering == .eq) := by
  cases ordered with
  | null | bool | integer | string => rfl
  | integerFloat ordered => simp [equalScalars, orderScalars, orderFloats, ordered]
  | floatInteger ordered => simp [equalScalars, orderScalars, orderFloats, ordered]
  | float ordered => exact congrArg Except.ok (Double.same_eq_of_order? ordered)
  | handle identity payload => simp [equalScalars]

private theorem equalScalars_eq_ok_iff {left right : Value} {answer : Bool} :
    equalScalars left right = .ok answer ↔ ScalarEquality left right answer := by
  constructor
  · intro equal
    unfold equalScalars at equal
    split at equal
    · cases equal
      exact .float _ _
    · split at equal
      · next sameType =>
        cases equal
        exact .handle sameType
      · cases equal
    · split at equal
      · next ordered =>
        cases equal
        exact .ordered (orderScalars_eq_ok_iff.mp ordered)
      · cases equal
  · intro equal
    cases equal with
    | ordered ordered => exact equalScalars_of_order ordered
    | float a b => rfl
    | handle sameType => exact if_pos sameType

private theorem ScalarEquality.swap {left right : Value} {answer : Bool}
    (equal : ScalarEquality left right answer) : ScalarEquality right left answer := by
  cases equal with
  | @ordered _ _ ordering ordered =>
      have same : (ordering == .eq) = (ordering.swap == .eq) := by cases ordering <;> rfl
      rw [same]
      exact .ordered ordered.swap
  | float a b => rw [← Double.same_swap]; exact .float b a
  | @handle i j a b sameType =>
      have same : decide (i = j ∧ a = b) = decide (j = i ∧ b = a) := by
        exact decide_eq_decide.mpr (and_congr eq_comm eq_comm)
      rw [same]
      exact .handle sameType.symm

private theorem ScalarOrder.of_equal {left right : Value} (equal : ScalarEquality left right true) :
    ScalarOrder left right .eq := by
  generalize answerIs : true = answer at equal
  cases equal with
  | ordered ordered =>
      rw [← eq_of_beq answerIs.symm]
      exact ordered
  | float a b => exact .float (Double.order?_of_same answerIs.symm)
  | handle sameType =>
      obtain ⟨sameIdentity, samePayload⟩ := of_decide_eq_true answerIs.symm
      rw [sameIdentity, samePayload]
      exact .handle _ _

/-! ### Unification -/

namespace Mode

theorem unify_swap {mode : Mode} {left right : Value} {leftText rightText : String}
    (unified : mode.unify left right = .ok (leftText, rightText)) :
    mode.unify right left = .ok (rightText, leftText) := by
  cases mode with
  | strict => cases unified
  | humane =>
      simp only [unify] at unified ⊢
      cases leftForm : humane.toText left with
      | error => simp [leftForm] at unified
      | ok l =>
          cases rightForm : humane.toText right with
          | error => simp [leftForm, rightForm] at unified
          | ok r =>
              simp only [leftForm, rightForm, Except.ok.injEq, Prod.mk.injEq] at unified ⊢
              exact ⟨unified.2, unified.1⟩

theorem toText_collection (mode : Mode) {value : Value} (collection : value.kind.isCollection = true)
    (text : String) : mode.toText value ≠ .ok text := by
  cases value with
  | vector | object => simp [toText]
  | _ => cases collection

theorem unify_collection (mode : Mode) {left right : Value}
    (collection : left.kind.isCollection = true) (texts : String × String) :
    mode.unify left right ≠ .ok texts := by
  cases mode with
  | strict => simp [unify]
  | humane =>
      simp only [unify]
      split
      · next leftText _ => exact absurd leftText (toText_collection humane collection _)
      · simp

end Mode

/-! ### Leaves -/

/-- The two values are neither two vectors nor two objects. -/
def Value.Apart (left right : Value) : Prop :=
  left.kind.isCollection = true → left.kind ≠ right.kind

theorem Value.Apart.swap {left right : Value} (apart : left.Apart right) : right.Apart left := by
  intro collection same
  rw [same] at collection
  exact apart collection same.symm

theorem Value.Apart.of_leaf {left : Value} (leaf : left.kind.isCollection = false) (right : Value) :
    left.Apart right := by
  intro collection
  rw [leaf] at collection
  cases collection

theorem sameDomain_swap (left right : Value) : sameDomain right left = sameDomain left right := by
  unfold sameDomain
  rw [Bool.and_comm, BEq.comm]

private theorem sameDomain_self (value : Value) : sameDomain value value = true := by
  simp [sameDomain]

namespace Mode

/-- What orders two values that are apart: they themselves, their numbers, characters and handles,
or the texts that the mode makes of them. -/
inductive LeafOrder (mode : Mode) (left right : Value) : Ordering → Prop where
  | themselves {ordering : Ordering} (asked : compareThemselves left right = .ok (some ordering)) :
      LeafOrder mode left right ordering
  | scalars {ordering : Ordering} (silent : compareThemselves left right = .ok none)
      (domain : sameDomain left right = true) (ordered : ScalarOrder left right ordering) :
      LeafOrder mode left right ordering
  | unified {leftText rightText : String} (silent : compareThemselves left right = .ok none)
      (domain : sameDomain left right = false)
      (unified : mode.unify left right = .ok (leftText, rightText)) :
      LeafOrder mode left right (Ord.compare leftText rightText)

inductive LeafEquality (mode : Mode) (left right : Value) : Bool → Prop where
  | themselves {ordering : Ordering} (asked : compareThemselves left right = .ok (some ordering)) :
      LeafEquality mode left right (ordering == .eq)
  | scalars {answer : Bool} (silent : compareThemselves left right = .ok none)
      (domain : sameDomain left right = true) (equal : ScalarEquality left right answer) :
      LeafEquality mode left right answer
  | unified {leftText rightText : String} (silent : compareThemselves left right = .ok none)
      (domain : sameDomain left right = false)
      (unified : mode.unify left right = .ok (leftText, rightText)) :
      LeafEquality mode left right (Ord.compare leftText rightText == .eq)

variable {mode : Mode} {left right : Value}

theorem compare_apart (apart : left.Apart right) :
    mode.compare left right =
      match compareThemselves left right with
      | .error error => .error error
      | .ok (some ordering) => .ok ordering
      | .ok none =>
        if sameDomain left right then
          orderScalars left right
        else
          match mode.unify left right with
          | .ok (leftText, rightText) => orderScalars (.string leftText) (.string rightText)
          | .error error => .error error := by
  cases left with
  | vector items =>
      cases right with
      | vector others => exact absurd rfl (apart rfl)
      | _ => rfl
  | object entries =>
      cases right with
      | object others => exact absurd rfl (apart rfl)
      | _ => rfl
  | _ => rfl

theorem equal_apart (apart : left.Apart right) :
    mode.equal left right =
      match compareThemselves left right with
      | .error error => .error error
      | .ok (some ordering) => .ok (ordering == .eq)
      | .ok none =>
        if sameDomain left right then
          equalScalars left right
        else
          match mode.unify left right with
          | .ok (leftText, rightText) => equalScalars (.string leftText) (.string rightText)
          | .error error => .error error := by
  cases left with
  | vector items =>
      cases right with
      | vector others => exact absurd rfl (apart rfl)
      | _ => rfl
  | object entries =>
      cases right with
      | object others => exact absurd rfl (apart rfl)
      | _ => rfl
  | _ => rfl

theorem compare_eq_ok_iff_of_apart (apart : left.Apart right) {ordering : Ordering} :
    mode.compare left right = .ok ordering ↔ mode.LeafOrder left right ordering := by
  rw [compare_apart apart]
  constructor
  · intro ordered
    split at ordered
    · cases ordered
    · next asked =>
      cases ordered
      exact .themselves asked
    · next silent =>
      split at ordered
      · next domain => exact .scalars silent domain (orderScalars_eq_ok_iff.mp ordered)
      · next domain =>
        split at ordered
        · next unified =>
          cases ordered
          exact .unified silent (Bool.eq_false_iff.mpr domain) unified
        · cases ordered
  · intro ordered
    cases ordered with
    | themselves asked => rw [asked]
    | scalars silent domain ordered =>
        rw [silent]
        simp only [domain, if_true]
        exact orderScalars_eq_ok_iff.mpr ordered
    | unified silent domain unified =>
        rw [silent]
        simp only [domain, unified]
        rfl

theorem equal_eq_ok_iff_of_apart (apart : left.Apart right) {answer : Bool} :
    mode.equal left right = .ok answer ↔ mode.LeafEquality left right answer := by
  rw [equal_apart apart]
  constructor
  · intro equal
    split at equal
    · cases equal
    · next asked =>
      cases equal
      exact .themselves asked
    · next silent =>
      split at equal
      · next domain => exact .scalars silent domain (equalScalars_eq_ok_iff.mp equal)
      · next domain =>
        split at equal
        · next unified =>
          cases equal
          exact .unified silent (Bool.eq_false_iff.mpr domain) unified
        · cases equal
  · intro equal
    cases equal with
    | themselves asked => rw [asked]
    | scalars silent domain equal =>
        rw [silent]
        simp only [domain, if_true]
        exact equalScalars_eq_ok_iff.mpr equal
    | unified silent domain unified =>
        rw [silent]
        simp only [domain, unified]
        rfl

/-! ### Laws of leaves -/

theorem LeafOrder.swap {ordering : Ordering} (ordered : mode.LeafOrder left right ordering) :
    mode.LeafOrder right left ordering.swap := by
  cases ordered with
  | themselves asked => exact .themselves (by rw [compareThemselves_swap, asked]; rfl)
  | scalars silent domain ordered =>
      refine .scalars ?_ (by rw [sameDomain_swap, domain]) ordered.swap
      rw [compareThemselves_swap, silent]
      rfl
  | unified silent domain unified =>
      rw [← OrientedCmp.eq_swap]
      refine .unified ?_ (by rw [sameDomain_swap, domain]) (unify_swap unified)
      rw [compareThemselves_swap, silent]
      rfl

theorem LeafEquality.swap {answer : Bool} (equal : mode.LeafEquality left right answer) :
    mode.LeafEquality right left answer := by
  have kept (ordering : Ordering) : (ordering == .eq) = (ordering.swap == .eq) := by
    cases ordering <;> rfl
  cases equal with
  | themselves asked =>
      rw [kept]
      exact .themselves (by rw [compareThemselves_swap, asked]; rfl)
  | scalars silent domain equal =>
      refine .scalars ?_ (by rw [sameDomain_swap, domain]) equal.swap
      rw [compareThemselves_swap, silent]
      rfl
  | unified silent domain unified =>
      rw [kept, ← OrientedCmp.eq_swap]
      refine .unified ?_ (by rw [sameDomain_swap, domain]) (unify_swap unified)
      rw [compareThemselves_swap, silent]
      rfl

theorem LeafOrder.equality {ordering : Ordering} (ordered : mode.LeafOrder left right ordering) :
    mode.LeafEquality left right (ordering == .eq) := by
  cases ordered with
  | themselves asked => exact .themselves asked
  | scalars silent domain ordered => exact .scalars silent domain (.ordered ordered)
  | unified silent domain unified => exact .unified silent domain unified

theorem LeafOrder.of_equal (equal : mode.LeafEquality left right true) :
    mode.LeafOrder left right .eq := by
  generalize answerIs : true = answer at equal
  cases equal with
  | themselves asked =>
      rw [eq_of_beq answerIs.symm] at asked
      exact .themselves asked
  | scalars silent domain equal =>
      rw [← answerIs] at equal
      exact .scalars silent domain (.of_equal equal)
  | unified silent domain unified =>
      rw [← eq_of_beq answerIs.symm]
      exact .unified silent domain unified

theorem LeafOrder.self {value : Value} (leaf : value.kind.isCollection = false)
    (number : ∀ x, value = .float x → x.isNaN = false) (sound : ¬value.ComparerFails) :
    mode.LeafOrder value value .eq := by
  by_cases hosted : value.kind = .hosted
  · have answer := compareThemselves_self hosted sound
    cases rank : value.rank? with
    | none =>
        rw [rank] at answer
        exact .scalars answer (sameDomain_self value) (.self leaf number)
    | some own =>
        rw [rank] at answer
        exact .themselves answer
  · exact .scalars (compareThemselves_unhosted hosted hosted) (sameDomain_self value)
      (.self leaf number)

/-! ### Collections among leaves -/

theorem compareThemselves_collection (collection : left.kind.isCollection = true)
    (ordering : Ordering) : compareThemselves left right ≠ .ok (some ordering) := by
  have leftSound : ¬left.ComparerFails := by
    cases left with
    | hosted => cases collection
    | _ => exact id
  have unranked : left.rankOrder? right = none := by
    cases left with
    | vector | object => rfl
    | _ => cases collection
  by_cases rightFails : right.ComparerFails
  · rw [compareThemselves_failing (Or.inr rightFails)]
    simp
  · rw [compareThemselves_sound leftSound rightFails, unranked, ite_self]
    simp

theorem sameDomain_collection (collection : left.kind.isCollection = true)
    (different : left.kind ≠ right.kind) : sameDomain left right = false := by
  have notNumeric : left.kind.isNumeric = false := by
    cases left with
    | vector | object => rfl
    | _ => cases collection
  simp [sameDomain, notNumeric, different]

theorem compare_mixed (collection : left.kind.isCollection = true)
    (different : left.kind ≠ right.kind) (ordering : Ordering) :
    mode.compare left right ≠ .ok ordering := by
  rw [Ne, compare_eq_ok_iff_of_apart fun _ => different]
  intro ordered
  cases ordered with
  | themselves asked => exact compareThemselves_collection collection _ asked
  | scalars _ domain _ =>
      rw [sameDomain_collection collection different] at domain
      cases domain
  | unified _ _ unified => exact unify_collection mode collection _ unified

theorem equal_mixed (collection : left.kind.isCollection = true)
    (different : left.kind ≠ right.kind) (answer : Bool) :
    mode.equal left right ≠ .ok answer := by
  rw [Ne, equal_eq_ok_iff_of_apart fun _ => different]
  intro equal
  cases equal with
  | themselves asked => exact compareThemselves_collection collection _ asked
  | scalars _ domain _ =>
      rw [sameDomain_collection collection different] at domain
      cases domain
  | unified _ _ unified => exact unify_collection mode collection _ unified

end Mode

end HostValue
