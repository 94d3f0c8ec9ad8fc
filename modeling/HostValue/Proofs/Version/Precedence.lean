import HostValue.Proofs.Text.ByteOrder
import HostValue.Version.Basic

/-!
# Precedence

The order of versions is a total order on their numbers and pre-release identifiers, and it is the
precedence of semantic versions, which is stated here as a relation of its own.
-/

namespace HostValue

open Std

/-! ### The precedence relation -/

/-- Precedence of identifiers: numbers by value, below all texts; texts by their bytes. -/
inductive PreRelease.Below : PreRelease → PreRelease → Prop where
  | numbers {m n : UInt64} (less : m.toNat < n.toNat) : Below (.numeric m) (.numeric n)
  | kinds (number : UInt64) (text : String) : Below (.numeric number) (.alphanumeric text)
  | texts {s t : String} (less : Text.bytes s < Text.bytes t) :
      Below (.alphanumeric s) (.alphanumeric t)

/-- Precedence of identifier lists: a list stands below its extensions, and otherwise the first
identifiers that differ decide. -/
inductive PreRelease.ListBelow : List PreRelease → List PreRelease → Prop where
  | extension (shared : List PreRelease) (next : PreRelease) (rest : List PreRelease) :
      ListBelow shared (shared ++ next :: rest)
  | difference (shared : List PreRelease) {left right : PreRelease} (below : left.Below right)
      (rest tail : List PreRelease) :
      ListBelow (shared ++ left :: rest) (shared ++ right :: tail)

namespace Version

def SameNumbers (left right : Version) : Prop :=
  left.major = right.major ∧ left.minor = right.minor ∧ left.patch = right.patch

inductive NumbersBelow (left right : Version) : Prop where
  | major (less : left.major.toNat < right.major.toNat)
  | minor (major : left.major = right.major) (less : left.minor.toNat < right.minor.toNat)
  | patch (major : left.major = right.major) (minor : left.minor = right.minor)
      (less : left.patch.toNat < right.patch.toNat)

/-- Precedence of versions: the numbers decide first; a pre-release stands below its release; the
identifiers of two pre-releases decide last. -/
inductive Precedes (left right : Version) : Prop where
  | numbers (below : NumbersBelow left right)
  | release (same : SameNumbers left right) (pre : left.pre ≠ []) (noPre : right.pre = [])
  | identifiers (same : SameNumbers left right) (leftPre : left.pre ≠ [])
      (rightPre : right.pre ≠ []) (below : PreRelease.ListBelow left.pre right.pre)

end Version

/-! ### Identifiers -/

namespace PreRelease

private theorem order_eq_lt_iff {left right : PreRelease} :
    left.order right = .lt ↔ left.Below right := by
  constructor
  · intro less
    cases left with
    | numeric m =>
        cases right with
        | numeric n => exact .numbers (UInt64.lt_iff_toNat_lt.mp (compareOfLessAndEq_eq_lt.mp less))
        | alphanumeric t => exact .kinds m t
    | alphanumeric s =>
        cases right with
        | numeric n => cases less
        | alphanumeric t => exact .texts (Text.compare_eq_lt_iff.mp less)
  · intro below
    cases below with
    | numbers less => exact compareOfLessAndEq_eq_lt.mpr (UInt64.lt_iff_toNat_lt.mpr less)
    | kinds number text => rfl
    | texts less => exact Text.compare_eq_lt_iff.mpr less

instance : TransCmp order where
  eq_swap := by
    intro left right
    cases left with
    | numeric m =>
        cases right with
        | numeric n => exact OrientedOrd.eq_swap
        | alphanumeric t => rfl
    | alphanumeric s =>
        cases right with
        | numeric n => rfl
        | alphanumeric t => exact OrientedOrd.eq_swap
  isLE_trans := by
    intro first second third below above
    cases first with
    | numeric m =>
        cases second with
        | numeric n =>
            cases third with
            | numeric k => exact TransOrd.isLE_trans below above
            | alphanumeric u => rfl
        | alphanumeric t =>
            cases third with
            | numeric k => cases above
            | alphanumeric u => rfl
    | alphanumeric s =>
        cases second with
        | numeric n => cases below
        | alphanumeric t =>
            cases third with
            | numeric k => cases above
            | alphanumeric u => exact TransOrd.isLE_trans below above

instance : LawfulEqCmp order where
  compare_self := by
    intro identifier
    cases identifier with
    | numeric m => exact ReflOrd.compare_self
    | alphanumeric s => exact ReflOrd.compare_self
  eq_of_compare := by
    intro left right equal
    cases left with
    | numeric m =>
        cases right with
        | numeric n => rw [LawfulEqOrd.eq_of_compare equal]
        | alphanumeric t => cases equal
    | alphanumeric s =>
        cases right with
        | numeric n => cases equal
        | alphanumeric t => rw [LawfulEqOrd.eq_of_compare equal]

/-! ### Identifier lists -/

theorem orderList_eq_compareLex (left right : List PreRelease) :
    orderList left right = List.compareLex order left right := by
  induction left generalizing right with
  | nil => cases right <;> rfl
  | cons p ps ih =>
      cases right with
      | nil => rfl
      | cons q qs => rw [orderList, List.compareLex_cons_cons, ih]

instance : TransCmp orderList where
  eq_swap := by
    intro left right
    rw [orderList_eq_compareLex, orderList_eq_compareLex]
    exact OrientedCmp.eq_swap
  isLE_trans := by
    intro first second third
    rw [orderList_eq_compareLex, orderList_eq_compareLex, orderList_eq_compareLex]
    exact TransCmp.isLE_trans

instance : LawfulEqCmp orderList where
  compare_self := by
    intro identifiers
    rw [orderList_eq_compareLex]
    exact ReflCmp.compare_self
  eq_of_compare := by
    intro left right
    rw [orderList_eq_compareLex]
    exact LawfulEqCmp.eq_of_compare

private theorem orderList_append (shared left right : List PreRelease) :
    orderList (shared ++ left) (shared ++ right) = orderList left right := by
  induction shared with
  | nil => rfl
  | cons p ps ih =>
      have same : p.order p = .eq := ReflCmp.compare_self
      rw [List.cons_append, List.cons_append, orderList, same, ih]
      rfl

private theorem ListBelow.cons (p : PreRelease) {left right : List PreRelease}
    (below : ListBelow left right) :
    ListBelow (p :: left) (p :: right) := by
  cases below with
  | extension shared next rest => exact .extension (p :: left) next rest
  | difference shared below rest tail => exact .difference (p :: shared) below rest tail

private theorem orderList_eq_lt_iff {left right : List PreRelease} :
    orderList left right = .lt ↔ ListBelow left right := by
  constructor
  · intro less
    induction left generalizing right with
    | nil =>
        cases right with
        | nil => cases less
        | cons q qs => exact .extension [] q qs
    | cons p ps ih =>
        cases right with
        | nil => cases less
        | cons q qs =>
            rcases Ordering.then_eq_lt.mp less with first | ⟨same, others⟩
            · exact .difference [] (order_eq_lt_iff.mp first) ps qs
            · rw [LawfulEqCmp.eq_of_compare same]
              exact (ih others).cons q
  · intro below
    cases below with
    | extension shared next rest =>
        have appended := orderList_append left [] (next :: rest)
        rw [List.append_nil] at appended
        rw [appended]
        rfl
    | difference shared below rest tail =>
        rw [orderList_append, orderList, order_eq_lt_iff.mpr below]
        rfl

end PreRelease

/-! ### Versions -/

namespace Version

theorem orderPre_cons (p q : PreRelease) (ps qs : List PreRelease) :
    orderPre (p :: ps) (q :: qs) = PreRelease.orderList (p :: ps) (q :: qs) :=
  rfl

instance : TransCmp orderPre where
  eq_swap := by
    intro left right
    cases left with
    | nil => cases right <;> rfl
    | cons p ps =>
        cases right with
        | nil => rfl
        | cons q qs =>
            rw [orderPre_cons, orderPre_cons]
            exact OrientedCmp.eq_swap
  isLE_trans := by
    intro first second third below above
    cases first with
    | nil =>
        cases second with
        | nil => exact above
        | cons q qs => cases below
    | cons p ps =>
        cases third with
        | nil => rfl
        | cons r rs =>
            cases second with
            | nil => cases above
            | cons q qs =>
                rw [orderPre_cons] at below above ⊢
                exact TransCmp.isLE_trans below above

instance : LawfulEqCmp orderPre where
  compare_self := by
    intro identifiers
    cases identifiers with
    | nil => rfl
    | cons p ps =>
        rw [orderPre_cons]
        exact ReflCmp.compare_self
  eq_of_compare := by
    intro left right equal
    cases left with
    | nil =>
        cases right with
        | nil => rfl
        | cons q qs => cases equal
    | cons p ps =>
        cases right with
        | nil => cases equal
        | cons q qs =>
            rw [orderPre_cons] at equal
            exact LawfulEqCmp.eq_of_compare equal

private theorem orderPre_eq_lt_iff {left right : List PreRelease} :
    orderPre left right = .lt ↔
      left ≠ [] ∧ (right = [] ∨ (right ≠ [] ∧ PreRelease.ListBelow left right)) := by
  cases left with
  | nil =>
      constructor
      · intro less
        cases right <;> cases less
      · intro both
        obtain ⟨nonempty, -⟩ := both
        exact absurd rfl nonempty
  | cons p ps =>
      cases right with
      | nil => simp [orderPre]
      | cons q qs =>
          rw [orderPre_cons, PreRelease.orderList_eq_lt_iff]
          simp

private theorem order_eq_compareLex :
    order =
      compareLex (compareOn major) (compareLex (compareOn minor) (compareLex (compareOn patch)
        fun left right => orderPre left.pre right.pre)) :=
  rfl

instance : TransCmp fun left right : Version => orderPre left.pre right.pre where
  eq_swap := OrientedCmp.eq_swap
  isLE_trans := TransCmp.isLE_trans

instance : TransCmp order := by
  rw [order_eq_compareLex]
  infer_instance

private theorem order_eq_eq_iff {left right : Version} :
    left.order right = .eq ↔ SameNumbers left right ∧ left.pre = right.pre := by
  simp only [order, Ordering.then_eq_eq, LawfulEqCmp.compare_eq_iff_eq, SameNumbers, and_assoc]

private theorem compare_number_eq_lt_iff {m n : UInt64} : compare m n = .lt ↔ m.toNat < n.toNat :=
  Iff.trans compareOfLessAndEq_eq_lt UInt64.lt_iff_toNat_lt

private theorem order_eq_lt_iff {left right : Version} :
    left.order right = .lt ↔ Precedes left right := by
  simp only [order, Ordering.then_eq_lt, LawfulEqCmp.compare_eq_iff_eq, compare_number_eq_lt_iff,
    orderPre_eq_lt_iff]
  constructor
  · intro either
    rcases either with
      major | ⟨sameMajor, minor | ⟨sameMinor, patch | ⟨samePatch, pre, noPre | below⟩⟩⟩
    · exact .numbers (.major major)
    · exact .numbers (.minor sameMajor minor)
    · exact .numbers (.patch sameMajor sameMinor patch)
    · exact .release ⟨sameMajor, sameMinor, samePatch⟩ pre noPre
    · exact .identifiers ⟨sameMajor, sameMinor, samePatch⟩ pre below.1 below.2
  · intro precedes
    cases precedes with
    | numbers below =>
        cases below with
        | major less => exact Or.inl less
        | minor major less => exact Or.inr ⟨major, Or.inl less⟩
        | patch major minor less => exact Or.inr ⟨major, Or.inr ⟨minor, Or.inl less⟩⟩
    | release same pre noPre =>
        exact Or.inr ⟨same.1, Or.inr ⟨same.2.1, Or.inr ⟨same.2.2, pre, Or.inl noPre⟩⟩⟩
    | identifiers same leftPre rightPre below =>
        exact Or.inr ⟨same.1, Or.inr ⟨same.2.1, Or.inr ⟨same.2.2, leftPre,
          Or.inr ⟨rightPre, below⟩⟩⟩⟩

private theorem order_swap (left right : Version) : right.order left = (left.order right).swap :=
  OrientedCmp.eq_swap

private theorem order_trans {first second third : Version}
    (below : (first.order second).isLE = true)
    (above : (second.order third).isLE = true) : (first.order third).isLE = true :=
  TransCmp.isLE_trans below above

private theorem same_iff {left right : Version} :
    left.same right = true ↔ left.order right = .eq := by
  rw [same, beq_iff_eq]

/-- The order of versions is total and lawful, leaves build identifiers out, is the one order that
equality and the partial order use, and is the precedence of semantic versions. -/
theorem order_isPrecedence (first second third : Version) :
    second.order first = (first.order second).swap ∧
      ((first.order second).isLE = true → (second.order third).isLE = true →
        (first.order third).isLE = true) ∧
      (first.order second = .eq ↔ SameNumbers first second ∧ first.pre = second.pre) ∧
      (first.same second = true ↔ first.order second = .eq) ∧
      first.order? second = some (first.order second) ∧
      (first.order second = .lt ↔ Precedes first second) ∧
      (first.order second = .gt ↔ Precedes second first) := by
  have greater : first.order second = .gt ↔ Precedes second first := by
    rw [order_swap second first, Ordering.swap_eq_gt]
    exact order_eq_lt_iff
  exact ⟨order_swap first second, order_trans, order_eq_eq_iff, same_iff, rfl, order_eq_lt_iff,
    greater⟩

theorem order_isPrecedence_through_text :
    (order ⟨1, 0, 0, [.numeric 10], []⟩ ⟨1, 0, 0, [], ["0"]⟩).isLE = true :=
  (order_isPrecedence _ ⟨1, 0, 0, [.alphanumeric "-", .numeric 0], ["1"]⟩ _).2.1 (by decide)
    (by decide)

end Version

end HostValue
