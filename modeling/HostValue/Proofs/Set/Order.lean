import HostValue.Proofs.Set.Membership

/-!
# Order and inclusion of sets

The order of sets is the lexicographic order of their lists of members, and a strict total order.
Inclusion is a partial order. Inclusion of a set in one of no more members makes them equal, since no
list of members repeats one.
-/

namespace HostValue.StringSet

variable {a b c : StringSet}

/-! ### Lexicographic order -/

/-- The lexicographic order of sets: of their sorted members, which are ordered by their bytes. -/
def Precedes (a b : StringSet) : Prop :=
  List.Lex (fun x y => Text.bytes x < Text.bytes y) a.toList b.toList

private theorem orderMembers_eq_lt_iff {members others : List String} :
    orderMembers members others = .lt ↔
      List.Lex (fun x y => Text.bytes x < Text.bytes y) members others := by
  induction members generalizing others with
  | nil =>
      cases others with
      | nil => exact iff_of_false nofun List.not_lex_nil
      | cons y ys => exact iff_of_true rfl .nil
  | cons x xs ih =>
      cases others with
      | nil => exact iff_of_false nofun List.not_lex_nil
      | cons y ys =>
          rw [orderMembers, Ordering.then_eq_lt, Text.compare_eq_lt_iff, Std.compare_eq_iff_eq, ih,
            List.cons_lex_cons_iff]

theorem order_eq_lt_iff : a.order b = .lt ↔ a.Precedes b :=
  orderMembers_eq_lt_iff

theorem order_eq_gt_iff : a.order b = .gt ↔ b.Precedes a := by
  rw [← order_eq_lt_iff]
  exact Std.OrientedCmp.gt_iff_lt

theorem order_beq_eq (a b : StringSet) : (a.order b == .eq) = decide (a = b) := by
  apply Bool.eq_iff_iff.mpr
  rw [beq_iff_eq, decide_eq_true_iff]
  exact order_eq_iff

instance : IsStrictTotalOrder StringSet Precedes where
  irrefl a := by
    rw [← order_eq_lt_iff, order_eq_iff.mpr rfl]
    exact nofun
  trans a b c := by
    rw [← order_eq_lt_iff, ← order_eq_lt_iff, ← order_eq_lt_iff]
    exact Std.TransCmp.lt_trans
  trichotomous a b := by
    rw [← order_eq_lt_iff, ← order_eq_gt_iff]
    intro notLess notGreater
    apply order_eq_iff.mp
    cases ordering : a.order b with
    | lt => exact absurd ordering notLess
    | eq => rfl
    | gt => exact absurd ordering notGreater

/-! ### Inclusion -/

theorem isSuperset_iff_subset : a.isSuperset b = true ↔ b.toFinset ⊆ a.toFinset :=
  isSuperset_iff

theorem isSuperset_self (a : StringSet) : a.isSuperset a = true :=
  isSuperset_iff.mpr fun _ present => present

theorem isSuperset_trans (upper : a.isSuperset b = true) (lower : b.isSuperset c = true) :
    a.isSuperset c = true := by
  rw [isSuperset_iff_subset] at upper lower ⊢
  exact lower.trans upper

theorem isSuperset_antisymm (includes : a.isSuperset b = true) (included : b.isSuperset a = true) :
    a = b := by
  rw [isSuperset_iff_subset] at includes included
  exact toFinset_injective (included.antisymm includes)

theorem isSuperset_and_isSuperset (a b : StringSet) :
    (a.isSuperset b && b.isSuperset a) = decide (a = b) := by
  apply Bool.eq_iff_iff.mpr
  rw [Bool.and_eq_true, decide_eq_true_iff]
  constructor
  · rintro ⟨includes, included⟩
    exact isSuperset_antisymm includes included
  · rintro rfl
    exact ⟨isSuperset_self a, isSuperset_self a⟩

private theorem eq_of_isSuperset_of_size (sizes : a.size = b.size)
    (includes : a.isSuperset b = true) :
    a = b := by
  have members : b.toFinset ⊆ a.toFinset := isSuperset_iff_subset.mp includes
  have counts : a.toFinset.card ≤ b.toFinset.card := by
    rw [card_toFinset, card_toFinset, sizes]
  exact toFinset_injective (Finset.eq_of_subset_of_card_le members counts).symm

theorem size_beq_and_isSuperset (a b : StringSet) :
    (a.size == b.size && a.isSuperset b) = decide (a = b) := by
  apply Bool.eq_iff_iff.mpr
  rw [Bool.and_eq_true, beq_iff_eq, decide_eq_true_iff]
  constructor
  · rintro ⟨sizes, includes⟩
    exact eq_of_isSuperset_of_size sizes includes
  · rintro rfl
    exact ⟨rfl, isSuperset_self a⟩

/-! ### Listing -/

theorem toList_inj : a.toList = b.toList ↔ a = b :=
  StringSet.ext_iff.symm

theorem ofList_toList (a : StringSet) : ofList a.toList = a :=
  eq_of_mem_iff fun _ => mem_ofList

end HostValue.StringSet
