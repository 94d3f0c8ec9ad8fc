import HostValue.Proofs.Comparison.Ranks
import HostValue.Proofs.Text.ByteOrder
import Mathlib.Data.Finset.Card
import Mathlib.Data.Finset.SymmDiff
import Mathlib.Data.List.Sort

/-!
# Members of sets

What every operation on sets does to the members, and that a set is determined by them: two sets with
the same members are one set, since each of them lists its members in increasing order.
-/

namespace HostValue.StringSet

variable {set left right : StringSet} {item : String} {items : List String}

/-! ### Sorted lists -/

instance : Std.Antisymm fun x y : String => x < y :=
  ⟨fun _ _ less greater => absurd (String.lt_trans less greater) (String.lt_irrefl _)⟩

private theorem not_mem_of_above {least : String} {members : List String}
    (above : ∀ member ∈ members, least < member) : least ∉ members := by
  intro present
  exact String.lt_irrefl least (above least present)

private theorem mem_mergeUnshared {left right : List String}
    (leftIncreasing : left.Pairwise (· < ·))
    (rightIncreasing : right.Pairwise (· < ·)) :
    item ∈ mergeUnshared left right ↔ item ∈ left ∧ item ∉ right ∨ item ∈ right ∧ item ∉ left := by
  fun_induction mergeUnshared left right with
  | case1 => simp
  | case2 => simp
  | case3 x left y right less ih =>
      obtain ⟨above, rest⟩ := List.pairwise_cons.mp leftIncreasing
      have foreign := not_mem_of_above (lt_all_of_lt less rightIncreasing)
      have once := not_mem_of_above above
      rw [List.mem_cons, ih rest rightIncreasing]
      grind
  | case4 left y right irreflexive ih =>
      obtain ⟨above, rest⟩ := List.pairwise_cons.mp leftIncreasing
      obtain ⟨aboveRight, restRight⟩ := List.pairwise_cons.mp rightIncreasing
      have once := not_mem_of_above above
      have onceRight := not_mem_of_above aboveRight
      rw [ih rest restRight]
      grind
  | case5 x left y right notLess different ih =>
      obtain ⟨aboveRight, restRight⟩ := List.pairwise_cons.mp rightIncreasing
      have less := lt_of_not_lt_of_ne notLess different
      have foreign := not_mem_of_above (lt_all_of_lt less leftIncreasing)
      have once := not_mem_of_above aboveRight
      rw [List.mem_cons, ih leftIncreasing restRight]
      grind

/-! ### Members of results -/

private theorem mem_empty : item ∉ empty :=
  List.not_mem_nil

private theorem mem_insert {added : String} : item ∈ set.insert added ↔ item = added ∨ item ∈ set :=
  mem_insertMember

theorem mem_filter {test : String → Bool} : item ∈ set.filter test ↔ item ∈ set ∧ test item = true :=
  List.mem_filter

private theorem mem_erase {erased : String} :
    item ∈ set.erase erased ↔ item ∈ set ∧ item ≠ erased := by
  rw [erase, mem_filter, bne_iff_ne]

theorem mem_insertAll : item ∈ set.insertAll items ↔ item ∈ set ∨ item ∈ items := by
  induction items generalizing set with
  | nil => simp [insertAll]
  | cons first rest ih =>
      have step : set.insertAll (first :: rest) = (set.insert first).insertAll rest := rfl
      rw [step, ih, mem_insert, List.mem_cons]
      tauto

theorem mem_eraseAll : item ∈ set.eraseAll items ↔ item ∈ set ∧ item ∉ items := by
  induction items generalizing set with
  | nil => simp [eraseAll]
  | cons first rest ih =>
      have step : set.eraseAll (first :: rest) = (set.erase first).eraseAll rest := rfl
      rw [step, ih, mem_erase, List.mem_cons]
      tauto

theorem mem_ofList : item ∈ ofList items ↔ item ∈ items := by
  rw [ofList, mem_insertAll]
  exact or_iff_right mem_empty

theorem mem_union : item ∈ left.union right ↔ item ∈ left ∨ item ∈ right :=
  mem_mergeMembers

theorem mem_intersection : item ∈ left.intersection right ↔ item ∈ left ∧ item ∈ right := by
  rw [intersection, mem_filter, decide_eq_true_iff]

theorem mem_difference : item ∈ left.difference right ↔ item ∈ left ∧ item ∉ right := by
  rw [difference, mem_filter, decide_eq_true_iff]

theorem mem_symmetricDifference :
    item ∈ left.symmetricDifference right ↔
      item ∈ left ∧ item ∉ right ∨ item ∈ right ∧ item ∉ left :=
  mem_mergeUnshared left.increasing right.increasing

theorem isSuperset_iff : left.isSuperset right = true ↔ ∀ item ∈ right, item ∈ left := by
  simp only [isSuperset, List.all_eq_true, decide_eq_true_iff]
  exact Iff.rfl

theorem hasAll_iff : set.hasAll items = true ↔ ∀ item ∈ items, item ∈ set := by
  simp only [hasAll, List.all_eq_true, decide_eq_true_iff]

theorem hasAny_iff : set.hasAny items = true ↔ ∃ item ∈ items, item ∈ set := by
  simp only [hasAny, List.any_eq_true, decide_eq_true_iff]

/-! ### Sets are determined by their members -/

theorem eq_of_mem_iff (same : ∀ item, item ∈ left ↔ item ∈ right) : left = right := by
  apply StringSet.ext
  exact left.increasing.eq_of_mem_iff right.increasing same

theorem order_eq_iff : left.order right = .eq ↔ left = right := by
  rw [order_eq_compareLex, Std.LawfulEqCmp.compare_eq_iff_eq, StringSet.ext_iff]

/-! ### Listing -/

/-- A set lists the strings of a description: in increasing order of their bytes, and none of them
twice. -/
structure Lists (set : StringSet) (described : String → Prop) : Prop where
  sorted : set.toList.Pairwise fun x y => Text.bytes x < Text.bytes y
  distinct : set.toList.Nodup
  listed : ∀ item, item ∈ set.toList ↔ item ∈ set
  holds : ∀ item, item ∈ set ↔ described item

theorem lists {described : String → Prop} (holds : ∀ item, item ∈ set ↔ described item) :
    set.Lists described where
  sorted := set.increasing.imp Text.lt_iff_bytes_lt.mp
  distinct := set.increasing.nodup
  listed _ := Iff.rfl
  holds := holds

/-! ### Finite sets -/

def toFinset (set : StringSet) : Finset String :=
  ⟨set.members, set.increasing.nodup⟩

theorem mem_toFinset : item ∈ set.toFinset ↔ item ∈ set :=
  Iff.rfl

theorem card_toFinset (set : StringSet) : set.toFinset.card = set.size :=
  rfl

theorem toFinset_injective : Function.Injective toFinset := by
  intro left right same
  apply eq_of_mem_iff
  intro item
  rw [← mem_toFinset, same, mem_toFinset]

theorem toFinset_empty : empty.toFinset = ∅ :=
  rfl

theorem toFinset_ofList (items : List String) : (ofList items).toFinset = items.toFinset := by
  ext item
  rw [mem_toFinset, mem_ofList, List.mem_toFinset]

theorem toFinset_insertAll (set : StringSet) (items : List String) :
    (set.insertAll items).toFinset = set.toFinset ∪ items.toFinset := by
  ext item
  rw [mem_toFinset, mem_insertAll, Finset.mem_union, mem_toFinset, List.mem_toFinset]

theorem toFinset_eraseAll (set : StringSet) (items : List String) :
    (set.eraseAll items).toFinset = set.toFinset \ items.toFinset := by
  ext item
  rw [mem_toFinset, mem_eraseAll, Finset.mem_sdiff, mem_toFinset, List.mem_toFinset]

theorem toFinset_union (left right : StringSet) :
    (left.union right).toFinset = left.toFinset ∪ right.toFinset := by
  ext item
  rw [mem_toFinset, mem_union, Finset.mem_union, mem_toFinset, mem_toFinset]

theorem toFinset_intersection (left right : StringSet) :
    (left.intersection right).toFinset = left.toFinset ∩ right.toFinset := by
  ext item
  rw [mem_toFinset, mem_intersection, Finset.mem_inter, mem_toFinset, mem_toFinset]

theorem toFinset_difference (left right : StringSet) :
    (left.difference right).toFinset = left.toFinset \ right.toFinset := by
  ext item
  rw [mem_toFinset, mem_difference, Finset.mem_sdiff, mem_toFinset, mem_toFinset]

theorem toFinset_symmetricDifference (left right : StringSet) :
    (left.symmetricDifference right).toFinset = symmDiff left.toFinset right.toFinset := by
  ext item
  rw [mem_toFinset, mem_symmetricDifference, Finset.mem_symmDiff, mem_toFinset, mem_toFinset]

end HostValue.StringSet
