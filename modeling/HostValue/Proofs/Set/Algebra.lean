import HostValue.Proofs.Set.Membership

/-!
# Algebra of sets

The operations on sets are those on the finite sets of their members, so they obey the laws of finite
sets, as equalities of sets and not only of their members.
-/

namespace HostValue.StringSet

/-! ### Union and intersection -/

private theorem union_comm (a b : StringSet) : a.union b = b.union a := by
  apply toFinset_injective
  rw [toFinset_union, toFinset_union, Finset.union_comm]

private theorem union_assoc (a b c : StringSet) : (a.union b).union c = a.union (b.union c) := by
  apply toFinset_injective
  simp only [toFinset_union, Finset.union_assoc]

private theorem union_self (a : StringSet) : a.union a = a := by
  apply toFinset_injective
  rw [toFinset_union, Finset.union_self]

private theorem intersection_comm (a b : StringSet) : a.intersection b = b.intersection a := by
  apply toFinset_injective
  rw [toFinset_intersection, toFinset_intersection, Finset.inter_comm]

private theorem intersection_assoc (a b c : StringSet) :
    (a.intersection b).intersection c = a.intersection (b.intersection c) := by
  apply toFinset_injective
  simp only [toFinset_intersection, Finset.inter_assoc]

private theorem intersection_self (a : StringSet) : a.intersection a = a := by
  apply toFinset_injective
  rw [toFinset_intersection, Finset.inter_self]

private theorem union_intersection_distrib (a b c : StringSet) :
    a.union (b.intersection c) = (a.union b).intersection (a.union c) := by
  apply toFinset_injective
  simp only [toFinset_union, toFinset_intersection, Finset.union_inter_distrib_left]

private theorem intersection_union_distrib (a b c : StringSet) :
    a.intersection (b.union c) = (a.intersection b).union (a.intersection c) := by
  apply toFinset_injective
  simp only [toFinset_union, toFinset_intersection, Finset.inter_union_distrib_left]

private theorem size_union_add_size_intersection (a b : StringSet) :
    (a.union b).size + (a.intersection b).size = a.size + b.size := by
  rw [← card_toFinset, ← card_toFinset, toFinset_union, toFinset_intersection,
    Finset.card_union_add_card_inter, card_toFinset, card_toFinset]

/-! ### Differences -/

private theorem difference_self (a : StringSet) : a.difference a = .empty := by
  apply toFinset_injective
  rw [toFinset_difference, Finset.sdiff_self, toFinset_empty]

private theorem symmetricDifference_eq (a b : StringSet) :
    a.symmetricDifference b = (a.difference b).union (b.difference a) := by
  apply toFinset_injective
  rw [toFinset_symmetricDifference, toFinset_union, toFinset_difference, toFinset_difference,
    Finset.symmDiff_def]

/-! ### Items -/

theorem insertAll_eq_union (set : StringSet) (items : List String) :
    set.insertAll items = set.union (ofList items) := by
  apply toFinset_injective
  rw [toFinset_insertAll, toFinset_union, toFinset_ofList]

theorem eraseAll_eq_difference (set : StringSet) (items : List String) :
    set.eraseAll items = set.difference (ofList items) := by
  apply toFinset_injective
  rw [toFinset_eraseAll, toFinset_difference, toFinset_ofList]

theorem hasAll_eq_isSuperset (set : StringSet) (items : List String) :
    set.hasAll items = set.isSuperset (ofList items) := by
  apply Bool.eq_iff_iff.mpr
  rw [hasAll_iff, isSuperset_iff]
  simp only [mem_ofList]

theorem hasAny_iff_intersection {set : StringSet} {items : List String} :
    set.hasAny items = true ↔ ∃ item, item ∈ set.intersection (ofList items) := by
  rw [hasAny_iff]
  apply exists_congr
  intro item
  rw [mem_intersection, mem_ofList, and_comm]

theorem hasAll_insertAll (set : StringSet) (items : List String) :
    (set.insertAll items).hasAll items = true :=
  hasAll_iff.mpr fun _ present => mem_insertAll.mpr (Or.inr present)

theorem hasAny_eraseAll (set : StringSet) (items : List String) :
    (set.eraseAll items).hasAny items = false := by
  rw [← Bool.not_eq_true, hasAny_iff]
  rintro ⟨item, present, kept⟩
  exact (mem_eraseAll.mp kept).2 present

private theorem ofList_eq_of_mem_iff {items others : List String}
    (same : ∀ item, item ∈ items ↔ item ∈ others) : ofList items = ofList others := by
  apply eq_of_mem_iff
  intro item
  rw [mem_ofList, mem_ofList, same]

/-! ### The algebra -/

/-- Every operation on sets gives the set that lists its combination of the operands, sets with the
same members are one set, and so they form an algebra of sets in which only the members of lists of
items count. -/
theorem operations_extensional (a b c : StringSet) (items : List String) :
    ((ofList items).Lists (· ∈ items) ∧
      (a.insertAll items).Lists (fun item => item ∈ a ∨ item ∈ items) ∧
      (a.eraseAll items).Lists (fun item => item ∈ a ∧ item ∉ items) ∧
      (a.union b).Lists (fun item => item ∈ a ∨ item ∈ b) ∧
      (a.intersection b).Lists (fun item => item ∈ a ∧ item ∈ b) ∧
      (a.difference b).Lists (fun item => item ∈ a ∧ item ∉ b) ∧
      (a.symmetricDifference b).Lists
        (fun item => item ∈ a ∧ item ∉ b ∨ item ∈ b ∧ item ∉ a)) ∧
    ((∀ item, item ∈ a ↔ item ∈ b) →
      a = b ∧ a.toList = b.toList ∧
        ∀ identity, (Payload.set a).compareWith? (.hosted identity (.set b)) = some (.ok .eq)) ∧
    (a.union b = b.union a ∧ (a.union b).union c = a.union (b.union c) ∧ a.union a = a) ∧
    (a.intersection b = b.intersection a ∧
      (a.intersection b).intersection c = a.intersection (b.intersection c) ∧
      a.intersection a = a) ∧
    (a.union (b.intersection c) = (a.union b).intersection (a.union c) ∧
      a.intersection (b.union c) = (a.intersection b).union (a.intersection c)) ∧
    (a.symmetricDifference b = (a.difference b).union (b.difference a) ∧
      a.difference a = .empty) ∧
    (a.union b).size + (a.intersection b).size = a.size + b.size ∧
    ∀ others : List String, (∀ item, item ∈ items ↔ item ∈ others) →
      ofList items = ofList others ∧ a.insertAll items = a.insertAll others ∧
        a.eraseAll items = a.eraseAll others := by
  refine ⟨⟨lists fun _ => mem_ofList, lists fun _ => mem_insertAll, lists fun _ => mem_eraseAll,
      lists fun _ => mem_union, lists fun _ => mem_intersection, lists fun _ => mem_difference,
      lists fun _ => mem_symmetricDifference⟩, ?_,
    ⟨union_comm a b, union_assoc a b c, union_self a⟩,
    ⟨intersection_comm a b, intersection_assoc a b c, intersection_self a⟩,
    ⟨union_intersection_distrib a b c, intersection_union_distrib a b c⟩,
    ⟨symmetricDifference_eq a b, difference_self a⟩, size_union_add_size_intersection a b, ?_⟩
  · intro same
    obtain rfl := eq_of_mem_iff same
    refine ⟨rfl, rfl, fun identity => ?_⟩
    rw [Payload.compareWith?, order_eq_iff.mpr rfl]
  · intro others same
    have whole := ofList_eq_of_mem_iff same
    rw [insertAll_eq_union, insertAll_eq_union, eraseAll_eq_difference, eraseAll_eq_difference, whole]
    exact ⟨rfl, rfl, rfl⟩

/-- Capitals stand below small letters, and letters of one byte below all others. -/
theorem operations_extensional_repeated :
    (ofList ["b", "a"] = ofList ["a", "b", "a"] ∧
      (Payload.set (ofList ["b", "a"])).compareWith? (.hosted 1 (.set (ofList ["a", "b", "a"]))) =
        some (.ok .eq)) ∧
    (ofList ["b", "a"]).insertAll ["é", "Z", "é"] = (ofList ["b", "a"]).insertAll ["Z", "é"] ∧
      ((ofList ["b", "a"]).insertAll ["Z", "é"]).toList = ["Z", "a", "b", "é"] := by
  obtain ⟨-, determined, -, -, -, -, -, unordered⟩ :=
    operations_extensional (ofList ["b", "a"]) (ofList ["a", "b", "a"]) .empty ["é", "Z", "é"]
  have same : ∀ item, item ∈ ofList ["b", "a"] ↔ item ∈ ofList ["a", "b", "a"] := by
    intro item
    rw [mem_ofList, mem_ofList]
    simp only [List.mem_cons]
    tauto
  have repeated : ∀ item, item ∈ ["é", "Z", "é"] ↔ item ∈ ["Z", "é"] := by
    intro item
    simp only [List.mem_cons]
    tauto
  obtain ⟨equal, -, compared⟩ := determined same
  exact ⟨⟨equal, compared 1⟩, (unordered ["Z", "é"] repeated).2.1, by decide⟩

end HostValue.StringSet
