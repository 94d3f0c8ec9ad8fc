import HostValue.Proofs.Comparison.Sameness
import HostValue.Proofs.Function.Flattening
import HostValue.Proofs.Function.ItemArguments
import HostValue.Proofs.Set.Order

/-!
# Equality and order of hosted sets

Sets behind handles are found equal in several ways: by the set function, by the equality and the
comparison of the modes, by sameness, by the vectors that list them, and by inclusion both ways. All of
them give one answer, and the comparison is the lexicographic order of the sets.
-/

namespace HostValue

variable {mode : Mode} {context : Context}

/-! ### Vectors of strings -/

namespace Value

private theorem same_string (x y : String) : (Value.string x).same (.string y) = (x == y) :=
  rfl

private theorem sameItems_strings {texts others : List String}
    (lengths : texts.length = others.length) :
    sameItems (texts.map .string) (others.map .string) = decide (texts = others) := by
  induction texts generalizing others with
  | nil =>
      cases others with
      | nil => rfl
      | cons y ys => cases lengths
  | cons x xs ih =>
      cases others with
      | nil => cases lengths
      | cons y ys =>
          rw [List.map_cons, List.map_cons, sameItems_cons, same_string,
            ih (Nat.succ_inj.mp lengths)]
          simp only [List.cons.injEq, Bool.decide_and]
          rfl

private theorem same_ofStrings (texts others : List String) :
    (ofStrings texts).same (.ofStrings others) = decide (texts = others) := by
  rw [ofStrings, ofStrings, same_vector, List.length_map, List.length_map]
  by_cases lengths : texts.length = others.length
  · rw [beq_iff_eq.mpr lengths, Bool.true_and, sameItems_strings lengths]
  · have different : texts ≠ others := fun same => lengths (congrArg List.length same)
    rw [beq_false_of_ne lengths, Bool.false_and, decide_eq_false different]

end Value

namespace Mode

private theorem compare_string (x y : String) :
    mode.compare (.string x) (.string y) = .ok (Ord.compare x y) :=
  rfl

private theorem compareItems_strings (texts others : List String) :
    mode.compareItems (texts.map .string) (others.map .string) =
      .ok (StringSet.orderMembers texts others) := by
  induction texts generalizing others with
  | nil => cases others <;> rfl
  | cons x xs ih =>
      cases others with
      | nil => rfl
      | cons y ys =>
          rw [List.map_cons, List.map_cons, compareItems, compare_string, ih, StringSet.orderMembers]
          cases Ord.compare x y <;> rfl

/-! ### Sets and the vectors that list them -/

theorem compare_sets (i j : Nat) (a b : StringSet) :
    mode.compare (.hosted i (.set a)) (.hosted j (.set b)) = .ok (a.order b) :=
  rfl

private theorem compare_listed (a b : StringSet) :
    mode.compare (.ofStrings a.toList) (.ofStrings b.toList) = .ok (a.order b) :=
  compareItems_strings a.toList b.toList

private theorem equal_of_order {left right : Value} {a b : StringSet}
    (ordered : mode.compare left right = .ok (a.order b)) :
    mode.equal left right = .ok (decide (a = b)) := by
  rw [equal_of_compare ordered, StringSet.order_beq_eq]

private theorem strings_ofStrings (texts : List String) :
    mode.strings [.ofStrings texts] = .ok texts := by
  rw [strings_eq_ok_iff, List.flatMap_singleton, Value.ofStrings, parts_vector, List.map_map]
  rfl

end Mode

private theorem same_sets (i j : Nat) (a b : StringSet) :
    (Value.hosted i (.set a)).same (.hosted j (.set b)) = decide (a = b) := by
  apply Bool.eq_iff_iff.mpr
  rw [same_hosted_iff, decide_eq_true_iff, Payload.compareWith?, Option.some.injEq, Except.ok.injEq,
    StringSet.order_eq_iff, Payload.set.injEq]
  exact or_iff_right_of_imp And.right

namespace SetFunction

private theorem equal_sets (i j : Nat) (a b : StringSet) :
    equal context [.hosted i (.set a), .hosted j (.set b)] = pure (.bool (decide (a = b))) := by
  rw [← StringSet.size_beq_and_isSuperset]
  rfl

theorem isSuperset_sets (i j : Nat) (a b : StringSet) :
    isSuperset context [.hosted i (.set a), .hosted j (.set b)] =
      pure (.bool (a.isSuperset b)) :=
  rfl

theorem list_set (i : Nat) (a : StringSet) :
    list context [.hosted i (.set a)] = pure (.ofStrings a.toList) :=
  rfl

private theorem newSet_list (a : StringSet) : newSet context [.ofStrings a.toList] = hostSet a := by
  rw [newSet_of_strings (Mode.strings_ofStrings a.toList), StringSet.ofList_toList]

/-! ### One equality -/

/-- Every way to find two values equal gives one answer. -/
structure OneEquality (context : Context) (left right : Value) (answer : Bool) : Prop where
  asked : equal context [left, right] = pure (.bool answer)
  equality : context.mode.equal left right = .ok answer
  comparison : ∃ ordering, context.mode.compare left right = .ok ordering ∧
    (ordering == .eq) = answer
  sameness : left.same right = answer
  lists : ∃ items others, list context [left] = pure items ∧ list context [right] = pure others ∧
    items.same others = answer ∧ context.mode.equal items others = .ok answer
  inclusions : ∃ includes included, isSuperset context [left, right] = pure (.bool includes) ∧
    isSuperset context [right, left] = pure (.bool included) ∧ (includes && included) = answer

private theorem oneEquality (i j : Nat) (a b : StringSet) :
    OneEquality context (.hosted i (.set a)) (.hosted j (.set b)) (decide (a = b)) where
  asked := equal_sets i j a b
  equality := Mode.equal_of_order (Mode.compare_sets i j a b)
  comparison := ⟨a.order b, Mode.compare_sets i j a b, StringSet.order_beq_eq a b⟩
  sameness := same_sets i j a b
  lists := by
    refine ⟨_, _, list_set i a, list_set j b, ?_, Mode.equal_of_order (Mode.compare_listed a b)⟩
    rw [Value.same_ofStrings]
    exact decide_eq_decide.mpr StringSet.toList_inj
  inclusions :=
    ⟨_, _, isSuperset_sets i j a b, isSuperset_sets j i b a, StringSet.isSuperset_and_isSuperset a b⟩

/-! ### Inclusion -/

def Includes (context : Context) (left right : Value) : Prop :=
  isSuperset context [left, right] = pure (.bool true)

private theorem includes_iff {i j : Nat} {a b : StringSet} :
    Includes context (.hosted i (.set a)) (.hosted j (.set b)) ↔ a.isSuperset b = true := by
  rw [Includes, isSuperset_sets]
  constructor
  · intro answered
    cases included : a.isSuperset b with
    | true => rfl
    | false =>
        rw [included] at answered
        cases congrFun answered 0
  · intro included
    rw [included]

/-- Inclusion is a partial order of sets, whatever handles they are behind. -/
structure InclusionOrders (context : Context) : Prop where
  reflexive (i j : Nat) (a : StringSet) :
    Includes context (.hosted i (.set a)) (.hosted j (.set a))
  antisymmetric {i j : Nat} {a b : StringSet} :
    Includes context (.hosted i (.set a)) (.hosted j (.set b)) →
      Includes context (.hosted j (.set b)) (.hosted i (.set a)) → a = b
  transitive {i j k : Nat} {a b c : StringSet} :
    Includes context (.hosted i (.set a)) (.hosted j (.set b)) →
      Includes context (.hosted j (.set b)) (.hosted k (.set c)) →
        Includes context (.hosted i (.set a)) (.hosted k (.set c))

private theorem inclusionOrders (context : Context) : InclusionOrders context where
  reflexive _ _ a := includes_iff.mpr a.isSuperset_self
  antisymmetric includes included :=
    StringSet.isSuperset_antisymm (includes_iff.mp includes) (includes_iff.mp included)
  transitive upper lower :=
    includes_iff.mpr (StringSet.isSuperset_trans (includes_iff.mp upper) (includes_iff.mp lower))

/-! ### Listing -/

/-- A value is listed as strings in increasing order of their bytes, which are counted and from which
its set is made again. The count is exact as far as the integers go. -/
structure ListedAs (context : Context) (operand : Value) (texts : List String) : Prop where
  listed : list context [operand] = pure (.ofStrings texts)
  increasing : texts.Pairwise fun x y => Text.bytes x < Text.bytes y
  counted : size context [operand] = pure (.ofCount (UInt64.ofNat texts.length))
  exactly : texts.length < Nat.pow 2 63 →
    ∃ count : Int64, size context [operand] = pure (.integer count) ∧ count.toInt = texts.length
  remade : ∃ set, operand.set? = some set ∧ newSet context [.ofStrings texts] = hostSet set

private theorem listedAs (i : Nat) (a : StringSet) :
    ListedAs context (.hosted i (.set a)) a.toList where
  listed := list_set i a
  increasing := a.increasing.imp Text.lt_iff_bytes_lt.mp
  counted := rfl
  exactly bound := ⟨.ofNat a.toList.length, rfl, Int64.toInt_ofNat_of_lt bound⟩
  remade := ⟨a, rfl, newSet_list a⟩

/-! ### Coincidence -/

/-- Sets behind handles have one equality and one order: whatever finds them equal finds equal those
that are one set, comparing them never fails and orders them by their sorted members, inclusion is a
partial order, and a set is the set of what it lists. -/
theorem set_equalities_coincide (context : Context) :
    (∀ i j a b,
        OneEquality context (.hosted i (.set a)) (.hosted j (.set b)) (decide (a = b))) ∧
      (∀ i j a b, ∃ ordering,
        context.mode.compare (.hosted i (.set a)) (.hosted j (.set b)) = .ok ordering ∧
          (ordering = .lt ↔ a.Precedes b) ∧ (ordering = .eq ↔ a = b) ∧
            (ordering = .gt ↔ b.Precedes a)) ∧
      IsStrictTotalOrder StringSet StringSet.Precedes ∧
      InclusionOrders context ∧
      ∀ i a, ListedAs context (.hosted i (.set a)) a.toList := by
  refine ⟨oneEquality, fun i j a b => ?_, inferInstance, inclusionOrders context, listedAs⟩
  exact ⟨a.order b, Mode.compare_sets i j a b, StringSet.order_eq_lt_iff, StringSet.order_eq_iff,
    StringSet.order_eq_gt_iff⟩

/-- The members may be given in any order, and a set precedes those whose lists continue its own. -/
theorem set_equalities_coincide_sample :
    OneEquality ⟨.strict, 0⟩ (.hosted 1 (.set (.ofList ["x", "y"])))
        (.hosted 2 (.set (.ofList ["y", "x"]))) true ∧
      OneEquality ⟨.humane, 0⟩ (.hosted 1 (.set (.ofList ["x", "y"])))
        (.hosted 2 (.set (.ofList ["x"]))) false ∧
      StringSet.Precedes (.ofList ["x"]) (.ofList ["y", "x"]) := by
  refine ⟨?_, ?_, ?_⟩
  · exact (set_equalities_coincide ⟨.strict, 0⟩).1 1 2 (.ofList ["x", "y"]) (.ofList ["y", "x"])
  · exact (set_equalities_coincide ⟨.humane, 0⟩).1 1 2 (.ofList ["x", "y"]) (.ofList ["x"])
  · obtain ⟨ordering, compared, less, -⟩ :=
      (set_equalities_coincide ⟨.strict, 0⟩).2.1 1 2 (.ofList ["x"]) (.ofList ["y", "x"])
    exact less.mp (Except.ok.inj compared).symm

end SetFunction

end HostValue
