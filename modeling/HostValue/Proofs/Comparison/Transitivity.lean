import HostValue.Proofs.Comparison.Agreement

/-!
# Transitivity of the strict order

In the strict mode two steps of the order that do not go down make one step, at every depth of
values without floats: the third comparison has an answer because the first difference that it meets
is one that the two steps met as well.
-/

namespace HostValue

def Value.FloatFree (value : Value) : Prop :=
  value.Everywhere fun part => part.kind ≠ .float

instance (value : Value) : Decidable value.FloatFree :=
  inferInstanceAs (Decidable (value.Everywhere _))

/-! ### Leaves -/

/-- The order that the strict mode gives to two leaves which are no floats: that of their ranks, or
of values of one of the kinds without rank. -/
inductive PlainOrder : Value → Value → Ordering → Prop where
  | ranks {left right : Value} {own other : Rank} {ordering : Ordering}
      (leftRank : left.rank? = some own) (rightRank : right.rank? = some other)
      (ordered : own.order? other = some ordering) : PlainOrder left right ordering
  | null : PlainOrder .null .null .eq
  | bool (a b : Bool) : PlainOrder (.bool a) (.bool b) (compare a b)
  | integer (a b : Int64) : PlainOrder (.integer a) (.integer b) (compare a b)
  | handle {identity : Nat} {payload : Payload}
      (unranked : (Value.hosted identity payload).rank? = none)
      (sound : ¬(Value.hosted identity payload).ComparerFails) :
      PlainOrder (.hosted identity payload) (.hosted identity payload) .eq

theorem Value.not_comparerFails_of_rank? {value : Value} {rank : Rank}
    (ranked : value.rank? = some rank) : ¬value.ComparerFails := by
  intro fails
  obtain ⟨identity, rfl⟩ := eq_broken_of_comparerFails fails
  cases ranked

theorem Value.eq_string_of_rank? {value : Value} {rank : Rank} (ranked : value.rank? = some rank)
    (unhosted : value.kind ≠ .hosted) : ∃ text, value = .string text ∧ rank = .text text := by
  cases value with
  | string text =>
      cases ranked
      exact ⟨text, rfl, rfl⟩
  | hosted => exact absurd rfl unhosted
  | _ => cases ranked

namespace PlainOrder

theorem of_leafOrder {left right : Value} (leftKind : left.kind ≠ .float)
    (rightKind : right.kind ≠ .float) {ordering : Ordering}
    (ordered : Mode.strict.LeafOrder left right ordering) : PlainOrder left right ordering := by
  cases ordered with
  | themselves asked =>
      obtain ⟨leftSound, rightSound⟩ := not_comparerFails_of_answer asked
      rw [compareThemselves_sound leftSound rightSound, Except.ok.injEq] at asked
      split at asked
      · obtain ⟨own, other, leftRank, rightRank, ordered⟩ := Value.rankOrder?_eq_some_iff.mp asked
        exact .ranks leftRank rightRank ordered
      · cases asked
  | scalars silent domain ordered =>
      cases ordered with
      | null => exact .null
      | bool a b => exact .bool a b
      | integer a b => exact .integer a b
      | integerFloat => exact absurd rfl rightKind
      | floatInteger => exact absurd rfl leftKind
      | float => exact absurd rfl leftKind
      | string a b => exact .ranks rfl rfl rfl
      | handle identity payload =>
          have sound := (not_comparerFails_of_answer silent).1
          refine .handle ?_ sound
          rw [compareThemselves_self rfl sound, Except.ok.injEq, Option.map_eq_none_iff] at silent
          exact silent
  | unified _ _ unified => cases unified

private theorem leafOrder {left right : Value} {ordering : Ordering}
    (ordered : PlainOrder left right ordering) : Mode.strict.LeafOrder left right ordering := by
  cases ordered with
  | @ranks _ _ own other _ leftRank rightRank ordered =>
      by_cases hosted : left.kind = .hosted ∨ right.kind = .hosted
      · refine .themselves ?_
        rw [compareThemselves_sound (Value.not_comparerFails_of_rank? leftRank)
          (Value.not_comparerFails_of_rank? rightRank), if_pos hosted,
          Value.rankOrder?_eq_some_iff.mpr ⟨own, other, leftRank, rightRank, ordered⟩]
      · obtain ⟨leftUnhosted, rightUnhosted⟩ := not_or.mp hosted
        obtain ⟨a, rfl, rfl⟩ := Value.eq_string_of_rank? leftRank leftUnhosted
        obtain ⟨b, rfl, rfl⟩ := Value.eq_string_of_rank? rightRank rightUnhosted
        cases ordered
        exact .scalars rfl rfl (.string a b)
  | null => exact .scalars rfl rfl .null
  | bool a b => exact .scalars rfl rfl (.bool a b)
  | integer a b => exact .scalars rfl rfl (.integer a b)
  | @handle identity payload unranked sound =>
      refine .scalars ?_ rfl (.handle identity payload)
      rw [compareThemselves_self rfl sound, unranked]
      rfl

private theorem trans {first second third : Value} {lower upper : Ordering}
    (below : PlainOrder first second lower) (above : PlainOrder second third upper)
    (lowerUp : lower.isLE = true) (upperUp : upper.isLE = true) :
    PlainOrder first third (lower.then upper) := by
  cases below with
  | ranks firstRank secondRank firstOrder =>
      cases above with
      | ranks middleRank thirdRank secondOrder =>
          rw [secondRank, Option.some.injEq] at middleRank
          rw [← middleRank] at secondOrder
          exact .ranks firstRank thirdRank
            (Rank.order?_trans firstOrder secondOrder lowerUp upperUp)
      | null | bool | integer => cases secondRank
      | handle unranked =>
          rw [unranked] at secondRank
          cases secondRank
  | null =>
      cases above with
      | ranks middleRank => cases middleRank
      | null => exact .null
  | bool a b =>
      cases above with
      | ranks middleRank => cases middleRank
      | bool _ c =>
          rw [← compare_then lowerUp upperUp]
          exact .bool a c
  | integer a b =>
      cases above with
      | ranks middleRank => cases middleRank
      | integer _ c =>
          rw [← compare_then lowerUp upperUp]
          exact .integer a c
  | handle unranked sound =>
      cases above with
      | ranks middleRank =>
          rw [unranked] at middleRank
          cases middleRank
      | handle => exact .handle unranked sound

end PlainOrder

namespace Mode

/-! ### Vectors -/

private theorem eq_lt_of_isLE {ordering : Ordering} (up : ordering.isLE = true)
    (different : ordering ≠ .eq) :
    ordering = .lt := by
  cases ordering with
  | lt => rfl
  | eq => exact absurd rfl different
  | gt => cases up

private theorem then_lt_of_isLE {ordering : Ordering} (up : ordering.isLE = true) :
    ordering.then .lt = .lt := by
  cases ordering with
  | lt | eq => rfl
  | gt => cases up

private theorem compareItems_trans {mode : Mode} {items middles others : List Value}
    (parts : ∀ item ∈ items, ∀ middle ∈ middles, ∀ other ∈ others, ∀ lower upper : Ordering,
      mode.compare item middle = .ok lower → mode.compare middle other = .ok upper →
        lower.isLE = true → upper.isLE = true →
          mode.compare item other = .ok (lower.then upper))
    {lower upper : Ordering} (below : mode.compareItems items middles = .ok lower)
    (above : mode.compareItems middles others = .ok upper) (lowerUp : lower.isLE = true)
    (upperUp : upper.isLE = true) : mode.compareItems items others = .ok (lower.then upper) := by
  induction items generalizing middles others with
  | nil =>
      cases middles with
      | nil => cases below; exact above
      | cons middle restMiddles =>
          cases below
          cases others with
          | nil => cases above; cases upperUp
          | cons other restOthers => rfl
  | cons item rest ih =>
      cases middles with
      | nil => cases below; cases lowerUp
      | cons middle restMiddles =>
          cases others with
          | nil => cases above; cases upperUp
          | cons other restOthers =>
              have head := parts item List.mem_cons_self middle List.mem_cons_self other
                List.mem_cons_self
              rw [compareItems_cons_eq_ok_iff]
              rcases compareItems_cons_eq_ok_iff.mp below with
                ⟨firstSame, belowTail⟩ | ⟨firstHead, firstDifferent⟩
              · rcases compareItems_cons_eq_ok_iff.mp above with
                  ⟨secondSame, aboveTail⟩ | ⟨secondHead, secondDifferent⟩
                -- Both pairs of first items are equal, and the tails decide.
                · refine Or.inl ⟨head .eq .eq firstSame secondSame rfl rfl, ih ?_ belowTail aboveTail⟩
                  intro a inRest b inMiddles c inOthers
                  exact parts a (List.mem_cons_of_mem item inRest) b
                    (List.mem_cons_of_mem middle inMiddles) c (List.mem_cons_of_mem other inOthers)
                · cases eq_lt_of_isLE upperUp secondDifferent
                  rw [then_lt_of_isLE lowerUp]
                  exact Or.inr ⟨head .eq .lt firstSame secondHead rfl rfl, Ordering.noConfusion⟩
              -- The first pair decides below; whatever the second pair does, it does not go down.
              · cases eq_lt_of_isLE lowerUp firstDifferent
                refine Or.inr ⟨?_, Ordering.noConfusion⟩
                rcases compareItems_cons_eq_ok_iff.mp above with
                  ⟨secondSame, -⟩ | ⟨secondHead, -⟩
                · exact head .lt .eq firstHead secondSame rfl rfl
                · exact head .lt upper firstHead secondHead rfl upperUp

/-! ### Values -/

private theorem leaf_of_compare {mode : Mode} {left right : Value}
    (leaf : left.kind.isCollection = false)
    {ordering : Ordering} (ordered : mode.compare left right = .ok ordering) :
    right.kind.isCollection = false := by
  cases collection : right.kind.isCollection with
  | false => rfl
  | true =>
      have different : right.kind ≠ left.kind := by
        intro same
        rw [same, leaf] at collection
        cases collection
      have apart := Value.Apart.of_leaf leaf right
      have back := ((compare_eq_ok_iff_of_apart apart).mp ordered).swap
      exact absurd ((compare_eq_ok_iff_of_apart apart.swap).mpr back)
        (compare_mixed collection different _)

/-- Two objects that are equal to a third one are equal: what a look-up finds is looked up again. -/
private theorem compare_object_trans {mode : Mode} {entries middles others : Entries}
    (parts : ∀ key value, (key, value) ∈ entries → ∀ name middle, (name, middle) ∈ middles →
      ∀ label other, (label, other) ∈ others → mode.compare value middle = .ok .eq →
        mode.compare middle other = .ok .eq → mode.compare value other = .ok .eq)
    {lower upper : Ordering}
    (below : mode.compare (.object entries) (.object middles) = .ok lower)
    (above : mode.compare (.object middles) (.object others) = .ok upper) :
    mode.compare (.object entries) (.object others) = .ok (lower.then upper) := by
  obtain ⟨rfl, lowerLengths, lowerMatched⟩ := compare_object_iff.mp below
  obtain ⟨rfl, upperLengths, upperMatched⟩ := compare_object_iff.mp above
  refine compare_object_iff.mpr ⟨rfl, lowerLengths.trans upperLengths, ?_⟩
  intro key value present
  obtain ⟨middle, middleFound, lowerSame⟩ := lowerMatched key value present
  have middlePresent := Entries.mem_of_get? middleFound
  obtain ⟨other, otherFound, upperSame⟩ := upperMatched key middle middlePresent
  exact ⟨other, otherFound, parts key value present key middle middlePresent key other
    (Entries.mem_of_get? otherFound) lowerSame upperSame⟩

private theorem compare_strict_then {first second third : Value} (firstFree : first.FloatFree)
    (secondFree : second.FloatFree) (thirdFree : third.FloatFree) {lower upper : Ordering}
    (below : strict.compare first second = .ok lower)
    (above : strict.compare second third = .ok upper) (lowerUp : lower.isLE = true)
    (upperUp : upper.isLE = true) : strict.compare first third = .ok (lower.then upper) := by
  induction first using Value.inductionOnParts generalizing second third lower upper with
  | leaf first leaf =>
      have secondLeaf := leaf_of_compare leaf below
      have lowerOrder := (compare_eq_ok_iff_of_apart (Value.Apart.of_leaf leaf second)).mp below
      have upperOrder := (compare_eq_ok_iff_of_apart (Value.Apart.of_leaf secondLeaf third)).mp above
      have plainBelow := PlainOrder.of_leafOrder firstFree.whole secondFree.whole lowerOrder
      have plainAbove := PlainOrder.of_leafOrder secondFree.whole thirdFree.whole upperOrder
      rw [compare_eq_ok_iff_of_apart (Value.Apart.of_leaf leaf third)]
      exact (plainBelow.trans plainAbove lowerUp upperUp).leafOrder
  | vector items parts =>
      obtain ⟨middles, rfl⟩ := eq_vector_of_compare below
      obtain ⟨others, rfl⟩ := eq_vector_of_compare above
      refine compareItems_trans ?_ below above lowerUp upperUp
      intro item inItems middle inMiddles other inOthers lower upper
      exact parts item inItems (firstFree.item inItems) (secondFree.item inMiddles)
        (thirdFree.item inOthers)
  | object entries parts =>
      obtain ⟨middles, rfl⟩ := eq_object_of_compare below
      obtain ⟨others, rfl⟩ := eq_object_of_compare above
      refine compare_object_trans ?_ below above
      intro key value inEntries name middle inMiddles label other inOthers lowerSame upperSame
      exact parts key value inEntries (firstFree.entry inEntries) (secondFree.entry inMiddles)
        (thirdFree.entry inOthers) lowerSame upperSame rfl rfl

/-- Strict comparison is transitive on values without floats: after two steps that do not go down
the third comparison succeeds, with the order of equal values exactly if both steps had it. -/
theorem compare_strict_transitive {first second third : Value} (firstFree : first.FloatFree)
    (secondFree : second.FloatFree) (thirdFree : third.FloatFree) {lower upper : Ordering}
    (below : strict.compare first second = .ok lower)
    (above : strict.compare second third = .ok upper) (lowerUp : lower = .lt ∨ lower = .eq)
    (upperUp : upper = .lt ∨ upper = .eq) :
    strict.compare first third = .ok (if lower = .eq ∧ upper = .eq then .eq else .lt) := by
  have composed (up : lower.isLE = true) (upUpper : upper.isLE = true) :=
    compare_strict_then firstFree secondFree thirdFree below above up upUpper
  rcases lowerUp with rfl | rfl
  · rcases upperUp with rfl | rfl
    · exact composed rfl rfl
    · exact composed rfl rfl
  · rcases upperUp with rfl | rfl
    · exact composed rfl rfl
    · exact composed rfl rfl

/-- The first items decide the second step and the third comparison, so neither of them reaches the
object and the number, which have no order. -/
theorem compare_strict_transitive_texts :
    strict.compare (.vector [.string "a", .object [("k", .integer 1), ("j", .hosted 0 (.bare "x"))]])
      (.vector [.string "b", .integer 2]) = .ok .lt := by
  have below : strict.compare
      (.vector [.string "a", .object [("k", .integer 1), ("j", .hosted 0 (.bare "x"))]])
      (.vector [.hosted 1 (.text "a"), .object [("j", .hosted 0 (.bare "x")), ("k", .integer 1)]]) =
        .ok .eq := by decide
  have above : strict.compare
      (.vector [.hosted 1 (.text "a"), .object [("j", .hosted 0 (.bare "x")), ("k", .integer 1)]])
      (.vector [.string "b", .integer 2]) = .ok .lt := by decide
  exact compare_strict_transitive (by decide) (by decide) (by decide) below above (Or.inr rfl)
    (Or.inl rfl)

end Mode

end HostValue
