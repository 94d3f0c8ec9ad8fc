import HostValue.Proofs.Comparison.Agreement
import HostValue.Proofs.Outcome

/-!
# Reversal of the order

Exchanged operands are ordered the other way round, in both modes and at every depth, and where one
order of the operands fails the other fails too. A value is ordered as equal to itself unless a NaN
or a type whose comparison fails is reached in it.
-/

namespace HostValue

/-- A value that its own parts aside can be ordered towards itself: it is no NaN, and a comparison
of its own does not fail. -/
def Value.Orderable : Value → Prop
  | .float number => number.isNaN = false
  | .hosted _ payload => ¬payload.ComparerFails
  | _ => True

instance : DecidablePred Value.Orderable
  | .float number => inferInstanceAs (Decidable (number.isNaN = false))
  | .hosted _ payload => decidable_of_iff' (payload ≠ .broken) (not_congr Payload.comparerFails_iff)
  | .vector _ | .object _ | .null | .bool _ | .integer _ | .string _ => isTrue trivial

private theorem Value.Orderable.number {value : Value} (orderable : value.Orderable)
    (number : Double)
    (float : value = .float number) : number.isNaN = false := by
  rw [float] at orderable
  exact orderable

private theorem Value.Orderable.sound {value : Value} (orderable : value.Orderable) :
    ¬value.ComparerFails := by
  cases value with
  | hosted => exact orderable
  | _ => exact id

namespace Mode

variable {mode : Mode}

/-! ### Exchanged operands -/

private theorem compareItems_swap {items others : List Value}
    (parts : ∀ item ∈ items, ∀ other ∈ others, ∀ ordering,
      mode.compare item other = .ok ordering → mode.compare other item = .ok ordering.swap)
    {ordering : Ordering} (ordered : mode.compareItems items others = .ok ordering) :
    mode.compareItems others items = .ok ordering.swap := by
  induction items generalizing others with
  | nil =>
      cases others with
      | nil => cases ordered; rfl
      | cons other restOthers => cases ordered; rfl
  | cons item rest ih =>
      cases others with
      | nil => cases ordered; rfl
      | cons other restOthers =>
          have head := parts item List.mem_cons_self other List.mem_cons_self
          rw [compareItems_cons_eq_ok_iff]
          rcases compareItems_cons_eq_ok_iff.mp ordered with ⟨same, tail⟩ | ⟨first, different⟩
          · refine Or.inl ⟨head .eq same, ih ?_ tail⟩
            intro part member otherPart otherMember
            exact parts part (List.mem_cons_of_mem item member) otherPart
              (List.mem_cons_of_mem other otherMember)
          · refine Or.inr ⟨head ordering first, ?_⟩
            rw [Ne, Ordering.swap_eq_eq]
            exact different

private theorem compare_object_swap {entries others : Entries} (distinct : Entries.Distinct entries)
    (othersDistinct : Entries.Distinct others)
    (parts : ∀ key value, (key, value) ∈ entries → ∀ name other, (name, other) ∈ others →
      mode.compare value other = .ok .eq → mode.compare other value = .ok .eq)
    {ordering : Ordering}
    (ordered : mode.compare (.object entries) (.object others) = .ok ordering) :
    mode.compare (.object others) (.object entries) = .ok ordering.swap := by
  obtain ⟨rfl, lengths, matched⟩ := compare_object_iff.mp ordered
  -- Every key of the left object is found in the right one. By their sizes and distinct keys the
  -- converse holds as well, so each look-up can be taken back to the entry that it came from.
  have subset : Entries.keys entries ⊆ Entries.keys others := by
    intro key inEntries
    obtain ⟨value, present⟩ := Entries.mem_keys_iff.mp inEntries
    obtain ⟨other, found, -⟩ := matched key value present
    exact Entries.mem_keys_of_mem (Entries.mem_of_get? found)
  refine compare_object_iff.mpr ⟨rfl, lengths.symm, ?_⟩
  intro key other otherPresent
  have inEntries := Entries.keys_subset_swap distinct lengths subset
    (Entries.mem_keys_of_mem otherPresent)
  obtain ⟨value, present⟩ := Entries.mem_keys_iff.mp inEntries
  obtain ⟨found, foundAt, same⟩ := matched key value present
  rw [(Entries.get?_eq_some_iff othersDistinct).mpr otherPresent, Option.some.injEq] at foundAt
  rw [← foundAt] at same
  exact ⟨value, (Entries.get?_eq_some_iff distinct).mpr present,
    parts key value present key other otherPresent same⟩

theorem compare_swap {left right : Value} (leftKeys : left.DistinctKeys)
    (rightKeys : right.DistinctKeys) {ordering : Ordering}
    (ordered : mode.compare left right = .ok ordering) :
    mode.compare right left = .ok ordering.swap := by
  induction left using Value.inductionOnParts generalizing right ordering with
  | leaf left leaf =>
      have apart := Value.Apart.of_leaf leaf right
      rw [compare_eq_ok_iff_of_apart apart.swap]
      exact ((compare_eq_ok_iff_of_apart apart).mp ordered).swap
  | vector items parts =>
      obtain ⟨others, rfl⟩ := eq_vector_of_compare ordered
      refine compareItems_swap ?_ ordered
      intro item member other otherMember first
      exact parts item member (leftKeys.item member) (rightKeys.item otherMember)
  | object entries parts =>
      obtain ⟨others, rfl⟩ := eq_object_of_compare ordered
      refine compare_object_swap leftKeys.entries rightKeys.entries ?_ ordered
      intro key value member name other otherMember
      exact parts key value member (leftKeys.entry member) (rightKeys.entry otherMember)

private theorem compare_swap_iff {left right : Value} (leftKeys : left.DistinctKeys)
    (rightKeys : right.DistinctKeys) {ordering : Ordering} :
    mode.compare left right = .ok ordering ↔ mode.compare right left = .ok ordering.swap := by
  constructor
  · intro ordered
    exact compare_swap leftKeys rightKeys ordered
  · intro ordered
    have back := compare_swap rightKeys leftKeys ordered
    rw [Ordering.swap_swap] at back
    exact back

private theorem compare_fails_iff {left right : Value} (leftKeys : left.DistinctKeys)
    (rightKeys : right.DistinctKeys) :
    (∃ error, mode.compare left right = .error error) ↔
      ∃ error, mode.compare right left = .error error := by
  rw [exists_error_iff, exists_error_iff]
  constructor
  · intro never ordering ordered
    exact never _ (compare_swap rightKeys leftKeys ordered)
  · intro never ordering ordered
    exact never _ (compare_swap leftKeys rightKeys ordered)

/-! ### A value towards itself -/

private theorem compareItems_self {items : List Value}
    (parts : ∀ item ∈ items, mode.compare item item = .ok .eq) :
    mode.compareItems items items = .ok .eq := by
  induction items with
  | nil => rfl
  | cons item rest ih =>
      refine compareItems_cons_eq_ok_iff.mpr (Or.inl ⟨parts item List.mem_cons_self, ?_⟩)
      exact ih fun part member => parts part (List.mem_cons_of_mem item member)

private theorem compare_self {value : Value} (keys : value.DistinctKeys)
    (orderable : value.Everywhere Value.Orderable) : mode.compare value value = .ok .eq := by
  induction value using Value.inductionOnParts with
  | leaf value leaf =>
      rw [compare_eq_ok_iff_of_apart (Value.Apart.of_leaf leaf value)]
      exact .self leaf orderable.whole.number orderable.whole.sound
  | vector items parts =>
      refine compareItems_self ?_
      intro item member
      exact parts item member (keys.item member) (orderable.item member)
  | object entries parts =>
      refine compare_object_iff.mpr ⟨rfl, rfl, ?_⟩
      intro key value member
      exact ⟨value, (Entries.get?_eq_some_iff keys.entries).mpr member,
        parts key value member (keys.entry member) (orderable.entry member)⟩

/-- Exchanged operands are ordered the other way round and fail together, and a value in which
neither a NaN nor a failing comparison is reached is equal to itself. -/
theorem compare_reversible_and_reflexive (mode : Mode) :
    (∀ left right : Value, left.DistinctKeys → right.DistinctKeys →
        (∀ ordering, mode.compare left right = .ok ordering ↔
          mode.compare right left = .ok ordering.swap) ∧
        ((∃ error, mode.compare left right = .error error) ↔
          ∃ error, mode.compare right left = .error error)) ∧
      ∀ value : Value, value.DistinctKeys → value.Everywhere Value.Orderable →
        mode.compare value value = .ok .eq := by
  refine ⟨?_, fun value => compare_self⟩
  intro left right leftKeys rightKeys
  exact ⟨fun ordering => compare_swap_iff leftKeys rightKeys, compare_fails_iff leftKeys rightKeys⟩

/-- A text meets a string from either side, and a handle without a comparison meets itself under
keys in another order. -/
theorem compare_reversible_and_reflexive_handles :
    strict.compare
        (.vector [.object [("n", .integer 1), ("k", .hosted 0 (.bare "x"))], .hosted 1 (.text "b")])
        (.vector [.object [("k", .hosted 0 (.bare "x")), ("n", .integer 1)], .string "a"]) =
          .ok .gt ∧
      strict.compare (.object [("k", .hosted 0 (.bare "x")), ("f", .float (.infinity true))])
        (.object [("k", .hosted 0 (.bare "x")), ("f", .float (.infinity true))]) = .ok .eq := by
  obtain ⟨exchanged, reflexive⟩ := compare_reversible_and_reflexive strict
  constructor
  · obtain ⟨reversed, -⟩ := exchanged
      (.vector [.object [("n", .integer 1), ("k", .hosted 0 (.bare "x"))], .hosted 1 (.text "b")])
      (.vector [.object [("k", .hosted 0 (.bare "x")), ("n", .integer 1)], .string "a"])
      (by decide) (by decide)
    exact (reversed .gt).mpr (by decide)
  · exact reflexive _ (by decide) (by decide)

end Mode

end HostValue
