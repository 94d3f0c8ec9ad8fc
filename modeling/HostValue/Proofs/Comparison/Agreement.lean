import HostValue.Proofs.Comparison.Leaves
import HostValue.Proofs.Value.Parts

/-!
# Agreement of order and equality

Order and equality walk vectors and objects in their own ways, and yet equality answers wherever an
order exists, and answers whether it is that of equal values.
-/

namespace HostValue.Mode

variable {mode : Mode}

/-! ### Vectors and objects -/

theorem equal_vector (items others : List Value) :
    mode.equal (.vector items) (.vector others) =
      if items.length = others.length then mode.equalItems items others else .ok false :=
  rfl

theorem equal_object (entries others : Entries) :
    mode.equal (.object entries) (.object others) =
      if entries.length = others.length then mode.equalEntries entries others else .ok false :=
  rfl

theorem compare_object_eq_ok_iff {entries others : Entries} {ordering : Ordering} :
    mode.compare (.object entries) (.object others) = .ok ordering ↔
      ordering = .eq ∧ mode.equal (.object entries) (.object others) = .ok true := by
  have silent : compareThemselves (.object entries) (.object others) = .ok none := rfl
  rw [Mode.compare]
  simp only [silent]
  cases mode.equal (.object entries) (.object others) with
  | error error => simp
  | ok answer => cases answer <;> simp [eq_comm]

theorem eq_vector_of_kind {value : Value} (kind : value.kind = .vector) :
    ∃ items, value = .vector items := by
  cases value with
  | vector items => exact ⟨items, rfl⟩
  | _ => cases kind

theorem eq_object_of_kind {value : Value} (kind : value.kind = .object) :
    ∃ entries, value = .object entries := by
  cases value with
  | object entries => exact ⟨entries, rfl⟩
  | _ => cases kind

theorem eq_vector_of_compare {items : List Value} {right : Value} {ordering : Ordering}
    (ordered : mode.compare (.vector items) right = .ok ordering) :
    ∃ others, right = .vector others := by
  by_cases kind : right.kind = .vector
  · exact eq_vector_of_kind kind
  · exact absurd ordered (compare_mixed rfl (Ne.symm kind) ordering)

theorem eq_object_of_compare {entries : Entries} {right : Value} {ordering : Ordering}
    (ordered : mode.compare (.object entries) right = .ok ordering) :
    ∃ others, right = .object others := by
  by_cases kind : right.kind = .object
  · exact eq_object_of_kind kind
  · exact absurd ordered (compare_mixed rfl (Ne.symm kind) ordering)

theorem compareItems_cons_eq_ok_iff {item other : Value} {rest others : List Value}
    {ordering : Ordering} :
    mode.compareItems (item :: rest) (other :: others) = .ok ordering ↔
      (mode.compare item other = .ok .eq ∧ mode.compareItems rest others = .ok ordering) ∨
        (mode.compare item other = .ok ordering ∧ ordering ≠ .eq) := by
  rw [Mode.compareItems]
  cases mode.compare item other with
  | error error => simp
  | ok first =>
      cases first with
      | eq => simp; grind
      | lt | gt => simp; grind

theorem equalItems_cons_eq_ok_iff {item other : Value} {rest others : List Value} {answer : Bool} :
    mode.equalItems (item :: rest) (other :: others) = .ok answer ↔
      (mode.equal item other = .ok true ∧ mode.equalItems rest others = .ok answer) ∨
        (mode.equal item other = .ok false ∧ answer = false) := by
  rw [Mode.equalItems]
  cases mode.equal item other with
  | error error => simp
  | ok first => cases first <;> simp [eq_comm]

/-! ### Equality from order -/

private theorem equalItems_of_compareItems {items : List Value}
    (parts : ∀ item ∈ items, ∀ other ordering,
      mode.compare item other = .ok ordering → mode.equal item other = .ok (ordering == .eq))
    {others : List Value} {ordering : Ordering}
    (ordered : mode.compareItems items others = .ok ordering) :
    (items.length = others.length → mode.equalItems items others = .ok (ordering == .eq)) ∧
      (items.length ≠ others.length → ordering ≠ .eq) := by
  -- Order walks the common prefix and looks at the lengths last, equality looks at them first: both
  -- halves are needed of the tails.
  induction items generalizing others with
  | nil =>
      cases others with
      | nil =>
          cases ordered
          exact ⟨fun _ => rfl, fun different => absurd rfl different⟩
      | cons other restOthers =>
          cases ordered
          exact ⟨fun same => absurd same (Nat.succ_ne_zero _).symm, fun _ => Ordering.noConfusion⟩
  | cons item rest ih =>
      cases others with
      | nil =>
          cases ordered
          exact ⟨fun same => absurd same (Nat.succ_ne_zero _), fun _ => Ordering.noConfusion⟩
      | cons other restOthers =>
          have head := parts item List.mem_cons_self other
          rw [equalItems_cons_eq_ok_iff]
          rcases compareItems_cons_eq_ok_iff.mp ordered with ⟨same, tail⟩ | ⟨first, different⟩
          · obtain ⟨answered, told⟩ :=
              ih (fun part member => parts part (List.mem_cons_of_mem item member)) tail
            refine ⟨fun lengths => Or.inl ⟨head .eq same, answered (Nat.succ_inj.mp lengths)⟩, ?_⟩
            exact fun lengths => told fun same => lengths (congrArg Nat.succ same)
          · have notEqual : (ordering == .eq) = false := beq_false_of_ne different
            have answer := head ordering first
            rw [notEqual] at answer ⊢
            exact ⟨fun _ => Or.inr ⟨answer, rfl⟩, fun _ => different⟩

theorem equal_of_compare {left right : Value} {ordering : Ordering}
    (ordered : mode.compare left right = .ok ordering) :
    mode.equal left right = .ok (ordering == .eq) := by
  induction left using Value.inductionOnParts generalizing right ordering with
  | leaf left leaf =>
      have apart := Value.Apart.of_leaf leaf right
      rw [equal_eq_ok_iff_of_apart apart]
      exact ((compare_eq_ok_iff_of_apart apart).mp ordered).equality
  | vector items parts =>
      obtain ⟨others, rfl⟩ := eq_vector_of_compare ordered
      obtain ⟨answered, told⟩ := equalItems_of_compareItems
        (fun item member other ordering => parts item member) ordered
      rw [equal_vector]
      split
      · next lengths => exact answered lengths
      · next lengths => rw [beq_false_of_ne (told lengths)]
  | object entries parts =>
      obtain ⟨others, rfl⟩ := eq_object_of_compare ordered
      obtain ⟨same, equal⟩ := compare_object_eq_ok_iff.mp ordered
      rw [same]
      exact equal

/-! ### Order from equality -/

private theorem compareItems_of_equalItems {items : List Value}
    (parts : ∀ item ∈ items, ∀ other,
      mode.equal item other = .ok true → mode.compare item other = .ok .eq)
    {others : List Value} (lengths : items.length = others.length)
    (equal : mode.equalItems items others = .ok true) :
    mode.compareItems items others = .ok .eq := by
  induction items generalizing others with
  | nil =>
      cases others with
      | nil => rfl
      | cons other restOthers => cases lengths
  | cons item rest ih =>
      cases others with
      | nil => cases lengths
      | cons other restOthers =>
          rcases equalItems_cons_eq_ok_iff.mp equal with ⟨same, tail⟩ | ⟨_, impossible⟩
          · refine compareItems_cons_eq_ok_iff.mpr (Or.inl ⟨?_, ?_⟩)
            · exact parts item List.mem_cons_self other same
            · exact ih (fun part member => parts part (List.mem_cons_of_mem item member))
                (Nat.succ_inj.mp lengths) tail
          · cases impossible

theorem compare_of_equal {left right : Value} (equal : mode.equal left right = .ok true) :
    mode.compare left right = .ok .eq := by
  induction left using Value.inductionOnParts generalizing right with
  | leaf left leaf =>
      have apart := Value.Apart.of_leaf leaf right
      rw [compare_eq_ok_iff_of_apart apart]
      exact .of_equal ((equal_eq_ok_iff_of_apart apart).mp equal)
  | vector items parts =>
      by_cases kind : right.kind = .vector
      · obtain ⟨others, rfl⟩ := eq_vector_of_kind kind
        rw [equal_vector] at equal
        split at equal
        · next lengths =>
          exact compareItems_of_equalItems (fun item member other => parts item member) lengths equal
        · cases equal
      · exact absurd equal (equal_mixed rfl (Ne.symm kind) true)
  | object entries parts =>
      by_cases kind : right.kind = .object
      · obtain ⟨others, rfl⟩ := eq_object_of_kind kind
        exact compare_object_eq_ok_iff.mpr ⟨rfl, equal⟩
      · exact absurd equal (equal_mixed rfl (Ne.symm kind) true)

theorem compare_eq_ok_eq_iff {left right : Value} :
    mode.compare left right = .ok .eq ↔ mode.equal left right = .ok true :=
  ⟨equal_of_compare, compare_of_equal⟩

/-! ### Equal objects -/

theorem equalEntries_cons (key : String) (value : Value) (rest : Entries) (others : Entries) :
    mode.equalEntries ((key, value) :: rest) others =
      match Entries.get? others key with
      | none => .ok false
      | some other =>
        match mode.equal value other with
        | .ok true => mode.equalEntries rest others
        | outcome => outcome :=
  rfl

theorem equalEntries_eq_ok_true_iff {entries others : Entries} :
    mode.equalEntries entries others = .ok true ↔
      ∀ key value, (key, value) ∈ entries →
        ∃ other, Entries.get? others key = some other ∧ mode.equal value other = .ok true := by
  induction entries with
  | nil =>
      constructor
      · intro _ key value present
        cases present
      · intro _
        rfl
  | cons entry rest ih =>
      obtain ⟨key, value⟩ := entry
      rw [equalEntries_cons]
      constructor
      · intro equal
        split at equal
        · cases equal
        · next other found =>
          split at equal
          · next same =>
            intro name part present
            rcases List.mem_cons.mp present with atHead | later
            · cases atHead
              exact ⟨other, found, same⟩
            · exact ih.mp equal name part later
          · next notTrue => exact absurd equal (notTrue ·)
      · intro all
        obtain ⟨other, found, same⟩ := all key value List.mem_cons_self
        simp only [found, same]
        exact ih.mpr fun name part later => all name part (List.mem_cons_of_mem _ later)

theorem ite_ok_false_eq_ok_true_iff {condition : Prop} [Decidable condition]
    {outcome : Except ValueError Bool} :
    (if condition then outcome else .ok false) = .ok true ↔ condition ∧ outcome = .ok true := by
  split
  · next holds => simp [holds]
  · next fails => simp [fails]

/-- Two objects are equal when they are of one size and every entry of the first has an equal value
under its key in the second. -/
theorem equal_object_iff {entries others : Entries} :
    mode.equal (.object entries) (.object others) = .ok true ↔
      entries.length = others.length ∧
        ∀ key value, (key, value) ∈ entries →
          ∃ other, Entries.get? others key = some other ∧ mode.equal value other = .ok true := by
  rw [equal_object, ite_ok_false_eq_ok_true_iff, equalEntries_eq_ok_true_iff]

/-- Two objects that are equal are ordered as equal, and so are the values under their keys; there is
no other order of objects. -/
theorem compare_object_iff {entries others : Entries} {ordering : Ordering} :
    mode.compare (.object entries) (.object others) = .ok ordering ↔
      ordering = .eq ∧ entries.length = others.length ∧
        ∀ key value, (key, value) ∈ entries →
          ∃ other, Entries.get? others key = some other ∧
            mode.compare value other = .ok .eq := by
  rw [compare_object_eq_ok_iff, equal_object_iff]
  simp only [compare_eq_ok_eq_iff]

/-- Equality answers wherever there is an order, and answers whether it is that of equal values; and
it finds no values equal that have no order. -/
theorem equal_agrees_with_compare (mode : Mode) (left right : Value) :
    (∀ ordering, mode.compare left right = .ok ordering →
        mode.equal left right = .ok (ordering == .eq)) ∧
      (mode.equal left right = .ok true → mode.compare left right = .ok .eq) :=
  ⟨fun _ => equal_of_compare, compare_of_equal⟩

/-- Two items that differ decide before the ones behind them, which no mode can compare; and a text
in an object is equal to the string that it carries. -/
theorem equal_agrees_with_compare_at_difference :
    humane.equal (.vector [.string "a", .hosted 1 (.tag "b"), .null])
        (.vector [.hosted 2 (.text "a"), .string "c", .object []]) = .ok false ∧
      strict.compare (.object [("k", .hosted 0 (.bare "x")), ("t", .string "a")])
        (.object [("t", .hosted 1 (.text "a")), ("k", .hosted 0 (.bare "x"))]) = .ok .eq := by
  constructor
  · exact (equal_agrees_with_compare humane _ _).1 .lt (by decide)
  · exact (equal_agrees_with_compare strict _ _).2 (by decide)

end HostValue.Mode
