import HostValue.Proofs.Coalescing.Leniency
import HostValue.Proofs.Comparison.Agreement

/-!
# Leniency of comparison

Values that the strict mode compares are compared by their structure or by themselves, at every
depth, and that is what the humane mode tries first as well.
-/

namespace HostValue.Mode

/-! ### Leaves -/

private theorem LeafOrder.lenient {left right : Value} {ordering : Ordering}
    (ordered : strict.LeafOrder left right ordering) : humane.LeafOrder left right ordering := by
  cases ordered with
  | themselves asked => exact .themselves asked
  | scalars silent domain ordered => exact .scalars silent domain ordered
  | unified silent domain unified => cases unified

private theorem LeafEquality.lenient {left right : Value} {answer : Bool}
    (equal : strict.LeafEquality left right answer) : humane.LeafEquality left right answer := by
  cases equal with
  | themselves asked => exact .themselves asked
  | scalars silent domain equal => exact .scalars silent domain equal
  | unified silent domain unified => cases unified

/-! ### Equality -/

private theorem equalItems_lenient {items : List Value}
    (parts : ∀ item ∈ items, ∀ other,
      ExtendedBy (strict.equal item other) (humane.equal item other))
    (others : List Value) :
    ExtendedBy (strict.equalItems items others) (humane.equalItems items others) := by
  induction items generalizing others with
  | nil =>
      cases others with
      | nil => exact .refl _
      | cons other restOthers => exact .refl _
  | cons item rest ih =>
      cases others with
      | nil => exact .refl _
      | cons other restOthers =>
          intro answer equal
          have head := parts item List.mem_cons_self other
          apply equalItems_cons_eq_ok_iff.mpr
          rcases equalItems_cons_eq_ok_iff.mp equal with ⟨same, tail⟩ | ⟨different, decided⟩
          · refine Or.inl ⟨head true same, ?_⟩
            exact ih (fun part member => parts part (List.mem_cons_of_mem item member)) _ answer tail
          · exact Or.inr ⟨head false different, decided⟩

private theorem equalEntries_lenient {entries : Entries}
    (parts : ∀ key value, (key, value) ∈ entries → ∀ other,
      ExtendedBy (strict.equal value other) (humane.equal value other)) (others : Entries) :
    ExtendedBy (strict.equalEntries entries others) (humane.equalEntries entries others) := by
  induction entries with
  | nil => exact .refl _
  | cons entry rest ih =>
      obtain ⟨key, value⟩ := entry
      intro answer equal
      rw [equalEntries_cons] at equal ⊢
      cases found : Entries.get? others key with
      | none =>
          rw [found] at equal
          exact equal
      | some other =>
          rw [found] at equal
          have head := parts key value List.mem_cons_self other
          have tail := ih fun name part member => parts name part (List.mem_cons_of_mem _ member)
          dsimp only at equal ⊢
          cases first : strict.equal value other with
          | error error =>
              rw [first] at equal
              cases equal
          | ok same =>
              rw [first] at equal
              rw [head same first]
              cases same with
              | true => exact tail answer equal
              | false => exact equal

theorem equal_lenient (left right : Value) :
    ExtendedBy (strict.equal left right) (humane.equal left right) := by
  induction left using Value.inductionOnParts generalizing right with
  | leaf left leaf =>
      intro answer equal
      have apart := Value.Apart.of_leaf leaf right
      apply (equal_eq_ok_iff_of_apart apart).mpr
      exact ((equal_eq_ok_iff_of_apart apart).mp equal).lenient
  | vector items parts =>
      intro answer equal
      by_cases kind : right.kind = .vector
      · obtain ⟨others, rfl⟩ := eq_vector_of_kind kind
        rw [equal_vector] at equal ⊢
        split at equal
        · next lengths =>
          rw [if_pos lengths]
          exact equalItems_lenient parts others answer equal
        · next lengths =>
          rw [if_neg lengths]
          exact equal
      · exact absurd equal (equal_mixed rfl (Ne.symm kind) answer)
  | object entries parts =>
      intro answer equal
      by_cases kind : right.kind = .object
      · obtain ⟨others, rfl⟩ := eq_object_of_kind kind
        rw [equal_object] at equal ⊢
        split at equal
        · next lengths =>
          rw [if_pos lengths]
          exact equalEntries_lenient parts others answer equal
        · next lengths =>
          rw [if_neg lengths]
          exact equal
      · exact absurd equal (equal_mixed rfl (Ne.symm kind) answer)

/-! ### Order -/

private theorem compareItems_lenient {items : List Value}
    (parts : ∀ item ∈ items, ∀ other,
      ExtendedBy (strict.compare item other) (humane.compare item other))
    (others : List Value) :
    ExtendedBy (strict.compareItems items others) (humane.compareItems items others) := by
  induction items generalizing others with
  | nil =>
      cases others with
      | nil => exact .refl _
      | cons other restOthers => exact .refl _
  | cons item rest ih =>
      cases others with
      | nil => exact .refl _
      | cons other restOthers =>
          intro ordering ordered
          have head := parts item List.mem_cons_self other
          apply compareItems_cons_eq_ok_iff.mpr
          rcases compareItems_cons_eq_ok_iff.mp ordered with ⟨same, tail⟩ | ⟨first, different⟩
          · refine Or.inl ⟨head .eq same, ?_⟩
            exact ih (fun part member => parts part (List.mem_cons_of_mem item member)) _ ordering tail
          · exact Or.inr ⟨head ordering first, different⟩

theorem compare_lenient (left right : Value) :
    ExtendedBy (strict.compare left right) (humane.compare left right) := by
  induction left using Value.inductionOnParts generalizing right with
  | leaf left leaf =>
      intro ordering ordered
      have apart := Value.Apart.of_leaf leaf right
      apply (compare_eq_ok_iff_of_apart apart).mpr
      exact ((compare_eq_ok_iff_of_apart apart).mp ordered).lenient
  | vector items parts =>
      intro ordering ordered
      obtain ⟨others, rfl⟩ := eq_vector_of_compare ordered
      exact compareItems_lenient parts others ordering ordered
  | object entries parts =>
      intro ordering ordered
      obtain ⟨others, rfl⟩ := eq_object_of_compare ordered
      obtain ⟨same, equal⟩ := compare_object_eq_ok_iff.mp ordered
      exact compare_object_eq_ok_iff.mpr ⟨same, equal_lenient _ _ true equal⟩

end HostValue.Mode
