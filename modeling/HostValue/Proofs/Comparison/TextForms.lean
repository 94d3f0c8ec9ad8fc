import HostValue.Proofs.Comparison.Agreement
import HostValue.Proofs.Text.ByteOrder

/-!
# Comparison through text forms

Two values of different types that cannot compare themselves are compared in the humane mode as their
texts are, byte by byte, unless both are hosted: hosted values are of one kind, and of two of them
with different types there is neither an order nor equality, whatever their texts.
-/

namespace HostValue

/-! ### Declined comparisons -/

/-- The value has no comparison of its own, or its comparison refuses the type of the other value. -/
def Value.Declines (own other : Value) : Prop :=
  match own with
  | .hosted _ payload =>
    ∀ outcome, payload.compareWith? other = some outcome →
      ∃ error, outcome = .error error ∧ error.isIncompatibleTypes = true
  | _ => True

private theorem Value.ownOrder_eq_none_iff {own other : Value} :
    own.ownOrder other = .ok none ↔ own.Declines other := by
  cases own with
  | hosted identity payload =>
      simp only [Value.ownOrder, Value.Declines]
      cases payload.compareWith? other with
      | none => simp
      | some outcome =>
          cases outcome with
          | ok ordering => simp
          | error error => cases refused : error.isIncompatibleTypes <;> simp [refused]
  | _ => exact iff_of_true rfl trivial

theorem compareThemselves_eq_none_iff {left right : Value} :
    compareThemselves left right = .ok none ↔ left.Declines right ∧ right.Declines left := by
  rw [compareThemselves_eq, ← Value.ownOrder_eq_none_iff, ← Value.ownOrder_eq_none_iff]
  cases left.ownOrder right with
  | error error => simp
  | ok answer =>
      cases answer with
      | some ordering => simp
      | none =>
          cases right.ownOrder left with
          | error error => simp
          | ok answer => cases answer <;> simp

/-! ### Kinds and types -/

private theorem Value.typeName_unhosted {value : Value} (unhosted : value.kind ≠ .hosted) :
    value.typeName = value.kind.name := by
  cases value with
  | hosted => exact absurd rfl unhosted
  | _ => rfl

private theorem sameDomain_of_types {left right : Value} (types : left.typeName ≠ right.typeName)
    (notNumbers : ¬(left.kind.isNumeric = true ∧ right.kind.isNumeric = true)) :
    sameDomain left right = decide (left.kind = .hosted ∧ right.kind = .hosted) := by
  have numbers : (left.kind.isNumeric && right.kind.isNumeric) = false := by
    rw [Bool.eq_false_iff, ne_eq, Bool.and_eq_true]
    exact notNumbers
  rw [sameDomain, numbers, Bool.or_false, Bool.beq_eq_decide_eq, decide_eq_decide]
  constructor
  · intro kinds
    by_cases hosted : left.kind = .hosted
    · exact ⟨hosted, by rw [← kinds, hosted]⟩
    · have rightUnhosted : right.kind ≠ .hosted := by rw [← kinds]; exact hosted
      refine absurd ?_ types
      rw [Value.typeName_unhosted hosted, Value.typeName_unhosted rightUnhosted, kinds]
  · intro hosted
    rw [hosted.1, hosted.2]

namespace Mode

variable {left right : Value}

/-! ### Hosted values -/

private theorem hosted_incompatible {mode : Mode} (silent : compareThemselves left right = .ok none)
    (leftHosted : left.kind = .hosted) (rightHosted : right.kind = .hosted)
    (types : left.typeName ≠ right.typeName) :
    mode.equal left right = .error (incompatible left right) ∧
      mode.compare left right = .error (incompatible left right) := by
  have apart : left.Apart right := Value.Apart.of_leaf (by rw [leftHosted]; rfl) right
  have domain : sameDomain left right = true := by
    rw [sameDomain, leftHosted, rightHosted]
    rfl
  rw [equal_apart apart, compare_apart apart, silent]
  simp only [domain, if_true]
  cases left with
  | hosted i a =>
      cases right with
      | hosted j b =>
          have payloads : a ≠ b := fun same => types (congrArg Payload.typeName same)
          exact ⟨if_neg types, if_neg fun same => payloads same.2⟩
      | _ => cases rightHosted
  | _ => cases leftHosted

/-! ### Texts -/

/-- The humane mode compares values of different types as their texts, when they are not both
numbers and neither compares itself with the other. Only two hosted values are incompatible
instead. -/
theorem humane_compares_texts {leftText rightText : String} (types : left.typeName ≠ right.typeName)
    (notNumbers : ¬(left.kind.isNumeric = true ∧ right.kind.isNumeric = true))
    (leftForm : humane.toText left = .ok leftText) (rightForm : humane.toText right = .ok rightText)
    (leftDeclines : left.Declines right) (rightDeclines : right.Declines left) :
    (¬(left.kind = .hosted ∧ right.kind = .hosted) →
        humane.equal left right = .ok (decide (leftText = rightText)) ∧
          humane.compare left right =
            .ok (Ord.compare (Text.bytes leftText) (Text.bytes rightText))) ∧
      (left.kind = .hosted ∧ right.kind = .hosted →
        humane.equal left right = .error (incompatible left right) ∧
          humane.compare left right = .error (incompatible left right)) := by
  have silent : compareThemselves left right = .ok none :=
    compareThemselves_eq_none_iff.mpr ⟨leftDeclines, rightDeclines⟩
  constructor
  · intro notHosted
    have apart : left.Apart right := by
      intro collection
      exact absurd leftForm (toText_collection humane collection leftText)
    have domain : sameDomain left right = false := by
      rw [sameDomain_of_types types notNumbers]
      exact decide_eq_false notHosted
    have unified : humane.unify left right = .ok (leftText, rightText) := by
      rw [unify, leftForm, rightForm]
    have ordered : humane.compare left right = .ok (Ord.compare leftText rightText) :=
      (compare_eq_ok_iff_of_apart apart).mpr (.unified silent domain unified)
    have answer : (Ord.compare leftText rightText == .eq) = decide (leftText = rightText) := by
      rw [Bool.beq_eq_decide_eq, decide_eq_decide]
      exact Std.compare_eq_iff_eq
    rw [← Text.compare_eq_compare_bytes, ← answer]
    exact ⟨equal_of_compare ordered, ordered⟩
  · intro hosted
    exact hosted_incompatible silent hosted.1 hosted.2 types

/-- A box that has no comparison meets a string with its text, and a version that refuses every
other type meets a number. -/
theorem humane_compares_texts_box_version :
    humane.equal (.hosted 0 (.box (.integer 7))) (.string "box:7") = .ok true ∧
      humane.compare (.integer 20) (.hosted 0 (.version ⟨1, 0, 0, [], []⟩)) = .ok .gt := by
  constructor
  · have declines := compareThemselves_eq_none_iff.mp
      (show compareThemselves (.hosted 0 (.box (.integer 7))) (.string "box:7") = .ok none by decide)
    have form : humane.toText (.hosted 0 (.box (.integer 7))) = .ok "box:7" := by decide
    exact ((humane_compares_texts (by decide) (by decide) form rfl declines.1 declines.2).1
      (by decide)).1
  · have declines := compareThemselves_eq_none_iff.mp
      (show compareThemselves (.integer 20) (.hosted 0 (.version ⟨1, 0, 0, [], []⟩)) = .ok none by
        decide)
    have texts : Ord.compare (Text.bytes "20") (Text.bytes "1.0.0") = .gt := by decide
    rw [← texts]
    exact ((humane_compares_texts (by decide) (by decide) (by decide) (by decide) declines.1
      declines.2).1 (by decide)).2

/-- A version and a tag with its text decline each other, and they are incompatible, not equal. -/
theorem humane_hosted_not_compared :
    ∃ left right : Value, left.typeName ≠ right.typeName ∧
      ¬(left.kind.isNumeric = true ∧ right.kind.isNumeric = true) ∧
      humane.toText left = .ok "1.0.0" ∧ humane.toText right = .ok "1.0.0" ∧
      left.Declines right ∧ right.Declines left ∧
      humane.equal left right = .error (.incompatibleTypes "semver" "tag") ∧
      humane.compare left right = .error (.incompatibleTypes "semver" "tag") := by
  refine ⟨.hosted 0 (.version ⟨1, 0, 0, [], []⟩), .hosted 1 (.tag "1.0.0"), by decide, by decide,
    by decide, by decide, ?_⟩
  rw [← and_assoc, ← compareThemselves_eq_none_iff]
  decide

end Mode

end HostValue
