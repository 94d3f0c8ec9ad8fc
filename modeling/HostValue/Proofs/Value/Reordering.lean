import HostValue.Proofs.Value.Parts
import Mathlib.Data.List.Forall2
import Mathlib.Logic.Relation

/-!
# Reordering of keys

Two values that differ only in the order in which their objects hold their entries, at any depth.
One step puts the entries of one object into another order. Many steps rearrange a vector item by
item, and an object entry by entry under the same keys.
-/

namespace HostValue

/-- One object inside the first value holds its entries in another order in the second one. -/
inductive Value.Reordered : Value → Value → Prop where
  | object {entries others : Entries} (permuted : entries.Perm others) :
      Reordered (.object entries) (.object others)
  | item (before after : List Value) {item other : Value} (reordered : Reordered item other) :
      Reordered (.vector (before ++ item :: after)) (.vector (before ++ other :: after))
  | entry (before after : Entries) (key : String) {value other : Value}
      (reordered : Reordered value other) :
      Reordered (.object (before ++ (key, value) :: after)) (.object (before ++ (key, other) :: after))

abbrev Value.Reorders : Value → Value → Prop :=
  Relation.ReflTransGen Value.Reordered

/-- Two objects have the same keys, and reordered values under them. -/
structure Entries.Reorders (entries others : Entries) : Prop where
  keys : (Entries.keys entries).Perm (Entries.keys others)
  forth : ∀ key value, (key, value) ∈ entries → ∃ other, (key, other) ∈ others ∧ value.Reorders other
  back : ∀ key other, (key, other) ∈ others → ∃ value, (key, value) ∈ entries ∧ value.Reorders other

/-! ### Kinds -/

private theorem Value.Reordered.kind {value other : Value} (reordered : value.Reordered other) :
    other.kind = value.kind := by
  cases reordered with
  | object | item | entry => rfl

theorem Value.Reorders.kind {value other : Value} (reorders : value.Reorders other) :
    other.kind = value.kind := by
  induction reorders with
  | refl => rfl
  | tail _ step ih => rw [step.kind, ih]

theorem Value.Reorders.leaf {value other : Value} (leaf : value.kind.isCollection = false)
    (reorders : value.Reorders other) : other = value := by
  induction reorders with
  | refl => rfl
  | tail _ step ih =>
      rw [ih] at step
      cases step with
      | object | item | entry => cases leaf

/-! ### Vectors -/

theorem reorders_items_refl (items : List Value) : List.Forall₂ Value.Reorders items items :=
  List.forall₂_same.mpr fun _ _ => .refl

private theorem reorders_items_trans {items middles others : List Value}
    (first : List.Forall₂ Value.Reorders items middles)
    (second : List.Forall₂ Value.Reorders middles others) :
    List.Forall₂ Value.Reorders items others := by
  induction first generalizing others with
  | nil => cases second; exact .nil
  | cons head _ ih =>
      cases second with
      | cons next rest => exact .cons (head.trans next) (ih rest)

private theorem reorders_items_set (before after : List Value) {item other : Value}
    (reorders : item.Reorders other) :
    List.Forall₂ Value.Reorders (before ++ item :: after) (before ++ other :: after) := by
  induction before with
  | nil => exact .cons reorders (reorders_items_refl after)
  | cons first rest ih => exact .cons .refl ih

theorem Value.Reorders.vector {items : List Value} {other : Value}
    (reorders : (Value.vector items).Reorders other) :
    ∃ others, other = .vector others ∧ List.Forall₂ Value.Reorders items others := by
  induction reorders with
  | refl => exact ⟨items, rfl, reorders_items_refl items⟩
  | tail _ step ih =>
      obtain ⟨middles, rfl, soFar⟩ := ih
      cases step with
      | item before after reordered =>
          exact ⟨_, rfl, reorders_items_trans soFar (reorders_items_set before after (.single reordered))⟩

private theorem Value.Reorders.at_item (before after : List Value) {item other : Value}
    (reorders : item.Reorders other) :
    (Value.vector (before ++ item :: after)).Reorders (.vector (before ++ other :: after)) := by
  induction reorders with
  | refl => exact .refl
  | tail _ step ih => exact ih.tail (.item before after step)

theorem Value.Reorders.of_items (before : List Value) {items others : List Value}
    (parts : List.Forall₂ Value.Reorders items others) :
    (Value.vector (before ++ items)).Reorders (.vector (before ++ others)) := by
  induction parts generalizing before with
  | nil => exact .refl
  | @cons item other rest restOthers head _ ih =>
      have first := Value.Reorders.at_item before rest head
      have later := ih (before ++ [other])
      rw [List.append_assoc, List.append_assoc] at later
      exact first.trans later

/-! ### Objects -/

namespace Entries.Reorders

private theorem refl (entries : Entries) : Entries.Reorders entries entries where
  keys := .refl _
  forth := fun _ value present => ⟨value, present, .refl⟩
  back := fun _ other present => ⟨other, present, .refl⟩

private theorem trans {entries middles others : Entries} (first : Entries.Reorders entries middles)
    (second : Entries.Reorders middles others) : Entries.Reorders entries others where
  keys := first.keys.trans second.keys
  forth := by
    intro key value present
    obtain ⟨middle, middlePresent, toMiddle⟩ := first.forth key value present
    obtain ⟨other, otherPresent, toOther⟩ := second.forth key middle middlePresent
    exact ⟨other, otherPresent, toMiddle.trans toOther⟩
  back := by
    intro key other present
    obtain ⟨middle, middlePresent, toOther⟩ := second.back key other present
    obtain ⟨value, valuePresent, toMiddle⟩ := first.back key middle middlePresent
    exact ⟨value, valuePresent, toMiddle.trans toOther⟩

private theorem of_perm {entries others : Entries} (permuted : entries.Perm others) :
    Entries.Reorders entries others where
  keys := permuted.map Prod.fst
  forth := fun _ value present => ⟨value, permuted.mem_iff.mp present, .refl⟩
  back := fun _ other present => ⟨other, permuted.mem_iff.mpr present, .refl⟩

theorem set (before after : Entries) (key : String) {value other : Value}
    (reorders : value.Reorders other) :
    Entries.Reorders (before ++ (key, value) :: after) (before ++ (key, other) :: after) where
  keys := by
    unfold Entries.keys
    rw [List.map_append, List.map_append]
    exact .refl _
  forth := by
    intro name part present
    rcases List.mem_append.mp present with inBefore | fromHere
    · exact ⟨part, List.mem_append_left _ inBefore, .refl⟩
    · rcases List.mem_cons.mp fromHere with here | inAfter
      · cases here
        exact ⟨other, List.mem_append_right _ List.mem_cons_self, reorders⟩
      · exact ⟨part, List.mem_append_right _ (List.mem_cons_of_mem _ inAfter), .refl⟩
  back := by
    intro name part present
    rcases List.mem_append.mp present with inBefore | fromHere
    · exact ⟨part, List.mem_append_left _ inBefore, .refl⟩
    · rcases List.mem_cons.mp fromHere with here | inAfter
      · cases here
        exact ⟨value, List.mem_append_right _ List.mem_cons_self, reorders⟩
      · exact ⟨part, List.mem_append_right _ (List.mem_cons_of_mem _ inAfter), .refl⟩

theorem keys_subset_iff {entries entries' others others' : Entries}
    (entriesReorder : Entries.Reorders entries entries')
    (othersReorder : Entries.Reorders others others') :
    Entries.keys entries' ⊆ Entries.keys others' ↔ Entries.keys entries ⊆ Entries.keys others := by
  rw [entriesReorder.keys.symm.subset_congr_left, othersReorder.keys.symm.subset_congr_right]

theorem length_eq {entries others : Entries} (reorders : Entries.Reorders entries others) :
    others.length = entries.length := by
  rw [← Entries.length_keys others, ← Entries.length_keys entries, reorders.keys.length_eq]

theorem distinct {entries others : Entries} (reorders : Entries.Reorders entries others)
    (distinct : Entries.Distinct entries) : Entries.Distinct others :=
  reorders.keys.nodup distinct

end Entries.Reorders

theorem Value.Reorders.object {entries : Entries} {other : Value}
    (reorders : (Value.object entries).Reorders other) :
    ∃ others, other = .object others ∧ Entries.Reorders entries others := by
  induction reorders with
  | refl => exact ⟨entries, rfl, .refl entries⟩
  | tail _ step ih =>
      obtain ⟨middles, rfl, soFar⟩ := ih
      cases step with
      | object permuted => exact ⟨_, rfl, soFar.trans (.of_perm permuted)⟩
      | entry before after key reordered =>
          exact ⟨_, rfl, soFar.trans (.set before after key (.single reordered))⟩

theorem Value.Reorders.at_entry (before after : Entries) (key : String) {value other : Value}
    (reorders : value.Reorders other) :
    (Value.object (before ++ (key, value) :: after)).Reorders
      (.object (before ++ (key, other) :: after)) := by
  induction reorders with
  | refl => exact .refl
  | tail _ step ih => exact ih.tail (.entry before after key step)

end HostValue
