import HostValue.Proofs.Outcome
import HostValue.Proofs.Value.Meaning

/-!
# Where data means nothing

The nodes of a tree in document order, and which of them no value answers. A tree is decoded as what
it means, or it fails with the first of those nodes.
-/

namespace HostValue

/-- A node where a tree comes to it: in the place of a value, or in that of a key. -/
inductive Visit where
  | value (node : DataNode)
  | key (node : DataNode)

mutual

/-- The nodes of a tree in document order: every node before its content, and every key before its
value. A key is a single node. -/
def DataNode.visits : DataNode → List Visit
  | .some content => .value (.some content) :: content.visits
  | .newtype content => .value (.newtype content) :: content.visits
  | .tagged tag content => .value (.tagged tag content) :: content.visits
  | .sequence items => .value (.sequence items) :: visitsOfItems items
  | .map entries => .value (.map entries) :: visitsOfEntries entries
  | node => [.value node]
termination_by structural node => node

def visitsOfItems : List DataNode → List Visit
  | [] => []
  | node :: rest => node.visits ++ visitsOfItems rest
termination_by structural nodes => nodes

def visitsOfEntries : List (DataNode × DataNode) → List Visit
  | [] => []
  | (keyNode, node) :: rest => .key keyNode :: (node.visits ++ visitsOfEntries rest)
termination_by structural entries => entries

end

namespace Visit

inductive Fails : Visit → DecodeError → Prop where
  | newtype (content : DataNode) :
      Fails (.value (.newtype content)) (.invalidType .newtype DataNode.anyValue)
  | wideSigned (number : Int) :
      Fails (.value (.wideSigned number)) (.invalidType (.wideSigned number) DataNode.anyValue)
  | wideUnsigned (number : Nat) :
      Fails (.value (.wideUnsigned number)) (.invalidType (.wideUnsigned number) DataNode.anyValue)
  | bytes (content : String) :
      Fails (.value (.bytes content)) (.invalidType .bytes DataNode.anyValue)
  | malformedBytes : Fails (.value .malformedBytes) (.invalidType .bytes DataNode.anyValue)
  | bareTag (tag : String) :
      Fails (.value (.bareTag tag)) (.invalidType .unitVariant "newtype variant")
  /-- Bytes could be a text, so these are of the right type. -/
  | malformedKey : Fails (.key .malformedBytes) (.invalidValue .bytes "a string")
  | key {node : DataNode} (noBytes : node ≠ .malformedBytes) (noText : ∀ text, ¬node.KeyText text) :
      Fails (.key node) (.invalidType node.unexpected "a string")

def Passes (visit : Visit) : Prop :=
  ∀ error, ¬visit.Fails error

theorem Fails.not_passes {visit : Visit} {error : DecodeError} (fails : visit.Fails error) :
    ¬visit.Passes :=
  fun passes => passes error fails

private theorem Fails.unique {visit : Visit} {error other : DecodeError} (fails : visit.Fails error)
    (failsEither : visit.Fails other) : error = other := by
  cases fails with
  | key noBytes =>
      cases failsEither with
      | malformedKey => exact absurd rfl noBytes
      | key => rfl
  | malformedKey =>
      cases failsEither with
      | malformedKey => rfl
      | key noBytes => exact absurd rfl noBytes
  | _ =>
      cases failsEither
      rfl

private theorem toText_eq_error_iff {node : DataNode} {error : DecodeError} :
    node.toText = .error error ↔ (Visit.key node).Fails error := by
  constructor
  · intro failed
    by_cases noBytes : node = .malformedBytes
    · rw [noBytes] at failed ⊢
      cases failed
      exact .malformedKey
    · have noText (text : String) : ¬node.KeyText text := by
        intro keyText
        rw [DataNode.toText_eq_ok_iff.mpr keyText] at failed
        cases failed
      have fails := Fails.key noBytes noText
      cases node with
      | char | text | bytes => cases failed
      | malformedBytes => exact absurd rfl noBytes
      | _ =>
          cases failed
          exact fails
  · intro fails
    cases fails with
    | malformedKey => rfl
    | key noBytes noText =>
        cases node with
        | char | text | bytes => exact absurd (by constructor) (noText _)
        | malformedBytes => exact absurd rfl noBytes
        | _ => rfl

end Visit

/-! ### The first node that is not answered -/

section Steps

variable {node keyNode : DataNode} {rest items : List DataNode}
  {nodes entries : List (DataNode × DataNode)}

private theorem DataNode.failure?_toValue_sequence :
    failure? (DataNode.sequence items).toValue = failure? (nodesToValues items) := by
  rw [DataNode.toValue]
  cases nodesToValues items <;> rfl

private theorem DataNode.failure?_toValue_map :
    failure? (DataNode.map entries).toValue = failure? (nodesToPairs entries) := by
  rw [DataNode.toValue]
  cases nodesToPairs entries <;> rfl

private theorem failure?_nodesToValues_cons :
    failure? (nodesToValues (node :: rest)) =
      (failure? node.toValue).or (failure? (nodesToValues rest)) := by
  rw [nodesToValues]
  cases node.toValue with
  | error error => rfl
  | ok value => cases nodesToValues rest <;> rfl

private theorem failure?_nodesToPairs_cons :
    failure? (nodesToPairs ((keyNode, node) :: nodes)) =
      (failure? keyNode.toText).or ((failure? node.toValue).or (failure? (nodesToPairs nodes))) := by
  rw [nodesToPairs]
  cases keyNode.toText with
  | error error => rfl
  | ok key =>
      cases node.toValue with
      | error error => rfl
      | ok value => cases nodesToPairs nodes <;> rfl

end Steps

abbrev FirstRefusal {α : Type} (visits : List Visit) (outcome : Except DecodeError α) : Prop :=
  FirstFailure Visit.Passes Visit.Fails visits (failure? outcome)

private theorem DataNode.toText_firstRefusal (node : DataNode) :
    FirstRefusal [.key node] node.toText := by
  cases made : node.toText with
  | error error => exact .here (Visit.toText_eq_error_iff.mp made) []
  | ok text =>
      refine .later (fun error fails => ?_) .nil
      rw [Visit.toText_eq_error_iff.mpr fails] at made
      cases made

mutual

theorem DataNode.toValue_firstRefusal (node : DataNode) :
    FirstRefusal node.visits node.toValue := by
  cases node with
  | none | unit | bool | signed | unsigned | single | double | char | text =>
      refine .later (fun _ fails => ?_) .nil
      cases fails
  | some content =>
      refine .later (fun _ fails => ?_) (DataNode.toValue_firstRefusal content)
      cases fails
  | tagged tag content =>
      refine .later (fun _ fails => ?_) (DataNode.toValue_firstRefusal content)
      cases fails
  | newtype content => exact .here (.newtype content) _
  | wideSigned number => exact .here (.wideSigned number) _
  | wideUnsigned number => exact .here (.wideUnsigned number) _
  | bytes content => exact .here (.bytes content) _
  | malformedBytes => exact .here .malformedBytes _
  | bareTag tag => exact .here (.bareTag tag) _
  | sequence items =>
      rw [FirstRefusal, DataNode.failure?_toValue_sequence]
      refine .later (fun _ fails => ?_) (nodesToValues_firstRefusal items)
      cases fails
  | map entries =>
      rw [FirstRefusal, DataNode.failure?_toValue_map]
      refine .later (fun _ fails => ?_) (nodesToPairs_firstRefusal entries)
      cases fails
termination_by structural node

theorem nodesToValues_firstRefusal (nodes : List DataNode) :
    FirstRefusal (visitsOfItems nodes) (nodesToValues nodes) := by
  cases nodes with
  | nil => exact .nil
  | cons node rest =>
      rw [FirstRefusal, failure?_nodesToValues_cons]
      exact (DataNode.toValue_firstRefusal node).append_or (nodesToValues_firstRefusal rest)
termination_by structural nodes

theorem nodesToPairs_firstRefusal (nodes : List (DataNode × DataNode)) :
    FirstRefusal (visitsOfEntries nodes) (nodesToPairs nodes) := by
  cases nodes with
  | nil => exact .nil
  | cons entry rest =>
      obtain ⟨keyNode, node⟩ := entry
      rw [FirstRefusal, failure?_nodesToPairs_cons]
      exact (DataNode.toText_firstRefusal keyNode).append_or
        ((DataNode.toValue_firstRefusal node).append_or (nodesToPairs_firstRefusal rest))
termination_by structural nodes

end

namespace DataNode

variable {node : DataNode} {error : DecodeError}

theorem toValue_eq_error_iff :
    node.toValue = .error error ↔
      ∃ before visit after, node.visits = before ++ visit :: after ∧
        (∀ earlier ∈ before, earlier.Passes) ∧ visit.Fails error := by
  have first := toValue_firstRefusal node
  constructor
  · intro failed
    rw [failed] at first
    exact FirstFailure.some_iff.mp first
  · intro parts
    have expected : FirstFailure Visit.Passes Visit.Fails node.visits (.some error) :=
      FirstFailure.some_iff.mpr parts
    exact failure?_eq_some_iff.mp (first.unique (fun _ _ fails => fails.not_passes)
      (fun _ _ _ fails failsEither => fails.unique failsEither) expected)

private theorem exists_error_iff_exists_fails :
    (∃ error, node.toValue = .error error) ↔ ∃ visit ∈ node.visits, ∃ error, visit.Fails error := by
  constructor
  · rintro ⟨error, failed⟩
    obtain ⟨before, visit, after, split, -, fails⟩ := toValue_eq_error_iff.mp failed
    rw [split]
    exact ⟨visit, List.mem_append_right before List.mem_cons_self, error, fails⟩
  · rintro ⟨visit, member, error, fails⟩
    have first := toValue_firstRefusal node
    cases outcome : node.toValue with
    | error other => exact ⟨other, rfl⟩
    | ok value =>
        rw [outcome] at first
        exact absurd (first.passes_of_none member) fails.not_passes

/-! ### Main statement -/

/-- A tree is decoded as the value that it means, in which nothing is hosted. It fails if a node is not
answered, with the error of the first such node in document order, and not otherwise. -/
theorem toValue_meaning (node : DataNode) :
    (∀ value, node.toValue = .ok value ↔ node.Means value) ∧
      (∀ error, node.toValue = .error error ↔
        ∃ before visit after, node.visits = before ++ visit :: after ∧
          (∀ earlier ∈ before, earlier.Passes) ∧ visit.Fails error) ∧
      ((∃ error, node.toValue = .error error) ↔
        ∃ visit ∈ node.visits, ∃ error, visit.Fails error) ∧
      ∀ value, node.toValue = .ok value → value.HostFree :=
  ⟨fun _ => toValue_eq_ok_iff node, fun _ => toValue_eq_error_iff, exists_error_iff_exists_fails,
    fun _ decoded => toValue_hostFree node decoded⟩

/-- A key that comes twice stands where it first came and has what came last, and a key that is no
text is met before the value behind it and before all that follows its map. -/
theorem toValue_meaning_repeated_key :
    (map [(text "b", unsigned 9223372036854775808), (bytes "a", some (bool true)),
          (char 'b', tagged "t" unit)]).Means (.object [("b", .null), ("a", .bool true)]) ∧
      (Value.object [("b", .null), ("a", .bool true)]).HostFree ∧
      (∃ before visit after,
        (sequence [map [(text "k", none), (some none, bytes "x")], wideSigned 5]).visits =
            before ++ visit :: after ∧
          (∀ earlier ∈ before, earlier.Passes) ∧
          visit.Fails (.invalidType .option "a string")) := by
  obtain ⟨meaning, -, -, hostFree⟩ := toValue_meaning
    (map [(text "b", unsigned 9223372036854775808), (bytes "a", some (bool true)),
      (char 'b', tagged "t" unit)])
  obtain ⟨-, failure, -⟩ := toValue_meaning
    (sequence [map [(text "k", none), (some none, bytes "x")], wideSigned 5])
  have decoded :
      (map [(text "b", unsigned 9223372036854775808), (bytes "a", some (bool true)),
        (char 'b', tagged "t" unit)]).toValue =
        .ok (.object [("b", .null), ("a", .bool true)]) := rfl
  exact ⟨(meaning _).mp decoded, hostFree _ decoded, (failure _).mp rfl⟩

end DataNode

end HostValue
