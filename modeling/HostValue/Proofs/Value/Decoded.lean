import HostValue.DataModel
import HostValue.Proofs.Value.Gathering
import HostValue.Proofs.Value.Parts

/-!
# Decoded values

Data makes scalars, vectors, and objects whose entries are put one after the other, each from the
values of its parts. So values that come from data hold every key once in every object, also where
the data repeats a key, and nothing in them is hosted.
-/

namespace HostValue

/-! ### Steps of decoding -/

section Steps

variable {node keyNode : DataNode} {rest items : List DataNode}
  {nodes entries : List (DataNode × DataNode)}

theorem DataNode.toValue_sequence_eq_ok_iff {value : Value} :
    (DataNode.sequence items).toValue = .ok value ↔
      ∃ values, nodesToValues items = .ok values ∧ value = .vector values := by
  rw [DataNode.toValue]
  cases nodesToValues items with
  | error error => simp
  | ok values => simp [eq_comm]

theorem DataNode.toValue_map_eq_ok_iff {value : Value} :
    (DataNode.map entries).toValue = .ok value ↔
      ∃ pairs, nodesToPairs entries = .ok pairs ∧ value = .object (Entries.ofPairs pairs) := by
  rw [DataNode.toValue]
  cases nodesToPairs entries with
  | error error => simp
  | ok pairs => simp [eq_comm]

theorem nodesToValues_cons_eq_ok_iff {values : List Value} :
    nodesToValues (node :: rest) = .ok values ↔
      ∃ first others, node.toValue = .ok first ∧ nodesToValues rest = .ok others ∧
        values = first :: others := by
  rw [nodesToValues]
  cases node.toValue with
  | error error => simp
  | ok first =>
      cases nodesToValues rest with
      | error error => simp
      | ok others => simp [eq_comm]

theorem nodesToPairs_cons_eq_ok_iff {pairs : List (String × Value)} :
    nodesToPairs ((keyNode, node) :: nodes) = .ok pairs ↔
      ∃ key first others, keyNode.toText = .ok key ∧ node.toValue = .ok first ∧
        nodesToPairs nodes = .ok others ∧ pairs = (key, first) :: others := by
  rw [nodesToPairs]
  cases keyNode.toText with
  | error error => simp
  | ok key =>
      cases node.toValue with
      | error error => simp
      | ok first =>
          cases nodesToPairs nodes with
          | error error => simp
          | ok others => simp [eq_comm]

end Steps

/-! ### What all decoded values have -/

namespace Value

structure Ordinary (holds : Value → Prop) : Prop where
  scalar : ∀ value : Value, value.kind.isScalar = true → holds value
  vector : ∀ items : List Value, holds (.vector items)
  object : ∀ entries : Entries, entries.Distinct → holds (.object entries)

private theorem Ordinary.everywhere {holds : Value → Prop} (ordinary : Ordinary holds)
    {value : Value}
    (scalar : value.kind.isScalar = true) : value.Everywhere holds := by
  have leaf : value.kind.isCollection = false := by
    cases collection : value.kind.isCollection with
    | false => rfl
    | true =>
        rw [Kind.isScalar, collection] at scalar
        cases scalar
  exact (everywhere_leaf_iff leaf).mpr (ordinary.scalar value scalar)

end Value

section Everywhere

variable {holds : Value → Prop}

mutual

theorem DataNode.toValue_everywhere (ordinary : Value.Ordinary holds) (node : DataNode)
    {value : Value} (decoded : node.toValue = .ok value) : value.Everywhere holds := by
  cases node with
  | none | unit | bool | signed | single | double | char | text =>
      cases decoded
      exact ordinary.everywhere rfl
  | unsigned =>
      cases decoded
      refine ordinary.everywhere ?_
      split <;> rfl
  | some content => exact DataNode.toValue_everywhere ordinary content decoded
  | tagged _ content => exact DataNode.toValue_everywhere ordinary content decoded
  | newtype | wideSigned | wideUnsigned | bytes | malformedBytes | bareTag => cases decoded
  | sequence items =>
      obtain ⟨values, valuesDecoded, rfl⟩ := DataNode.toValue_sequence_eq_ok_iff.mp decoded
      exact Value.everywhere_vector_iff.mpr
        ⟨ordinary.vector values, nodesToValues_everywhere ordinary items valuesDecoded⟩
  | map entries =>
      obtain ⟨pairs, pairsDecoded, rfl⟩ := DataNode.toValue_map_eq_ok_iff.mp decoded
      refine Value.everywhere_object_iff.mpr
        ⟨ordinary.object _ (Entries.ofPairs_distinct pairs), fun entry member => ?_⟩
      exact nodesToPairs_everywhere ordinary entries pairsDecoded entry
        (Entries.mem_of_mem_ofPairs member)
termination_by structural node

theorem nodesToValues_everywhere (ordinary : Value.Ordinary holds) (nodes : List DataNode)
    {values : List Value} (decoded : nodesToValues nodes = .ok values) :
    ∀ value ∈ values, value.Everywhere holds := by
  cases nodes with
  | nil =>
      cases decoded
      exact fun _ member => absurd member List.not_mem_nil
  | cons node rest =>
      obtain ⟨first, others, firstDecoded, othersDecoded, rfl⟩ :=
        nodesToValues_cons_eq_ok_iff.mp decoded
      exact List.forall_mem_cons.mpr
        ⟨DataNode.toValue_everywhere ordinary node firstDecoded,
          nodesToValues_everywhere ordinary rest othersDecoded⟩
termination_by structural nodes

theorem nodesToPairs_everywhere (ordinary : Value.Ordinary holds)
    (nodes : List (DataNode × DataNode)) {pairs : List (String × Value)}
    (decoded : nodesToPairs nodes = .ok pairs) :
    ∀ pair ∈ pairs, pair.2.Everywhere holds := by
  cases nodes with
  | nil =>
      cases decoded
      exact fun _ member => absurd member List.not_mem_nil
  | cons entry rest =>
      obtain ⟨keyNode, node⟩ := entry
      obtain ⟨key, first, others, -, firstDecoded, othersDecoded, rfl⟩ :=
        nodesToPairs_cons_eq_ok_iff.mp decoded
      exact List.forall_mem_cons.mpr
        ⟨DataNode.toValue_everywhere ordinary node firstDecoded,
          nodesToPairs_everywhere ordinary rest othersDecoded⟩
termination_by structural nodes

end

end Everywhere

namespace DataNode

variable (node : DataNode) {value : Value} (decoded : node.toValue = .ok value)

include decoded

theorem toValue_distinctKeys : value.DistinctKeys := by
  refine toValue_everywhere ⟨fun value scalar => ?_, fun _ => trivial, fun _ distinct => distinct⟩
    node decoded
  cases value with
  | vector | object => cases scalar
  | _ => trivial

theorem toValue_hostFree : value.HostFree := by
  refine toValue_everywhere ⟨fun value scalar hosted => ?_, fun _ => nofun, fun _ _ => nofun⟩
    node decoded
  rw [hosted] at scalar
  cases scalar

end DataNode

end HostValue
