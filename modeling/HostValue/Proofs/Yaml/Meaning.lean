import HostValue.Proofs.Outcome
import HostValue.Proofs.Yaml.Nodes
import HostValue.Proofs.Yaml.Scalar.Words
import HostValue.Yaml.Reader

/-!
# What nodes without anchors mean

A node without anchors and aliases stays as it is when it is linked and follows no alias. It means
something where collections may lie as deep as its own, and nowhere else.
-/

namespace HostValue.Yaml

/-! ### Steps of the reader -/

section Steps

variable (anchors : Anchors) (depth : Nat)

-- The definition is by recursion on the depth, which the match on the followed node hides.
private theorem toNode_scalar (tag : Option (List Char)) (isPlain : Bool) (text : List Char) :
    (Linked.scalar tag isPlain text).toNode anchors depth =
      liftM (scalarMeaning tag isPlain text) := by
  funext follows
  delta Linked.toNode
  cases depth <;> rfl

private theorem toNode_sequence (items : List Linked) :
    (Linked.sequence items).toNode anchors (depth + 1) =
      (do return .sequence (← items.mapM fun item => item.toNode anchors depth)) := by
  funext follows
  delta Linked.toNode
  rfl

private theorem toNode_sequence_zero (items : List Linked) :
    (Linked.sequence items).toNode anchors 0 = failure := by
  funext follows
  delta Linked.toNode
  rfl

def toPair (entry : Linked × Linked) : Following (DataNode × DataNode) := do
  return (← entry.1.toKey anchors, ← entry.2.toNode anchors depth)

private theorem toNode_mapping (entries : List (Linked × Linked)) :
    (Linked.mapping entries).toNode anchors (depth + 1) =
      (do return .map (← entries.mapM (toPair anchors depth))) := by
  funext follows
  delta toPair Linked.toNode
  rfl

private theorem toNode_mapping_zero (entries : List (Linked × Linked)) :
    (Linked.mapping entries).toNode anchors 0 = failure := by
  funext follows
  delta Linked.toNode
  rfl

end Steps

/-! ### Meanings -/

/-- The node means the data where collections may lie as deep as the height, and nothing elsewhere. -/
def Means (node : Node) (data : DataNode) (height : Nat) : Prop :=
  ∃ linked, (∀ anchors, node.link anchors = some (linked, anchors)) ∧
    ∀ anchors depth follows, (linked.toNode anchors depth).run follows =
      if height ≤ depth then some (data, follows) else none

def ItemsMean (nodes : List Node) (data : List DataNode) (height : Nat) : Prop :=
  ∃ linked, (∀ anchors, linkItems anchors nodes = some (linked, anchors)) ∧
    ∀ anchors depth follows, (linked.mapM fun item => Linked.toNode anchors depth item).run follows =
      if height ≤ depth then some (data, follows) else none

def EntriesMean (nodes : List (Node × Node)) (data : List (DataNode × DataNode)) (height : Nat) :
    Prop :=
  ∃ linked, (∀ anchors, linkEntries anchors nodes = some (linked, anchors)) ∧
    ∀ anchors depth follows, (linked.mapM (toPair anchors depth)).run follows =
      if height ≤ depth then some (data, follows) else none

theorem means_scalar {isPlain : Bool} {text : List Char} {data : DataNode}
    (meaning : scalarMeaning none isPlain text = some data) :
    Means (.scalar none none isPlain text) data 0 := by
  refine ⟨.scalar none isPlain text, fun _ => rfl, fun anchors depth follows => ?_⟩
  rw [toNode_scalar, meaning, if_pos (Nat.zero_le depth)]
  rfl

section Items

variable {nodes : List Node} {data : List DataNode} {height others : Nat}

theorem itemsMean_nil : ItemsMean [] [] 0 :=
  ⟨[], fun _ => rfl, fun _ depth _ => (if_pos (Nat.zero_le depth)).symm⟩

theorem ItemsMean.cons {node : Node} {datum : DataNode} (more : ItemsMean nodes data others)
    (item : Means node datum height) :
    ItemsMean (node :: nodes) (datum :: data) (max height others) := by
  obtain ⟨linked, link, read⟩ := item
  obtain ⟨rest, linkRest, readRest⟩ := more
  refine ⟨linked :: rest, fun anchors => ?_, fun anchors depth follows => ?_⟩
  · rw [linkItems, link anchors]
    dsimp only
    rw [linkRest anchors]
  · rw [List.mapM_cons, StateT.run_bind, read anchors depth follows]
    apply bind_within
    dsimp only
    rw [StateT.run_bind, readRest anchors depth follows]
    split
    · rfl
    · rfl

theorem ItemsMean.sequence (items : ItemsMean nodes data height) :
    Means (.sequence none nodes) (.sequence data) (height + 1) := by
  obtain ⟨linked, link, read⟩ := items
  refine ⟨.sequence linked, fun anchors => ?_, fun anchors depth follows => ?_⟩
  · rw [Node.link, link]
    rfl
  · cases depth with
    | zero =>
        rw [toNode_sequence_zero]
        rfl
    | succ depth =>
        rw [toNode_sequence, StateT.run_bind, read anchors depth follows]
        simp only [Nat.add_le_add_iff_right]
        split
        · rfl
        · rfl

end Items

section Entries

variable {nodes : List (Node × Node)} {data : List (DataNode × DataNode)} {height others : Nat}

theorem entriesMean_nil : EntriesMean [] [] 0 :=
  ⟨[], fun _ => rfl, fun _ depth _ => (if_pos (Nat.zero_le depth)).symm⟩

theorem EntriesMean.cons {node : Node} {datum : DataNode} (more : EntriesMean nodes data others)
    (isPlain : Bool) (key : List Char) (value : Means node datum height) :
    EntriesMean ((.scalar none none isPlain key, node) :: nodes)
      ((.text (String.ofList key), datum) :: data) (max height others) := by
  obtain ⟨linked, link, read⟩ := value
  obtain ⟨rest, linkRest, readRest⟩ := more
  refine ⟨(.scalar none isPlain key, linked) :: rest, fun anchors => ?_,
    fun anchors depth follows => ?_⟩
  · have keyLink : Node.link anchors (.scalar none none isPlain key) =
        some (.scalar none isPlain key, anchors) := rfl
    rw [linkEntries, keyLink]
    dsimp only
    rw [link anchors]
    dsimp only
    rw [linkRest anchors]
  · have pair :
        (toPair anchors depth (.scalar none isPlain key, linked)).run follows =
          if height ≤ depth then some ((.text (String.ofList key), datum), follows) else none := by
      change StateT.run
        (do return (DataNode.text (String.ofList key), ← linked.toNode anchors depth)) follows = _
      rw [StateT.run_bind, read anchors depth follows]
      split
      · rfl
      · rfl
    rw [List.mapM_cons, StateT.run_bind, pair]
    apply bind_within
    dsimp only
    rw [StateT.run_bind, readRest anchors depth follows]
    split
    · rfl
    · rfl

theorem EntriesMean.mapping (entries : EntriesMean nodes data height) :
    Means (.mapping none nodes) (.map data) (height + 1) := by
  obtain ⟨linked, link, read⟩ := entries
  refine ⟨.mapping linked, fun anchors => ?_, fun anchors depth follows => ?_⟩
  · rw [Node.link, link]
    rfl
  · cases depth with
    | zero =>
        rw [toNode_mapping_zero]
        rfl
    | succ depth =>
        rw [toNode_mapping, StateT.run_bind, read anchors depth follows]
        simp only [Nat.add_le_add_iff_right]
        split
        · rfl
        · rfl

end Entries

end HostValue.Yaml
