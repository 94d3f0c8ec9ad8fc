import HostValue.Function.Yaml
import HostValue.Proofs.Value.Entries
import HostValue.Proofs.Value.Parts
import HostValue.Proofs.Yaml.Meaning
import HostValue.Proofs.Yaml.Tokens

/-!
# Reading back what was written as YAML

The text of plain data is read as a tree that means the data again: every string is found again in the
style that was chosen for it, and no string is taken for anything else.
-/

namespace HostValue.Yaml

/-! ### Trees -/

private theorem ofText?_write {tree : Tree} (writable : tree.Writable) :
    Node.ofText? (closeLine (tree.write .start 0)) = some tree.node := by
  rw [Node.ofText?, tokens?_write writable]
  exact Node.ofTokens?_tokens writable

private theorem readTree?_write {tree : Tree} {data : DataNode} {height : Nat}
    (writable : tree.Writable)
    (means : Means tree.node data height) :
    readTree? (closeLine (tree.write .start 0)) = if height ≤ maxDepth then some data else none := by
  obtain ⟨linked, link, read⟩ := means
  rw [readTree?, ofText?_write writable]
  simp only [Option.bind_eq_bind, Option.bind_some, link]
  change (Prod.fst) <$> (linked.toNode .empty maxDepth).run (followsPerMark * linked.size) = _
  rw [read]
  split
  · rfl
  · rfl

private theorem means_word (text : List Char) : Means (Tree.word text).node (plainMeaning text) 0 :=
  means_scalar rfl

private theorem means_text (text : List Char) :
    Means (textNode text) (.text (String.ofList text)) 0 := by
  have styled := styled_ofText text
  rw [textNode]
  generalize Style.ofText text = style at styled
  cases styled with
  | plain isText => exact means_scalar (congrArg some (plainMeaning_of_readsAsText isText))
  | singleQuoted => exact means_scalar rfl
  | doubleQuoted => exact means_scalar rfl
  | literal => exact means_scalar rfl

/-! ### Values -/

def Inverted (value : Value) : Prop :=
  ∃ tree data, Tree.ofValue value = .ok tree ∧ tree.Writable ∧
    Means tree.node data value.depth ∧ data.toValue = .ok value

/-- The text that is written for the value is decoded as the value again, if at most 128 collections
enclose one another in it, and is refused otherwise. -/
theorem Inverted.ofYaml?_toYaml {value : Value} (inverted : Inverted value) :
    ∃ text, value.toYaml = .ok text ∧
      Value.ofYaml? text = if value.depth ≤ maxDepth then some value else none := by
  obtain ⟨tree, data, written, writable, means, same⟩ := inverted
  refine ⟨String.ofList (closeLine (tree.write .start 0)), ?_, ?_⟩
  · rw [Value.toYaml, written]
  · rw [Value.ofYaml?, String.toList_ofList, readTree?_write writable means]
    by_cases shallow : value.depth ≤ maxDepth
    · rw [if_pos shallow, if_pos shallow]
      simp only [same]
    · rw [if_neg shallow, if_neg shallow]

private theorem inverted_word {value : Value} {text : List Char}
    (written : Tree.ofValue value = .ok (.word text)) (allowed : allowsPlain text = true)
    (leaf : value.depth = 0) (means : (plainMeaning text).toValue = .ok value) : Inverted value :=
  ⟨_, _, written, .word allowed, leaf ▸ means_word text, means⟩

theorem inverted_string (text : String) : Inverted (.string text) := by
  refine ⟨_, _, rfl, .string _, means_text _, ?_⟩
  rw [String.ofList_toList]
  rfl

private theorem itemTrees_inverted {items : List Value} (inverted : ∀ item ∈ items, Inverted item) :
    ∃ trees data, itemTrees items = .ok trees ∧ (∀ tree ∈ trees, tree.Writable) ∧
      ItemsMean (itemNodes trees) data (itemsDepth items) ∧ nodesToValues data = .ok items := by
  induction items with
  | nil => exact ⟨[], [], rfl, fun _ member => absurd member List.not_mem_nil, itemsMean_nil, rfl⟩
  | cons item rest ih =>
      obtain ⟨first, others⟩ := List.forall_mem_cons.mp inverted
      obtain ⟨tree, datum, written, writable, means, value⟩ := first
      obtain ⟨trees, data, restWritten, restWritable, restMeans, values⟩ := ih others
      refine ⟨tree :: trees, datum :: data, ?_, ?_, restMeans.cons means, ?_⟩
      · rw [itemTrees, written, restWritten]
      · exact List.forall_mem_cons.mpr ⟨writable, restWritable⟩
      · rw [nodesToValues, value, values]

private theorem entryTrees_inverted {entries : Entries}
    (inverted : ∀ key value, (key, value) ∈ entries → Inverted value) :
    ∃ trees data, entryTrees entries = .ok trees ∧ (∀ entry ∈ trees, entry.2.Writable) ∧
      EntriesMean (entryNodes trees) data (entriesDepth entries) ∧
      nodesToPairs data = .ok entries := by
  induction entries with
  | nil =>
      exact ⟨[], [], rfl, fun _ member => absurd member List.not_mem_nil, entriesMean_nil, rfl⟩
  | cons entry rest ih =>
      obtain ⟨key, value⟩ := entry
      obtain ⟨tree, datum, written, writable, means, valueMeans⟩ :=
        inverted key value List.mem_cons_self
      obtain ⟨trees, data, restWritten, restWritable, restMeans, pairs⟩ :=
        ih fun key value member => inverted key value (List.mem_cons_of_mem _ member)
      refine ⟨(key.toList, tree) :: trees, (.text key, datum) :: data, ?_, ?_, ?_, ?_⟩
      · rw [entryTrees, written, restWritten]
      · exact List.forall_mem_cons.mpr ⟨writable, restWritable⟩
      · have entryMeans := restMeans.cons (Style.ofText key.toList == .plain) key.toList means
        rw [String.ofList_toList] at entryMeans
        exact entryMeans
      · rw [nodesToPairs, DataNode.toText, valueMeans, pairs]

private theorem inverted_vector {items : List Value} (inverted : ∀ item ∈ items, Inverted item) :
    Inverted (.vector items) := by
  obtain ⟨trees, data, written, writable, means, values⟩ := itemTrees_inverted inverted
  refine ⟨.sequence trees, .sequence data, ?_, .sequence writable, means.sequence, ?_⟩
  · rw [Tree.ofValue, written]
  · rw [DataNode.toValue, values]

private theorem inverted_object {entries : Entries} (distinct : entries.Distinct)
    (inverted : ∀ key value, (key, value) ∈ entries → Inverted value) :
    Inverted (.object entries) := by
  obtain ⟨trees, data, written, writable, means, pairs⟩ := entryTrees_inverted inverted
  refine ⟨.mapping trees, .map data, ?_, .mapping writable, means.mapping, ?_⟩
  · rw [Tree.ofValue, written]
  · rw [DataNode.toValue, pairs]
    dsimp only
    rw [Entries.ofPairs_eq_self distinct]

theorem inverted {value : Value} (plain : value.Plain) (distinct : value.DistinctKeys) :
    Inverted value := by
  refine plain.induction ?null ?bool ?integer ?string ?vector ?object distinct
  case null => exact inverted_word rfl (by decide) rfl rfl
  case bool => exact fun flag => by cases flag <;> exact inverted_word rfl (by decide) rfl rfl
  case integer =>
    exact fun number =>
      inverted_word rfl (allowsPlain_renderInt _) rfl (toValue_plainMeaning_renderInt number)
  case string => exact inverted_string
  case vector => exact fun _ => inverted_vector
  case object => exact fun _ => inverted_object

end HostValue.Yaml
