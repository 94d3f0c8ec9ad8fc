import HostValue.Proofs.Yaml.Keys
import HostValue.Proofs.Yaml.Tree

/-!
# Reading the tokens of a tree

What is written of a tree is read as the tokens of the tree, wherever it stands. The lines of a block are
read one after the other, of which the first opens the block, and what stands behind the block closes it.
-/

namespace HostValue.Yaml.Layout

/-! ### Lines of a block -/

/-- The text is read as the tokens where it stands in a block, which it opens if need be, up to the end of
its last line. -/
structure BlockRead (token : Token) (column : Nat) (outer : List Nat) (text : List Char)
    (read : List Token) : Prop where
  starts : ∃ c others, text = c :: others ∧ StartsToken c
  yields {line spaces : Nat} {blocks : List Nat} {rest : List Char} {tokens opened result : List Token}
    (opening : Opening token column blocks tokens outer opened)
    (continues : Continues (column :: outer) spaces rest)
    (yields : ∀ line, (facing true line spaces rest (read.reverse ++ opened) (column :: outer)).Yields
      result) :
    (facing true line column (closeLine text ++ (List.replicate spaces ' ' ++ rest)) tokens
      blocks).Yields result

section Blocks

variable {token : Token} {column : Nat} {outer : List Nat} {text more : List Char}
  {read others : List Token}

theorem BlockRead.ne_nil (block : BlockRead token column outer text read) : text ≠ [] := by
  obtain ⟨c, rest, rfl, -⟩ := block.starts
  exact List.cons_ne_nil c rest

theorem BlockRead.atToken (block : BlockRead token column outer text read) (rest : List Char) :
    AtToken (closeLine text ++ rest) := by
  obtain ⟨c, others, rfl, starts⟩ := block.starts
  rw [closeLine_cons starts.noBreak]
  exact atToken_cons starts _

theorem BlockRead.cons (first : BlockRead token column outer text read)
    (second : BlockRead token column outer more others) :
    BlockRead token column outer (closeLine text ++ List.replicate column ' ' ++ more)
      (read ++ others) where
  starts := by
    obtain ⟨c, rest, rfl, starts⟩ := first.starts
    rw [closeLine_cons starts.noBreak]
    exact ⟨c, _, rfl, starts⟩
  yields {line spaces blocks rest tokens opened result} opening continues yields := by
    rw [closeLine_append _ second.ne_nil, List.append_assoc, List.append_assoc]
    refine first.yields opening ⟨second.atToken _, Nat.le_refl column, fun none => by cases none⟩
      fun line => second.yields .already continues fun line => ?_
    rw [← List.append_assoc, ← List.reverse_append]
    exact yields line

theorem BlockRead.own {line spaces : Nat} {blocks : List Nat} {rest : List Char}
    {tokens result : List Token} (block : BlockRead token column blocks text read)
    (deeper : Deeper column blocks) (continues : Continues blocks spaces rest)
    (yields : ∀ line, (facing true line spaces rest
      ((token :: (read ++ [.blockEnd])).reverse ++ tokens) blocks).Yields result) :
    (facing true line column (closeLine text ++ (List.replicate spaces ' ' ++ rest)) tokens
      blocks).Yields result := by
  refine block.yields (.anew deeper) ⟨continues.atToken, continues.le deeper, fun none => by cases none⟩
    fun line => ?_
  have ended := yields line
  simp only [List.reverse_cons, List.reverse_append, List.reverse_nil, List.nil_append,
    List.append_assoc, List.singleton_append] at ended
  exact ended.close continues.atToken (continues.lt deeper)

end Blocks

/-! ### Where trees stand -/

/-- Where a tree is written, in the state that its reader is in there. -/
inductive Stands : Tree.Place → Bool → Nat → List Nat → Prop where
  | start : Stands .start true 0 []
  | mark {block : Nat} {outer : List Nat} : Stands .mark true (block + 1) (block :: outer)
  | key {block column : Nat} {outer : List Nat} (inside : block < column) :
      Stands .key false column (block :: outer)

theorem Stands.deeper {place : Tree.Place} {allowsKey : Bool} {column : Nat} {blocks : List Nat}
    (stands : Stands place allowsKey column blocks) : Deeper column blocks := by
  cases stands with
  | start => exact fun _ none => by cases none
  | mark => exact deeper_cons (Nat.lt_succ_self _)
  | key inside => exact deeper_cons inside

/-- What is written of the tree is read as its tokens, wherever the tree stands. -/
def Reads (tree : Tree) : Prop :=
  ∀ {place : Tree.Place} {allowsKey : Bool} {line column spaces : Nat} {blocks : List Nat}
    {rest : List Char} {tokens result : List Token},
    Stands place allowsKey column blocks → Continues blocks spaces rest →
    (∀ line, (facing true line spaces rest ((tree.tokens place).reverse ++ tokens) blocks).Yields
      result) →
    (facing allowsKey line column
      (closeLine (tree.write place (blocks.head?.getD 0)) ++ (List.replicate spaces ' ' ++ rest))
      tokens blocks).Yields result

theorem Yields.behindSpace {place : Tree.Place} {allowsKey : Bool} {line column : Nat}
    {blocks : List Nat} {text rest : List Char} {tokens result : List Token}
    (stands : Stands place allowsKey column blocks)
    (yields : ∀ column, Deeper column blocks →
      (facing allowsKey line column (closeLine text ++ rest) tokens blocks).Yields result) :
    (facing allowsKey line column (closeLine (place.space ++ text) ++ rest) tokens blocks).Yields
      result := by
  have next : Deeper (column + 1) blocks := fun block first =>
    Nat.lt_succ_of_lt (stands.deeper block first)
  have space : closeLine ([' '] ++ text) ++ rest = ' ' :: (closeLine text ++ rest) :=
    congrArg (· ++ rest) (closeLine_cons rfl text)
  cases place with
  | start => exact yields column stands.deeper
  | mark | key =>
      change Yields (facing _ _ _ (closeLine ([' '] ++ text) ++ rest) _ _) _
      rw [space]
      exact (yields (column + 1) next).space

private theorem reads_word {text : List Char} (allowed : allowsPlain text = true) :
    Reads (.word text) :=
  fun stands continues yields => .behindSpace stands fun _ deeper =>
    .plainText allowed deeper continues (yields _)

private theorem reads_string (text : List Char) : Reads (.string text) :=
  fun stands continues yields => .behindSpace stands fun _ deeper =>
    .scalarLine rfl text deeper continues yields

/-! ### Items -/

private theorem blockRead_item {item : Tree} (reads : Reads item) (column : Nat)
    (outer : List Nat) :
    BlockRead .blockSequence column outer ('-' :: item.write .mark column)
      (.item :: item.tokens .mark) where
  starts := ⟨'-', _, rfl, rfl, rfl, by decide, by decide⟩
  yields {line spaces blocks rest tokens opened result} opening continues yields := by
    have inside :
        (facing true line (column + 1)
          (closeLine (item.write .mark column) ++ (List.replicate spaces ' ' ++ rest))
          (.item :: opened) (column :: outer)).Yields result := by
      refine reads .mark continues fun line => ?_
      simpa only [List.reverse_cons, List.append_assoc, List.singleton_append] using yields line
    obtain ⟨text, written⟩ := item.write_mark column
    rw [written, closeLine_cons rfl] at inside
    rw [closeLine_cons rfl, written, closeLine_cons rfl]
    exact .item opening inside

private theorem blockRead_items {items : List Tree} (nonempty : items ≠ [])
    (each : ∀ item ∈ items, Reads item) (column : Nat) (outer : List Nat) :
    BlockRead .blockSequence column outer (stackLines column (writeItems column items))
      (itemTokens items) := by
  induction items with
  | nil => exact absurd rfl nonempty
  | cons item rest ih =>
      obtain ⟨first, others⟩ := List.forall_mem_cons.mp each
      have line := blockRead_item first column outer
      cases rest with
      | nil =>
          have alone : itemTokens [item] = .item :: item.tokens .mark := by
            rw [itemTokens, itemTokens, List.append_nil]
          rw [alone]
          exact line
      | cons next more => exact line.cons (ih (List.cons_ne_nil next more) others)

/-! ### Entries -/

private theorem writeScalar_starts (indentation : Nat) (text : List Char) :
    ∃ c rest, writeScalar indentation text = c :: rest ∧ StartsToken c := by
  have styled := styled_ofText text
  rw [writeScalar]
  generalize Style.ofText text = style at styled
  cases styled with
  | plain isText allowed =>
      obtain ⟨c, rest, rfl, plain⟩ := exists_isPlain allowed
      exact ⟨c, rest, rfl, startsToken_of_isPlain plain⟩
  | singleQuoted => exact ⟨'\'', _, rfl, rfl, rfl, by decide, by decide⟩
  | doubleQuoted => exact ⟨'"', _, rfl, rfl, rfl, by decide, by decide⟩
  | literal => exact ⟨'|', _, rfl, rfl, rfl, by decide, by decide⟩

section Entries

variable {key : List Char} {value : Tree}

private theorem blockRead_simpleEntry (simple : isSimpleKey key = true) (reads : Reads value)
    (column : Nat)
    (outer : List Nat) :
    BlockRead .blockMapping column outer
      (writeScalar (column + indentationStep) key ++ ':' :: value.write .key column)
      (.key :: textToken key :: .value :: value.tokens .key) where
  starts := by
    obtain ⟨c, rest, written, starts⟩ := writeScalar_starts (column + indentationStep) key
    rw [written]
    exact ⟨c, _, rfl, starts⟩
  yields {line spaces blocks rest tokens opened result} opening continues yields := by
    have behind (next : Nat) (inside : column < next) :
        (facing false line next
          (closeLine (value.write .key column) ++ (List.replicate spaces ' ' ++ rest))
          (.value :: textToken key :: .key :: opened) (column :: outer)).Yields result := by
      refine reads (.key inside) continues fun line => ?_
      simpa only [List.reverse_cons, List.append_assoc, List.singleton_append, List.cons_append,
        List.nil_append] using yields line
    have ends :
        endsWord (closeLine (value.write .key column) ++ (List.replicate spaces ' ' ++ rest)) =
          true := by
      obtain ⟨c, text, written, ends⟩ := value.write_key column
      rw [written, closeLine_eq]
      exact ends
    rw [closeLine_append _ (List.cons_ne_nil _ _), closeLine_cons rfl, List.append_assoc,
      List.cons_append]
    exact .simpleKey (Nat.succ_pos _) opening simple ends
      (behind _ (Nat.lt_succ_of_le (Nat.le_add_right _ _)))

private theorem blockRead_longEntry (reads : Reads value) (column : Nat) (outer : List Nat) :
    BlockRead .blockMapping column outer
      (closeLine ('?' :: ' ' :: writeScalar (column + indentationStep) key) ++
        List.replicate column ' ' ++ ':' :: value.write .mark column)
      (.key :: textToken key :: .value :: value.tokens .mark) where
  starts := by
    rw [closeLine_cons rfl, List.cons_append, List.cons_append]
    exact ⟨'?', _, rfl, rfl, rfl, by decide, by decide⟩
  yields {line spaces blocks rest tokens opened result} opening continues yields := by
    have behind (line : Nat) :
        (facing true line (column + 1)
          (closeLine (value.write .mark column) ++ (List.replicate spaces ' ' ++ rest))
          (.value :: textToken key :: .key :: opened) (column :: outer)).Yields result := by
      refine reads .mark continues fun line => ?_
      simpa only [List.reverse_cons, List.append_assoc, List.singleton_append, List.cons_append,
        List.nil_append] using yields line
    have deeper : Deeper (column + 2) (column :: outer) := deeper_cons (by omega)
    have colon (text : List Char) : Continues (column :: outer) column (':' :: text) :=
      ⟨atToken_cons ⟨rfl, rfl, by decide, by decide⟩ text, Nat.le_refl column,
        fun none => by cases none⟩
    have indented : column + indentationStep = (column :: outer).head?.getD 0 + indentationStep := rfl
    obtain ⟨text, written⟩ := value.write_mark column
    rw [written, closeLine_cons rfl, List.cons_append] at behind
    have keyRead :
        (facing true line (column + 2)
          (closeLine (writeScalar (column + indentationStep) key) ++ (List.replicate column ' ' ++
            ':' :: ' ' :: (closeLine text ++ (List.replicate spaces ' ' ++ rest))))
          (.key :: opened) (column :: outer)).Yields result :=
      .scalarLine indented key deeper (colon _) fun line => .valueMark (behind line)
    rw [closeLine_append _ (List.cons_ne_nil _ _), closeLine_cons rfl, closeLine_cons rfl,
      closeLine_cons rfl, written, closeLine_cons rfl]
    simp only [List.append_assoc, List.cons_append]
    exact .keyMark opening keyRead.space

def writeEntry (column : Nat) (key : List Char) (value : Tree) : List Char :=
  let keyText := writeScalar (column + indentationStep) key
  if isSimpleKey key then
    keyText ++ ':' :: value.write .key column
  else
    closeLine ('?' :: ' ' :: keyText) ++ List.replicate column ' ' ++ ':' :: value.write .mark column

private theorem blockRead_entry (reads : Reads value) (column : Nat) (outer : List Nat) :
    BlockRead .blockMapping column outer (writeEntry column key value)
      (.key :: textToken key :: .value :: value.tokens (valuePlace key)) := by
  rw [writeEntry, valuePlace]
  split
  case isTrue simple => exact blockRead_simpleEntry simple reads column outer
  case isFalse => exact blockRead_longEntry reads column outer

private theorem blockRead_entries {entries : List (List Char × Tree)} (nonempty : entries ≠ [])
    (each : ∀ entry ∈ entries, Reads entry.2) (column : Nat) (outer : List Nat) :
    BlockRead .blockMapping column outer (stackLines column (writeEntries column entries))
      (entryTokens entries) := by
  induction entries with
  | nil => exact absurd rfl nonempty
  | cons entry rest ih =>
      obtain ⟨key, value⟩ := entry
      obtain ⟨first, others⟩ := List.forall_mem_cons.mp each
      have line : BlockRead .blockMapping column outer (writeEntry column key value) _ :=
        blockRead_entry first column outer
      cases rest with
      | nil =>
          have alone : entryTokens [(key, value)] =
              .key :: textToken key :: .value :: value.tokens (valuePlace key) := by
            rw [entryTokens, entryTokens, List.append_nil]
          rw [alone]
          exact line
      | cons next more => exact line.cons (ih (List.cons_ne_nil next more) others)

end Entries

/-! ### Trees -/

theorem BlockRead.behindMark {token : Token} {line column spaces : Nat} {blocks : List Nat}
    {text rest : List Char} {read tokens result : List Token}
    (block : BlockRead token (column + 1) blocks text read) (deeper : Deeper (column + 1) blocks)
    (continues : Continues blocks spaces rest)
    (yields : ∀ line, (facing true line spaces rest
      ((token :: (read ++ [.blockEnd])).reverse ++ tokens) blocks).Yields result) :
    (facing true line column (closeLine ([' '] ++ text) ++ (List.replicate spaces ' ' ++ rest)) tokens
      blocks).Yields result := by
  rw [List.singleton_append, closeLine_cons rfl, List.cons_append]
  exact (block.own deeper continues yields).space

theorem Yields.newLine {line column spaces : Nat} {blocks : List Nat} {text rest : List Char}
    {tokens result : List Token} (nonempty : text ≠ []) (atToken : AtToken (closeLine text ++ rest))
    (yields : (facing true (line + 1) spaces (closeLine text ++ rest) tokens blocks).Yields result) :
    (facing false line column (closeLine ('\n' :: List.replicate spaces ' ' ++ text) ++ rest) tokens
      blocks).Yields result := by
  rw [closeLine_append _ nonempty, List.append_assoc, List.cons_append]
  refine yields.gap ?_ atToken ?_ fun key none => by cases none
  · rw [skipGap_break rfl (by decide), skipGap_spaces, skipGap_atToken atToken, Nat.zero_add]
  · simp only [List.length_cons, List.length_append]
    omega

private theorem reads_sequence {items : List Tree} (each : ∀ item ∈ items, Reads item) :
    Reads (.sequence items) := by
  intro place allowsKey line column spaces blocks rest tokens result stands continues yields
  cases items with
  | nil =>
      exact .behindSpace stands fun _ deeper => .emptySequence deeper continues (yields (line + 1))
  | cons item others =>
      have block := blockRead_items (List.cons_ne_nil item others) each
      cases stands with
      | start => exact (block 0 []).own Stands.start.deeper continues yields
      | @mark column outer =>
          exact (block (column + 2) (column :: outer)).behindMark (deeper_cons (by omega)) continues
            yields
      | @key column _ outer inside =>
          exact .newLine (block column outer).ne_nil ((block column outer).atToken _)
            ((block column outer).yields .already continues yields)

private theorem reads_mapping {entries : List (List Char × Tree)}
    (each : ∀ entry ∈ entries, Reads entry.2) :
    Reads (.mapping entries) := by
  intro place allowsKey line column spaces blocks rest tokens result stands continues yields
  cases entries with
  | nil =>
      exact .behindSpace stands fun _ deeper => .emptyMapping deeper continues (yields (line + 1))
  | cons entry others =>
      have block := blockRead_entries (List.cons_ne_nil entry others) each
      cases stands with
      | start => exact (block 0 []).own Stands.start.deeper continues yields
      | @mark column outer =>
          exact (block (column + 2) (column :: outer)).behindMark (deeper_cons (by omega)) continues
            yields
      | @key column _ outer inside =>
          have inner := block (column + 2) (column :: outer)
          exact .newLine inner.ne_nil (inner.atToken _)
            (inner.own (deeper_cons (by omega)) continues yields)

private theorem reads_of_writable {tree : Tree} (writable : tree.Writable) : Reads tree := by
  induction writable with
  | word allowed => exact reads_word allowed
  | string text => exact reads_string text
  | sequence _ each => exact reads_sequence each
  | mapping _ each => exact reads_mapping each

end HostValue.Yaml.Layout

namespace HostValue.Yaml

theorem tokens?_write {tree : Tree} (writable : tree.Writable) :
    tokens? (closeLine (tree.write .start 0)) = some (tree.tokens .start) := by
  have allowed := all_isAllowed_closeLine (writable.all_isAllowed .start 0)
  have ended (line : Nat) :
      (Layout.facing true line 0 [] ((tree.tokens .start).reverse ++ []) []).Yields
        (tree.tokens .start) := by
    have yields :
        (Layout.facing true line 0 [] (tree.tokens .start).reverse []).Yields
          (tree.tokens .start).reverse.reverse :=
      Layout.yields_end
    rwa [List.reverse_reverse, ← List.append_nil (tree.tokens .start).reverse] at yields
  have continues : Layout.Continues [] 0 [] := by
    refine ⟨?_, Nat.le_refl 0, fun _ => rfl⟩
    rintro _ ⟨⟩
  have yields :
      (Layout.facing true 0 0 (closeLine (tree.write .start 0) ++ []) [] []).Yields
        (tree.tokens .start) :=
    Layout.reads_of_writable writable .start continues ended
  rw [List.append_nil] at yields
  rw [tokens?, if_pos allowed]
  exact yields _ (Nat.lt_succ_self _)

end HostValue.Yaml
