import HostValue.Proofs.Yaml.Scalar.Written
import HostValue.Yaml.Text

/-!
# What is written of a tree

The tokens that the text of a tree is made of, and the characters it starts with behind a mark or a
key. All its characters may stand in a text of YAML.
-/

namespace HostValue.Yaml

inductive Tree.Writable : Tree → Prop where
  | word {text : List Char} (allowed : allowsPlain text = true) : Writable (.word text)
  | string (text : List Char) : Writable (.string text)
  | sequence {items : List Tree} (each : ∀ item ∈ items, Writable item) : Writable (.sequence items)
  | mapping {entries : List (List Char × Tree)} (each : ∀ entry ∈ entries, Writable entry.2) :
      Writable (.mapping entries)

/-! ### Tokens -/

def textToken (text : List Char) : Token :=
  .scalar (Style.ofText text == .plain) text

def valuePlace (key : List Char) : Tree.Place :=
  if isSimpleKey key then .key else .mark

mutual

/-- The tokens of the text of a tree. The items of a sequence behind a short key stand at the column of
that key and open no block of their own. -/
def Tree.tokens (place : Tree.Place) : Tree → List Token
  | .word text => [.scalar true text]
  | .string text => [textToken text]
  | .sequence items =>
    if items.isEmpty then [.flowSequence, .flowSequenceEnd]
    else if place = .key then itemTokens items
    else .blockSequence :: (itemTokens items ++ [.blockEnd])
  | .mapping entries =>
    if entries.isEmpty then [.flowMapping, .flowMappingEnd]
    else .blockMapping :: (entryTokens entries ++ [.blockEnd])
termination_by structural tree => tree

def itemTokens : List Tree → List Token
  | [] => []
  | item :: rest => .item :: (item.tokens .mark ++ itemTokens rest)
termination_by structural items => items

def entryTokens : List (List Char × Tree) → List Token
  | [] => []
  | (key, value) :: rest =>
    .key :: textToken key :: .value :: (value.tokens (valuePlace key) ++ entryTokens rest)
termination_by structural entries => entries

end

/-! ### First characters -/

theorem Tree.write_mark (tree : Tree) (column : Nat) :
    ∃ text, tree.write .mark column = ' ' :: text := by
  cases tree with
  | word text => exact ⟨_, rfl⟩
  | string text => exact ⟨_, rfl⟩
  | sequence items => cases items <;> exact ⟨_, rfl⟩
  | mapping entries => cases entries <;> exact ⟨_, rfl⟩

theorem Tree.write_key (tree : Tree) (column : Nat) :
    ∃ c text, tree.write .key column = c :: text ∧ endsWord (c :: text) = true := by
  cases tree with
  | word text => exact ⟨_, _, rfl, rfl⟩
  | string text => exact ⟨_, _, rfl, rfl⟩
  | sequence items => cases items <;> exact ⟨_, _, rfl, rfl⟩
  | mapping entries => cases entries <;> exact ⟨_, _, rfl, rfl⟩

/-! ### Allowed characters -/

theorem all_isAllowed_closeLine {text : List Char} (allowed : text.all isAllowed = true) :
    (closeLine text).all isAllowed = true := by
  rw [closeLine]
  split
  · exact allowed
  · rw [List.all_append, allowed]
    rfl

private theorem all_isAllowed_stackLines (column : Nat) {lines : List (List Char)}
    (each : ∀ line ∈ lines, line.all isAllowed = true) :
    (stackLines column lines).all isAllowed = true := by
  induction lines with
  | nil => rfl
  | cons line rest ih =>
      obtain ⟨first, others⟩ := List.forall_mem_cons.mp each
      cases rest with
      | nil => exact first
      | cons next more =>
          rw [stackLines, List.all_append, List.all_append, all_isAllowed_closeLine first,
            all_isAllowed_spaces, ih others]
          · rfl
          · exact List.cons_ne_nil next more

private theorem all_isAllowed_space (place : Tree.Place) : place.space.all isAllowed = true := by
  cases place <;> rfl

private theorem all_isAllowed_opening (place : Tree.Place) (column : Nat) :
    (place.opening column).all isAllowed = true := by
  cases place with
  | start => rfl
  | mark => rfl
  | key => exact all_isAllowed_spaces column

private theorem all_isAllowed_writeItems {items : List Tree}
    (each : ∀ item ∈ items, ∀ place column, (item.write place column).all isAllowed = true)
    (column : Nat) : ∀ line ∈ writeItems column items, line.all isAllowed = true := by
  induction items with
  | nil => exact fun line member => absurd member List.not_mem_nil
  | cons item rest ih =>
      obtain ⟨first, others⟩ := List.forall_mem_cons.mp each
      rw [writeItems, List.forall_mem_cons, List.all_cons, first]
      exact ⟨rfl, ih others⟩

private theorem all_isAllowed_writeEntries {entries : List (List Char × Tree)}
    (each : ∀ entry ∈ entries, ∀ place column, (entry.2.write place column).all isAllowed = true)
    (column : Nat) : ∀ line ∈ writeEntries column entries, line.all isAllowed = true := by
  induction entries with
  | nil => exact fun line member => absurd member List.not_mem_nil
  | cons entry rest ih =>
      obtain ⟨key, value⟩ := entry
      obtain ⟨first, others⟩ := List.forall_mem_cons.mp each
      have keyText := all_isAllowed_writeScalar (column + indentationStep) key
      rw [writeEntries, List.forall_mem_cons]
      refine ⟨?_, ih others⟩
      split
      · rw [List.all_append, List.all_cons, keyText, first]
        rfl
      · have marked : ('?' :: ' ' :: writeScalar (column + indentationStep) key).all isAllowed = true :=
          keyText
        rw [List.all_append, List.all_append, List.all_cons, all_isAllowed_closeLine marked,
          all_isAllowed_spaces, first]
        rfl

theorem Tree.Writable.all_isAllowed {tree : Tree} (writable : tree.Writable) (place : Tree.Place)
    (column : Nat) : (tree.write place column).all isAllowed = true := by
  induction writable generalizing place column with
  | @word text allowed =>
      have inLine := all_isAllowed_of_needsEscapes (needsEscapes_of_allowsPlain allowed)
      rw [write, List.all_append, all_isAllowed_space, inLine]
      rfl
  | string text =>
      rw [write, List.all_append, all_isAllowed_space, all_isAllowed_writeScalar]
      rfl
  | @sequence items each ih =>
      have lines := all_isAllowed_writeItems ih (place.sequenceColumn column)
      rw [write]
      split
      · rw [List.all_append, all_isAllowed_space]
        rfl
      · rw [List.all_append, all_isAllowed_opening, all_isAllowed_stackLines _ lines]
        rfl
  | @mapping entries each ih =>
      have lines := all_isAllowed_writeEntries ih (place.mappingColumn column)
      rw [write]
      split
      · rw [List.all_append, all_isAllowed_space]
        rfl
      · rw [List.all_append, all_isAllowed_opening, all_isAllowed_stackLines _ lines]
        rfl

end HostValue.Yaml
