import HostValue.Proofs.Yaml.Tree
import HostValue.Yaml.Node

/-!
# Reading the node of a tree

The tokens of a tree make a node of the same shape, without anchors and tags.
-/

namespace HostValue.Yaml

def textNode (text : List Char) : Node :=
  .scalar none none (Style.ofText text == .plain) text

mutual

def Tree.node : Tree → Node
  | .word text => .scalar none none true text
  | .string text => textNode text
  | .sequence items => .sequence none (itemNodes items)
  | .mapping entries => .mapping none (entryNodes entries)
termination_by structural tree => tree

def itemNodes : List Tree → List Node
  | [] => []
  | item :: rest => item.node :: itemNodes rest
termination_by structural items => items

def entryNodes : List (List Char × Tree) → List (Node × Node)
  | [] => []
  | (key, value) :: rest => (textNode key, value.node) :: entryNodes rest
termination_by structural entries => entries

end

namespace Node

/-! ### Steps of the reader -/

/-- The token begins a node that is neither an alias nor a sequence at the column of its key, and has
neither an anchor nor a tag. -/
def startsNode : Token → Bool
  | .scalar .. | .flowSequence | .flowMapping | .blockSequence | .blockMapping => true
  | _ => false

section Steps

variable {handles : Handles} {fuel : Nat} {place : Place} {token : Token} {rest : List Token}

private theorem read_blockSequence (outside : place ≠ .flow) :
    read handles (fuel + 1) place (.blockSequence :: rest) =
      (readBlockItems handles fuel rest).bind fun found => some (.sequence none found.1, found.2) := by
  cases place with
  | flow => exact absurd rfl outside
  | block => rfl
  | blockEntry => rfl

private theorem read_blockMapping (outside : place ≠ .flow) :
    read handles (fuel + 1) place (.blockMapping :: rest) =
      (readBlockEntries handles fuel rest).bind fun found => some (.mapping none found.1, found.2) := by
  cases place with
  | flow => exact absurd rfl outside
  | block => rfl
  | blockEntry => rfl

private theorem read_unindentedItems :
    read handles (fuel + 1) .blockEntry (.item :: rest) =
      (readUnindentedItems handles fuel (.item :: rest)).bind fun found =>
        some (.sequence none found.1, found.2) :=
  rfl

private theorem readBlockItems_item (starts : startsNode token = true) :
    readBlockItems handles (fuel + 1) (.item :: token :: rest) =
      (read handles fuel .block (token :: rest)).bind fun item =>
        (readBlockItems handles fuel item.2).bind fun items => some (item.1 :: items.1, items.2) := by
  cases token <;> first | rfl | cases starts

private theorem readUnindentedItems_item (starts : startsNode token = true) :
    readUnindentedItems handles (fuel + 1) (.item :: token :: rest) =
      (read handles fuel .block (token :: rest)).bind fun item =>
        (readUnindentedItems handles fuel item.2).bind fun items => some (item.1 :: items.1, items.2) := by
  cases token <;> first | rfl | cases starts

private theorem readUnindentedItems_end (other : rest.head? ≠ some .item) :
    readUnindentedItems handles (fuel + 1) rest = some ([], rest) := by
  cases rest with
  | nil => rfl
  | cons token others => cases token <;> first | rfl | exact absurd rfl other

private theorem readBlockEntries_entry {isPlain : Bool} {text : List Char}
    (other : endsBlockEntry rest = false) :
    readBlockEntries handles (fuel + 2) (.key :: .scalar isPlain text :: .value :: rest) =
      (read handles (fuel + 1) .blockEntry rest).bind fun value =>
        (readBlockEntries handles (fuel + 1) value.2).bind fun entries =>
          some ((.scalar none none isPlain text, value.1) :: entries.1, entries.2) := by
  cases rest with
  | nil => rfl
  | cons token others => cases token <;> first | rfl | cases other

end Steps

/-! ### First tokens -/

private theorem tokens_mark (tree : Tree) :
    ∃ token rest, tree.tokens .mark = token :: rest ∧ startsNode token = true := by
  cases tree with
  | word text => exact ⟨_, _, rfl, rfl⟩
  | string text => exact ⟨_, _, rfl, rfl⟩
  | sequence items => cases items <;> exact ⟨_, _, rfl, rfl⟩
  | mapping entries => cases entries <;> exact ⟨_, _, rfl, rfl⟩

private theorem endsBlockEntry_tokens (tree : Tree) (place : Tree.Place) (rest : List Token) :
    endsBlockEntry (tree.tokens place ++ rest) = false := by
  cases tree with
  | word text => rfl
  | string text => rfl
  | sequence items => cases items <;> cases place <;> rfl
  | mapping entries => cases entries <;> rfl

/-! ### Trees -/

/-- The tokens of the tree make its node, with at most two steps for a token. What stands behind a
sequence at the column of its key is no further item. -/
def Forms (tree : Tree) : Prop :=
  ∀ {written : Tree.Place} {place : Place} {handles : Handles} {fuel : Nat} {rest : List Token},
    place ≠ .flow → (written = .key → place = .blockEntry ∧ rest.head? ≠ some .item) →
    2 * (tree.tokens written).length ≤ fuel →
    read handles fuel place (tree.tokens written ++ rest) = some (tree.node, rest)

section Collections

variable {handles : Handles} {fuel : Nat} {tree : Tree} {items : List Tree}
  {entries : List (List Char × Tree)}

private theorem Forms.item (forms : Forms tree) (enough : 2 * (tree.tokens .mark).length ≤ fuel)
    (rest : List Token) :
    read handles fuel .block (tree.tokens .mark ++ rest) = some (tree.node, rest) :=
  forms (by decide) (fun none => by cases none) enough

private theorem Forms.value (forms : Forms tree) {written : Tree.Place}
    (enough : 2 * (tree.tokens written).length ≤ fuel) {rest : List Token}
    (other : rest.head? ≠ some .item) :
    read handles fuel .blockEntry (tree.tokens written ++ rest) = some (tree.node, rest) :=
  forms (by decide) (fun _ => ⟨rfl, other⟩) enough

theorem readItems_tokens {readItems : Nat → List Token → Option (List Node × List Token)}
    {behind rest : List Token}
    (step : ∀ {fuel : Nat} {token : Token} {more : List Token}, startsNode token = true →
      readItems (fuel + 1) (.item :: token :: more) =
        (read handles fuel .block (token :: more)).bind fun item =>
          (readItems fuel item.2).bind fun items => some (item.1 :: items.1, items.2))
    (ends : ∀ fuel, readItems (fuel + 1) behind = some ([], rest))
    (each : ∀ item ∈ items, Forms item) (started : 0 < fuel)
    (enough : 2 * (itemTokens items).length ≤ fuel + 1) :
    readItems fuel (itemTokens items ++ behind) = some (itemNodes items, rest) := by
  induction items generalizing fuel with
  | nil =>
      obtain ⟨fuel, rfl⟩ := Nat.exists_eq_succ_of_ne_zero (n := fuel) (by omega)
      exact ends fuel
  | cons item others ih =>
      obtain ⟨first, remaining⟩ := List.forall_mem_cons.mp each
      obtain ⟨token, later, tokens, starts⟩ := tokens_mark item
      have nonempty : 0 < (item.tokens .mark).length := by
        rw [tokens]
        exact Nat.succ_pos _
      rw [itemTokens, List.length_cons, List.length_append] at enough
      obtain ⟨fuel, rfl⟩ := Nat.exists_eq_succ_of_ne_zero (n := fuel) (by omega)
      have read :
          read handles fuel .block (item.tokens .mark ++ (itemTokens others ++ behind)) =
            some (item.node, itemTokens others ++ behind) :=
        first.item (by omega) _
      have more : readItems fuel (itemTokens others ++ behind) = some (itemNodes others, rest) :=
        ih remaining (by omega) (by omega)
      rw [itemTokens, List.cons_append, List.append_assoc]
      rw [tokens, List.cons_append] at read ⊢
      rw [step starts, read, Option.bind_some, more]
      rfl

private theorem readBlockItems_tokens (each : ∀ item ∈ items, Forms item)
    (enough : 2 * (itemTokens items).length < fuel) (rest : List Token) :
    readBlockItems handles fuel (itemTokens items ++ .blockEnd :: rest) =
      some (itemNodes items, rest) :=
  readItems_tokens readBlockItems_item (fun _ => rfl) each (by omega) (by omega)

private theorem readUnindentedItems_tokens (each : ∀ item ∈ items, Forms item) (started : 0 < fuel)
    (enough : 2 * (itemTokens items).length ≤ fuel + 1) {rest : List Token}
    (other : rest.head? ≠ some .item) :
    readUnindentedItems handles fuel (itemTokens items ++ rest) = some (itemNodes items, rest) :=
  readItems_tokens readUnindentedItems_item (fun _ => readUnindentedItems_end other) each started
    enough

private theorem readBlockEntries_tokens (each : ∀ entry ∈ entries, Forms entry.2)
    (enough : 2 * (entryTokens entries).length < fuel) (rest : List Token) :
    readBlockEntries handles fuel (entryTokens entries ++ .blockEnd :: rest) =
      some (entryNodes entries, rest) := by
  induction entries generalizing fuel with
  | nil =>
      obtain ⟨fuel, rfl⟩ := Nat.exists_eq_succ_of_ne_zero (n := fuel) (by omega)
      rfl
  | cons entry others ih =>
      obtain ⟨key, value⟩ := entry
      obtain ⟨first, remaining⟩ := List.forall_mem_cons.mp each
      rw [entryTokens, List.length_cons, List.length_cons, List.length_cons, List.length_append]
        at enough
      obtain ⟨fuel, rfl⟩ := Nat.exists_eq_add_of_le' (show 2 ≤ fuel by omega)
      have other : (entryTokens others ++ .blockEnd :: rest).head? ≠ some .item := by
        cases others <;> exact fun same => by cases same
      have valueForms : Forms value := first
      have read :
          read handles (fuel + 1) .blockEntry
              (value.tokens (valuePlace key) ++ (entryTokens others ++ .blockEnd :: rest)) =
            some (value.node, entryTokens others ++ .blockEnd :: rest) :=
        valueForms.value (by omega) other
      have more :
          readBlockEntries handles (fuel + 1) (entryTokens others ++ .blockEnd :: rest) =
            some (entryNodes others, rest) :=
        ih remaining (by omega)
      rw [entryTokens, List.cons_append, List.cons_append, List.cons_append, List.append_assoc, textToken,
        readBlockEntries_entry (endsBlockEntry_tokens _ _ _), read, Option.bind_some, more]
      rfl

end Collections

private theorem forms_sequence {items : List Tree} (each : ∀ item ∈ items, Forms item) :
    Forms (.sequence items) := by
  intro written place handles fuel rest outside behind enough
  cases items with
  | nil =>
      change 2 * 2 ≤ fuel at enough
      obtain ⟨fuel, rfl⟩ := Nat.exists_eq_add_of_le' (show 2 ≤ fuel by omega)
      cases place <;> rfl
  | cons item others =>
      by_cases atKey : written = .key
      · obtain ⟨rfl, other⟩ := behind atKey
        subst atKey
        change 2 * (itemTokens (item :: others)).length ≤ fuel at enough
        have nonempty : 0 < (itemTokens (item :: others)).length := Nat.succ_pos _
        obtain ⟨fuel, rfl⟩ := Nat.exists_eq_succ_of_ne_zero (n := fuel) (by omega)
        have read :
            readUnindentedItems handles fuel (itemTokens (item :: others) ++ rest) =
              some (itemNodes (item :: others), rest) :=
          readUnindentedItems_tokens each (by omega) enough other
        rw [itemTokens, List.cons_append] at read
        change Node.read handles (fuel + 1) .blockEntry (.item :: (_ ++ rest)) = _
        rw [read_unindentedItems, read]
        rfl
      · rw [Tree.tokens, if_neg (by simp), if_neg atKey] at enough ⊢
        simp only [List.length_cons, List.length_append, List.length_nil] at enough
        obtain ⟨fuel, rfl⟩ := Nat.exists_eq_succ_of_ne_zero (n := fuel) (by omega)
        rw [List.cons_append, List.append_assoc, List.singleton_append, Nat.succ_eq_add_one,
          read_blockSequence outside, readBlockItems_tokens each (by omega)]
        rfl

private theorem forms_mapping {entries : List (List Char × Tree)}
    (each : ∀ entry ∈ entries, Forms entry.2) :
    Forms (.mapping entries) := by
  intro written place handles fuel rest outside behind enough
  cases entries with
  | nil =>
      change 2 * 2 ≤ fuel at enough
      obtain ⟨fuel, rfl⟩ := Nat.exists_eq_add_of_le' (show 2 ≤ fuel by omega)
      cases place <;> rfl
  | cons entry others =>
      rw [Tree.tokens, if_neg (by simp)] at enough ⊢
      simp only [List.length_cons, List.length_append, List.length_nil] at enough
      obtain ⟨fuel, rfl⟩ := Nat.exists_eq_succ_of_ne_zero (n := fuel) (by omega)
      rw [List.cons_append, List.append_assoc, List.singleton_append, Nat.succ_eq_add_one,
        read_blockMapping outside, readBlockEntries_tokens each (by omega)]
      rfl

private theorem forms_scalar {tree : Tree} {token : Token}
    (tokens : ∀ place, tree.tokens place = [token])
    (read : ∀ handles fuel place rest,
      read handles (fuel + 1) place (token :: rest) = some (tree.node, rest)) : Forms tree := by
  intro written place handles fuel rest outside behind enough
  rw [tokens] at enough ⊢
  obtain ⟨fuel, rfl⟩ := Nat.exists_eq_succ_of_ne_zero (n := fuel) fun none => by
    rw [none] at enough
    cases enough
  exact read handles fuel place rest

private theorem forms_of_writable {tree : Tree} (writable : tree.Writable) : Forms tree := by
  induction writable with
  | word => exact forms_scalar (fun _ => rfl) fun _ _ _ _ => rfl
  | string => exact forms_scalar (fun _ => rfl) fun _ _ _ _ => rfl
  | sequence _ each => exact forms_sequence each
  | mapping _ each => exact forms_mapping each

private theorem isExplicit_tokens (tree : Tree) :
    (tree.tokens .start).isEmpty = false ∧ isExplicit (tree.tokens .start) = false := by
  cases tree with
  | word text => exact ⟨rfl, rfl⟩
  | string text => exact ⟨rfl, rfl⟩
  | sequence items => cases items <;> exact ⟨rfl, rfl⟩
  | mapping entries => cases entries <;> exact ⟨rfl, rfl⟩

theorem ofTokens?_tokens {tree : Tree} (writable : tree.Writable) :
    Node.ofTokens? (tree.tokens .start) = some tree.node := by
  obtain ⟨nonempty, implicit⟩ := isExplicit_tokens tree
  have read :
      Node.read standardHandles (2 * (tree.tokens .start).length + 2) .block
          (tree.tokens .start ++ []) = some (tree.node, []) :=
    forms_of_writable writable (by decide) (fun none => by cases none) (Nat.le_add_right _ 2)
  rw [List.append_nil] at read
  rw [Node.ofTokens?, nonempty, implicit, if_neg Bool.false_ne_true, if_neg Bool.false_ne_true,
    readContent, read]
  rfl

end Node

end HostValue.Yaml
