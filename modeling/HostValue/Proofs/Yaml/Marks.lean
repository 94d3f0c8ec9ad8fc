import HostValue.Proofs.Yaml.Layout

/-!
# Marks

The dash of an item, the marks of a long key and of its value, and the brackets of an empty collection.
A dash and the mark of a key open a block where none is open at their column.
-/

namespace HostValue.Yaml.Layout

section Marks

variable {line column : Nat} {text : List Char} {tokens opened result : List Token}
  {blocks outer : List Nat}

theorem openBlockHere_facing {token : Token}
    (opening : Opening token column blocks tokens outer opened) :
    (facing true line column text tokens blocks).openBlockHere token =
      some (facing true line column text opened (column :: outer)) := by
  have opens := opening.openBlock (facing true line column text tokens blocks) rfl rfl
    (List.nil_append tokens).symm
  exact congrArg some opens

theorem Yields.item (opening : Opening .blockSequence column blocks tokens outer opened)
    (yields :
      (facing true line (column + 1) (' ' :: text) (.item :: opened) (column :: outer)).Yields
        result) :
    (facing true line column ('-' :: ' ' :: text) tokens blocks).Yields result := by
  have dash (state : Layout) :
      state.readToken '-' (' ' :: text) =
        (state.openBlockHere .blockSequence).bind fun state => state.readMark .item 1 true := by
    simp [readToken, startsDocument, endsDocument, endsWord, isWhite]
  refine yields.step ⟨rfl, rfl, by decide, by decide⟩ opening.staysOpen ?_ (Nat.le_refl _)
  rw [dash, openBlockHere_facing opening]
  rfl

theorem Yields.keyMark (opening : Opening .blockMapping column blocks tokens outer opened)
    (yields :
      (facing true line (column + 1) (' ' :: text) (.key :: opened) (column :: outer)).Yields
        result) :
    (facing true line column ('?' :: ' ' :: text) tokens blocks).Yields result := by
  have question (state : Layout) :
      state.readToken '?' (' ' :: text) =
        (state.openBlockHere .blockMapping).bind fun next =>
          next.readMark .key 1 (!state.inFlow) := by
    simp [readToken, startsDocument, endsDocument, endsWord, isWhite]
  refine yields.step ⟨rfl, rfl, by decide, by decide⟩ opening.staysOpen ?_ (Nat.le_refl _)
  rw [question, openBlockHere_facing opening]
  rfl

theorem readToken_colon {state : Layout} (ends : endsWord text = true) :
    state.readToken ':' text = state.readValueMark := by
  simp [readToken, startsDocument, endsDocument, ends]

theorem Yields.valueMark
    (yields :
      (facing true line (column + 1) (' ' :: text) (.value :: tokens) (column :: outer)).Yields
        result) :
    (facing true line column (':' :: ' ' :: text) tokens (column :: outer)).Yields result := by
  have opening : Opening .blockMapping column (column :: outer) tokens outer tokens := .already
  refine yields.step ⟨rfl, rfl, by decide, by decide⟩ opening.staysOpen ?_ (Nat.le_refl _)
  rw [readToken_colon rfl, readValueMark]
  simp only [facing, Option.bind_eq_bind]
  rw [← facing, openBlockHere_facing opening]
  rfl

end Marks

/-! ### Brackets -/

section Brackets

variable {allowsKey : Bool} {line column : Nat} {rest : List Char} {tokens result : List Token}
  {blocks : List Nat}

/-- The state of reading in front of a text inside brackets, which may become a key themselves. -/
def bracketed (line column : Nat) (text : List Char) (tokens : List Token) (blocks : List Nat)
    (key : Option PossibleKey) : Layout :=
  ⟨⟨text, line, column⟩, tokens, blocks, true, none, [key]⟩

private theorem expire_keyHere (c : Char) (text : List Char) :
    expire ⟨text, line, column + 1⟩ (keyHere allowsKey line column (c :: text) tokens blocks) =
      some (keyHere allowsKey line column (c :: text) tokens blocks) := by
  have size : c.utf8Size ≤ maxKeySize := Nat.le_trans c.utf8Size_le_four (by decide)
  cases allowsKey with
  | false => rfl
  | true =>
      rw [keyHere, if_pos rfl, expire, if_neg]
      simp [countWithin, size]

private theorem settle_bracketed {key : Option PossibleKey} {text : List Char}
    (atToken : AtToken text)
    (kept : expire ⟨text, line, column⟩ key = some key) :
    (bracketed line column text tokens blocks key).settle =
      some (bracketed line column text tokens blocks key) := by
  have gap : skipGap true true false line column text = (true, ⟨text, line, column⟩) :=
    skipGap_atToken atToken
  have toToken :
      (bracketed line column text tokens blocks key).toToken =
        bracketed line column text tokens blocks key := by
    simp only [Layout.toToken, bracketed, inFlow, List.isEmpty_cons, Bool.not_false, gap]
  rw [settle, toToken, expireKeys]
  simp only [bracketed, List.mapM_cons, List.mapM_nil, kept]
  rfl

theorem Yields.brackets {opener closer : Char} {first last : Token} (opens : StartsToken opener)
    (closes : StartsToken closer)
    (reads : ∀ (state : Layout) rest, state.readToken opener rest = state.readOpening first)
    (ends : ∀ (state : Layout) rest, state.readToken closer rest = state.readClosing last)
    (staysOpen : StaysOpen column blocks)
    (yields : Yields ⟨⟨rest, line, column + 2⟩, last :: first :: tokens, blocks, false,
      keyHere allowsKey line column (opener :: closer :: rest) tokens blocks, []⟩ result) :
    (facing allowsKey line column (opener :: closer :: rest) tokens blocks).Yields result := by
  have inside :
      (bracketed line (column + 1) (closer :: rest) (first :: tokens) blocks
        (keyHere allowsKey line column (opener :: closer :: rest) tokens blocks)).Yields result := by
    intro fuel enough
    obtain ⟨fuel, rfl⟩ := Nat.exists_eq_succ_of_ne_zero (n := fuel) (by omega)
    rw [Nat.succ_eq_add_one, run_succ, settle_bracketed (atToken_cons closes rest)
      (expire_keyHere _ _),
      Option.bind_some]
    change (readToken _ closer rest).bind (run fuel) = _
    rw [ends]
    exact yields fuel (Nat.lt_of_succ_lt_succ enough)
  refine inside.step opens staysOpen ?_ (Nat.le_refl _)
  rw [reads, readOpening, saveKey_facing]
  rfl

theorem Yields.emptySequence {spaces : Nat} (deeper : Deeper column blocks)
    (continues : Continues blocks spaces rest)
    (yields : (facing true (line + 1) spaces rest (.flowSequenceEnd :: .flowSequence :: tokens)
      blocks).Yields result) :
    (facing allowsKey line column ('[' :: ']' :: '\n' :: (List.replicate spaces ' ' ++ rest)) tokens
      blocks).Yields result := by
  refine .brackets ⟨rfl, rfl, by decide, by decide⟩ ⟨rfl, rfl, by decide, by decide⟩
    (fun state rest => ?_) (fun state rest => ?_) deeper.staysOpen
    (yields.lineEnd deeper continues (Nat.le_refl line))
  · simp [readToken, startsDocument, endsDocument]
  · simp [readToken, startsDocument, endsDocument]

theorem Yields.emptyMapping {spaces : Nat} (deeper : Deeper column blocks)
    (continues : Continues blocks spaces rest)
    (yields : (facing true (line + 1) spaces rest (.flowMappingEnd :: .flowMapping :: tokens)
      blocks).Yields result) :
    (facing allowsKey line column ('\x7b' :: '\x7d' :: '\n' :: (List.replicate spaces ' ' ++ rest))
      tokens blocks).Yields result := by
  refine .brackets ⟨rfl, rfl, by decide, by decide⟩ ⟨rfl, rfl, by decide, by decide⟩
    (fun state rest => ?_) (fun state rest => ?_) deeper.staysOpen
    (yields.lineEnd deeper continues (Nat.le_refl line))
  · simp [readToken, startsDocument, endsDocument]
  · simp [readToken, startsDocument, endsDocument]

end Brackets

end HostValue.Yaml.Layout
