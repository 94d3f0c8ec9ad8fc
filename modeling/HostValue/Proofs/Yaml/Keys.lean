import HostValue.Proofs.Yaml.ScalarTokens

/-!
# Keys without a mark

A scalar that starts where a key may start is remembered until its line ends, and a colon on that line
puts the token of a key, and that of a block if none is open there, in front of it. What is written of a
key without a mark is short enough for that.
-/

namespace HostValue.Yaml.Layout

private theorem length_le_countWithin {size : Nat} {written : List Char}
    (short : byteSize written ≤ size)
    (rest : List Char) : written.length ≤ countWithin size (written ++ rest) := by
  induction written generalizing size with
  | nil => exact Nat.zero_le _
  | cons c others ih =>
      rw [byteSize_cons] at short
      rw [List.cons_append, countWithin, if_pos (Nat.le_of_add_right_le short)]
      exact Nat.succ_le_succ (ih (by omega))

section ShortKey

variable {line column : Nat} {written text key : List Char} {tokens opened result : List Token}
  {blocks outer : List Nat}

/-- The state in front of a colon, behind what may become a key: what was written of it, and the tokens
since it started. -/
def beforeColon (line column : Nat) (written text : List Char) (newer tokens : List Token)
    (blocks : List Nat) : Layout :=
  ⟨⟨':' :: text, line, column + written.length⟩, newer ++ tokens, blocks, false,
    keyHere true line column (written ++ ':' :: text) tokens blocks, []⟩

private theorem settle_beforeColon (short : byteSize written ≤ maxKeySize) {newer : List Token} :
    (beforeColon line column written text newer tokens blocks).settle =
      some (beforeColon line column written text newer tokens blocks) := by
  have atColon : AtToken (':' :: text) := atToken_cons ⟨rfl, rfl, by decide, by decide⟩ text
  have within := length_le_countWithin short (':' :: text)
  have kept :
      expire ⟨':' :: text, line, column + written.length⟩
          (keyHere true line column (written ++ ':' :: text) tokens blocks) =
        some (keyHere true line column (written ++ ':' :: text) tokens blocks) := by
    rw [keyHere, if_pos rfl, expire, if_neg]
    simp only [Nat.lt_irrefl, false_or]
    omega
  have toToken :
      (beforeColon line column written text newer tokens blocks).toToken =
        beforeColon line column written text newer tokens blocks := by
    simp only [Layout.toToken, beforeColon, inFlow, List.isEmpty_nil, Bool.not_true,
      skipGap_atToken atColon]
  rw [settle, toToken, expireKeys]
  simp only [beforeColon, kept]
  rfl

private theorem readValueMark_possibleKey {state : Layout} {key : PossibleKey}
    (possible : state.possibleKey = some key) :
    state.readValueMark =
      let opened := (state.insert key.position [.key]).openBlock .blockMapping key.column key.position
      some ⟨opened.cursor.skip 1, .value :: opened.tokens, opened.blocks, false, none,
        opened.outerKeys⟩ := by
  rw [readValueMark, possible]
  rfl

private theorem readValueMark_beforeColon {token : Token}
    (opening : Opening .blockMapping column blocks tokens outer opened) :
    (beforeColon line column written text [token] tokens blocks).readValueMark =
      some (facing false line (column + written.length + 1) text (.value :: token :: .key :: opened)
        (column :: outer)) := by
  have newer (newer : List Token) :
      (beforeColon line column written text newer tokens blocks).tokens = newer ++ tokens :=
    rfl
  have possible :
      (beforeColon line column written text [token] tokens blocks).possibleKey =
        some ⟨blocks.head? == some column, tokens.length, line, column,
          column + countWithin maxKeySize (written ++ ':' :: text)⟩ :=
    rfl
  have inserted :
      (beforeColon line column written text [token] tokens blocks).insert tokens.length [.key] =
        beforeColon line column written text [token, .key] tokens blocks :=
    insert_behind (newer [token]) [.key]
  have opens := opening.openBlock (beforeColon line column written text [token, .key] tokens blocks)
    rfl rfl (newer [token, .key])
  rw [readValueMark_possibleKey possible]
  dsimp only
  rw [inserted, opens]
  rfl

private theorem Yields.colon {token : Token}
    (opening : Opening .blockMapping column blocks tokens outer opened)
    (short : byteSize written ≤ maxKeySize) (ends : endsWord text = true)
    (yields : (facing false line (column + written.length + 1) text
      (.value :: token :: .key :: opened) (column :: outer)).Yields result) :
    (beforeColon line column written text [token] tokens blocks).Yields result := by
  intro fuel enough
  obtain ⟨fuel, rfl⟩ := Nat.exists_eq_succ_of_ne_zero (n := fuel) (by omega)
  have staysOpen : StaysOpen (column + written.length) blocks := fun block first =>
    Nat.le_add_right_of_le (opening.staysOpen block first)
  rw [Nat.succ_eq_add_one, run_succ, settle_beforeColon short, Option.bind_some,
    leave_of_staysOpen staysOpen]
  change (readToken _ ':' text).bind (run fuel) = _
  rw [readToken_colon ends, readValueMark_beforeColon opening, Option.bind_some]
  exact yields fuel (Nat.lt_of_succ_lt_succ enough)

theorem Yields.scalarKey {c : Char} {others : List Char} {isPlain : Bool} (starts : StartsToken c)
    (staysOpen : StaysOpen column blocks)
    (read :
      (facing true line column (c :: (others ++ ':' :: text)) tokens blocks).readToken c
          (others ++ ':' :: text) =
        some (beforeColon line column (c :: others) text [.scalar isPlain key] tokens blocks))
    (yields :
      (beforeColon line column (c :: others) text [.scalar isPlain key] tokens blocks).Yields result) :
    (facing true line column (c :: others ++ ':' :: text) tokens blocks).Yields result := by
  refine yields.step starts staysOpen read ?_
  change text.length + 1 ≤ (others ++ ':' :: text).length
  rw [List.length_append, List.length_cons]
  exact Nat.le_add_left _ _

private theorem Yields.plainKey (allowed : allowsPlain key = true)
    (staysOpen : StaysOpen column blocks)
    (ends : endsWord text = true)
    (yields : (beforeColon line column key text [.scalar true key] tokens blocks).Yields result) :
    (facing true line column (key ++ ':' :: text) tokens blocks).Yields result := by
  obtain ⟨c, others, rfl, plain⟩ := exists_isPlain allowed
  have read :
      readPlain (surroundings blocks) none line column (c :: (others ++ ':' :: text)) =
        some (c :: others, false, ⟨':' :: text, line, column + 1 + others.length⟩) :=
    plain.readPlain rfl (minColumn_surroundings_le staysOpen) (readPlain_colon ends)
  rw [Nat.add_right_comm] at read
  exact .scalarKey (startsToken_of_isPlain plain) staysOpen
    (readToken_plain plain (by simp) (by simp) read) yields

private theorem Yields.singleQuotedKey {indentation : Nat} (deep : 0 < indentation)
    (allowed : allowsSingleQuotes key = true) (noFeed : '\n' ∉ key)
    (noBreaks : ∀ c ∈ key, isBreak c = false) (staysOpen : StaysOpen column blocks)
    (yields : (beforeColon line column (writeSingleQuoted indentation key) text
      [.scalar false key] tokens blocks).Yields result) :
    (facing true line column (writeSingleQuoted indentation key ++ ':' :: text) tokens
      blocks).Yields result := by
  obtain ⟨written, inLine⟩ := quotedRest_inLine noBreaks indentation
  have closes : (':' :: text).head? ≠ some '\'' := by simp
  have read := readSingleQuoted_written deep allowed noFeed closes line (Nat.succ_pos column)
  rw [writeSingleQuoted_eq, written] at yields ⊢
  rw [written, placeAfter_inLine inLine, Nat.succ_add_eq_add_succ] at read
  refine .scalarKey ⟨rfl, rfl, by decide, by decide⟩ staysOpen (readToken_singleQuoted ?_) yields
  rw [List.append_assoc, List.singleton_append, read, List.length_cons, List.length_append]
  rfl

private theorem Yields.doubleQuotedKey (staysOpen : StaysOpen column blocks)
    (yields : (beforeColon line column (writeDoubleQuoted key) text [.scalar false key] tokens
      blocks).Yields result) :
    (facing true line column (writeDoubleQuoted key ++ ':' :: text) tokens blocks).Yields
      result := by
  have written : writeDoubleQuoted key = '"' :: (key.flatMap escape ++ ['"']) := rfl
  have read := readDoubleQuoted_written key (':' :: text) [] line (Nat.succ_pos column)
  rw [written] at yields ⊢
  rw [Nat.succ_add_eq_add_succ] at read
  refine .scalarKey ⟨rfl, rfl, by decide, by decide⟩ staysOpen (readToken_doubleQuoted ?_) yields
  rw [List.append_assoc, List.singleton_append]
  change readDoubleQuoted (spacesGap []) _ _ _ = _
  rw [read, List.length_cons, List.length_append]
  rfl

theorem Yields.simpleKey {indentation : Nat} (deep : 0 < indentation)
    (opening : Opening .blockMapping column blocks tokens outer opened)
    (simple : isSimpleKey key = true) (ends : endsWord text = true)
    (yields : (facing false line (column + (writeScalar indentation key).length + 1) text
      (.value :: .scalar (Style.ofText key == .plain) key :: .key :: opened) (column :: outer)).Yields
        result) :
    (facing true line column (writeScalar indentation key ++ ':' :: text) tokens blocks).Yields
      result := by
  have short : byteSize (writeScalar indentation key) ≤ maxKeySize :=
    Nat.le_trans (byteSize_writeScalar_le simple indentation) (by decide)
  have keyed := yields.colon opening short ends
  have noBreaks := noBreaks_of_isSimpleKey simple
  have styled := styled_ofText key
  rw [writeScalar] at keyed ⊢
  generalize Style.ofText key = style at styled keyed
  cases styled with
  | plain isText allowed => exact .plainKey allowed opening.staysOpen ends keyed
  | singleQuoted noFeed allowed =>
      exact .singleQuotedKey deep allowed noFeed noBreaks opening.staysOpen keyed
  | doubleQuoted => exact .doubleQuotedKey opening.staysOpen keyed
  | literal feed => cases noBreaks _ feed

end ShortKey

end HostValue.Yaml.Layout
