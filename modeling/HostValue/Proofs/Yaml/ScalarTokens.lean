import HostValue.Proofs.Yaml.Marks
import HostValue.Proofs.Yaml.Scalar.Plain
import HostValue.Proofs.Yaml.Scalar.SingleQuoted
import HostValue.Proofs.Yaml.Scalar.Written

/-!
# Scalars among the tokens

By its first character a scalar is told from the marks, and it becomes one token. Where the line or the
lines of a value end, what might have become a key is forgotten.
-/

namespace HostValue.Yaml

/-- Of the characters that start no plain scalar, three do so before a word. -/
theorem IsPlain.starts {c : Char} {rest : List Char} (plain : IsPlain c rest) :
    (if c == '-' || c == '?' || c == ':' then endsWord rest else isIndicator c) = false := by
  have noIndicator := plain.noIndicator
  unfold hasOuterIndicator at noIndicator
  split at noIndicator
  next => cases noIndicator
  next => cases noIndicator
  next same =>
    cases same
    exact noIndicator
  next none => cases none

private theorem IsPlain.ne_tripled {c mark : Char} {rest behind : List Char}
    (plain : IsPlain c rest)
    (outer : ∀ more, hasOuterIndicator (mark :: mark :: mark :: more) = true)
    (noMark : behind.head? ≠ some mark) (more : List Char) :
    c :: (rest ++ behind) ≠ mark :: mark :: mark :: more := by
  intro same
  have noIndicator := plain.noIndicator
  rcases rest with _ | ⟨d, _ | ⟨e, others⟩⟩
  · obtain ⟨-, rfl⟩ := List.cons.inj same
    exact noMark rfl
  · obtain ⟨-, same⟩ := List.cons.inj same
    obtain ⟨-, rfl⟩ := List.cons.inj same
    exact noMark rfl
  · cases same
    rw [outer] at noIndicator
    cases noIndicator

private theorem IsPlain.noDocumentMark {c : Char} {rest behind : List Char} (plain : IsPlain c rest)
    (noDash : behind.head? ≠ some '-') (noDot : behind.head? ≠ some '.') :
    startsDocument (c :: (rest ++ behind)) = false ∧
      endsDocument (c :: (rest ++ behind)) = false := by
  constructor
  · unfold startsDocument
    split
    next more same => exact absurd same (plain.ne_tripled (fun _ => rfl) noDash more)
    next => rfl
  · unfold endsDocument
    split
    next more same => exact absurd same (plain.ne_tripled (fun _ => rfl) noDot more)
    next => rfl

namespace Layout

section Dispatch

variable {allowsKey : Bool} {line column : Nat} {c : Char} {rest behind text : List Char}
  {tokens : List Token} {blocks : List Nat} {cursor : Cursor}

def surroundings (blocks : List Nat) : Surroundings :=
  ⟨false, blocks.head?.elim 0 (· + 1)⟩

theorem minColumn_surroundings_le (staysOpen : StaysOpen column blocks) :
    (surroundings blocks).minColumn ≤ column + 1 := by
  change blocks.head?.elim 0 (· + 1) ≤ column + 1
  cases first : blocks.head? with
  | none => exact Nat.zero_le _
  | some block => exact Nat.succ_le_succ (staysOpen block first)

theorem readToken_plain {isBroken : Bool} (plain : IsPlain c rest)
    (noDash : behind.head? ≠ some '-') (noDot : behind.head? ≠ some '.')
    (read : readPlain (surroundings blocks) none line column (c :: (rest ++ behind)) =
      some (text, isBroken, cursor)) :
    (facing allowsKey line column (c :: (rest ++ behind)) tokens blocks).readToken c (rest ++ behind) =
      some ⟨cursor, .scalar true text :: tokens, blocks, isBroken,
        keyHere allowsKey line column (c :: (rest ++ behind)) tokens blocks, []⟩ := by
  have dispatch (state : Layout) (outside : state.inFlow = false) :
      state.readToken c (rest ++ behind) = state.readPlainScalar := by
    obtain ⟨noStart, noEnd⟩ := plain.noDocumentMark noDash noDot
    have noWhite := isWhite_eq_false plain.inLine.printable plain.noSpace
    have starts := plain.starts
    split at starts
    case isTrue mark =>
      have goesOn : endsWord (rest ++ behind) = false := endsWord_append starts
      simp only [Bool.or_eq_true, beq_iff_eq, or_assoc] at mark
      rcases mark with rfl | rfl | rfl <;>
        simp [readToken, startsPlain, noStart, noEnd, goesOn, outside]
    case isFalse =>
      have noMark := starts
      simp only [isIndicator, isFlowMark, String.reduceToList, List.contains_eq_mem, List.mem_cons,
        List.not_mem_nil, or_false, Bool.decide_or, Bool.or_eq_false_iff, beq_eq_false_iff_ne, ne_eq,
        decide_eq_false_iff_not] at noMark
      simp [readToken, startsPlain, noStart, noEnd, noWhite, starts, noMark]
  rw [surroundings] at read
  rw [dispatch _ rfl, readPlainScalar, saveKey_facing]
  simp only [Option.bind_eq_bind, Option.bind_some, inFlow, List.isEmpty_nil, Bool.not_true, read]
  rfl

theorem readToken_singleQuoted
    (read : readSingleQuoted none line (column + 1) rest = some (text, cursor)) :
    (facing allowsKey line column ('\'' :: rest) tokens blocks).readToken '\'' rest =
      some ⟨cursor, .scalar false text :: tokens, blocks, false,
        keyHere allowsKey line column ('\'' :: rest) tokens blocks, []⟩ := by
  have dispatch (state : Layout) :
      state.readToken '\'' rest = state.readQuotedScalar readSingleQuoted := by
    simp [readToken, startsDocument, endsDocument]
  rw [dispatch, readQuotedScalar, saveKey_facing]
  simp only [Option.bind_eq_bind, Option.bind_some, Cursor.skip, List.drop_one, List.tail_cons, read]
  rfl

theorem readToken_doubleQuoted
    (read : readDoubleQuoted none line (column + 1) rest = some (text, cursor)) :
    (facing allowsKey line column ('"' :: rest) tokens blocks).readToken '"' rest =
      some ⟨cursor, .scalar false text :: tokens, blocks, false,
        keyHere allowsKey line column ('"' :: rest) tokens blocks, []⟩ := by
  have dispatch (state : Layout) :
      state.readToken '"' rest = state.readQuotedScalar readDoubleQuoted := by
    simp [readToken, startsDocument, endsDocument]
  rw [dispatch, readQuotedScalar, saveKey_facing]
  simp only [Option.bind_eq_bind, Option.bind_some, Cursor.skip, List.drop_one, List.tail_cons, read]
  rfl

private theorem readToken_literal
    (read : readBlock false blocks.head? ⟨rest, line, column + 1⟩ = some (text, cursor)) :
    (facing allowsKey line column ('|' :: rest) tokens blocks).readToken '|' rest =
      some (facing true cursor.line cursor.column cursor.text (.scalar false text :: tokens)
        blocks) := by
  have dispatch (state : Layout) (outside : state.inFlow = false) :
      state.readToken '|' rest = state.readBlockScalar false := by
    simp [readToken, startsDocument, endsDocument, outside]
  rw [dispatch _ rfl, readBlockScalar]
  have dropped : (facing allowsKey line column ('|' :: rest) tokens blocks).dropKey =
      some (facing allowsKey line column ('|' :: rest) tokens blocks) :=
    rfl
  rw [dropped]
  simp only [Option.bind_eq_bind, Option.bind_some, facing, Cursor.skip, List.drop_one,
    List.tail_cons, read]
  rfl

end Dispatch

/-! ### At the end of a line -/

private theorem closeLine_writeSingleQuoted (indentation : Nat) (text : List Char) :
    closeLine (writeSingleQuoted indentation text) = writeSingleQuoted indentation text ++ ['\n'] := by
  rw [writeSingleQuoted_eq, ← List.cons_append, closeLine_append _ (List.cons_ne_nil _ _),
    List.append_assoc]
  rfl

private theorem closeLine_writeDoubleQuoted (text : List Char) :
    closeLine (writeDoubleQuoted text) = writeDoubleQuoted text ++ ['\n'] := by
  rw [writeDoubleQuoted, closeLine_append _ (List.cons_ne_nil _ _), List.append_assoc]
  rfl

theorem Continues.starts {blocks : List Nat} {column : Nat} {rest : List Char}
    (continues : Continues blocks column rest) (c : Char) (first : rest.head? = some c) :
    isBreak c = false ∧ isWhite c = false :=
  ⟨(continues.atToken c first).noBreak, (continues.atToken c first).noWhite⟩

theorem startsToken_of_isPlain {c : Char} {rest : List Char} (plain : IsPlain c rest) :
    StartsToken c := by
  refine startsToken_of_isPrintable plain.inLine.printable plain.inLine.noBreak plain.noSpace ?_
  rintro rfl
  cases plain.starts

section LineEnd

variable {allowsKey : Bool} {line column spaces : Nat} {rest text : List Char}
  {tokens result : List Token} {blocks : List Nat}

private theorem Yields.plainLine {c : Char} {others : List Char} (plain : IsPlain c others)
    (deeper : Deeper column blocks) (continues : Continues blocks spaces rest)
    (yields : (facing true (line + 1) spaces rest (.scalar true (c :: others) :: tokens)
      blocks).Yields result) :
    (facing allowsKey line column (c :: (others ++ '\n' :: (List.replicate spaces ' ' ++ rest)))
      tokens blocks).Yields result := by
  have low : rest ≠ [] → spaces < (surroundings blocks).minColumn := by
    intro nonempty
    have reached := continues.low
    cases blocks with
    | nil => exact absurd (continues.ends rfl) nonempty
    | cons block outer => exact Nat.lt_succ_of_le reached
  have ends (line column : Nat) :
      readPlain (surroundings blocks) none line column
          ('\n' :: (List.replicate spaces ' ' ++ rest)) = some ([], true, ⟨rest, line + 1, spaces⟩) :=
    readPlain_line rfl continues.starts low
  have behind :
      Yields ⟨⟨rest, line + 1, spaces⟩, .scalar true (c :: others) :: tokens, blocks, true,
        keyHere allowsKey line column (c :: (others ++ '\n' :: (List.replicate spaces ' ' ++ rest)))
          tokens blocks, []⟩ result := by
    exact yields.gap (skipGap_atToken continues.atToken) continues.atToken (Nat.le_refl _)
      (keyHere_forgotten deeper (Nat.lt_succ_self line))
  refine behind.step (startsToken_of_isPlain plain) deeper.staysOpen
    (readToken_plain plain (by simp) (by simp) (plain.readPlain rfl
      (minColumn_surroundings_le deeper.staysOpen) (ends _ _))) ?_
  change rest.length ≤ _
  rw [List.length_append, List.length_cons, List.length_append]
  omega

private theorem Yields.singleQuotedLine {indentation : Nat} (deep : 0 < indentation)
    (allowed : allowsSingleQuotes text = true) (noFeed : '\n' ∉ text) (deeper : Deeper column blocks)
    (continues : Continues blocks spaces rest)
    (yields : ∀ line, (facing true line spaces rest (.scalar false text :: tokens) blocks).Yields
      result) :
    (facing allowsKey line column
      (writeSingleQuoted indentation text ++ '\n' :: (List.replicate spaces ' ' ++ rest)) tokens
      blocks).Yields result := by
  have closes : ('\n' :: (List.replicate spaces ' ' ++ rest)).head? ≠ some '\'' := by simp
  have read := readSingleQuoted_written deep allowed noFeed closes line (Nat.succ_pos column)
  rw [writeSingleQuoted_eq, List.cons_append, List.append_assoc, List.singleton_append]
  refine (Yields.lineEnd deeper continues (le_placeAfter _ _ _) (yields _)).step
    ⟨rfl, rfl, by decide, by decide⟩ deeper.staysOpen (readToken_singleQuoted read) ?_
  rw [List.length_append, List.length_cons]
  exact Nat.le_trans (Nat.le_succ _) (Nat.le_add_left _ _)

private theorem Yields.doubleQuotedLine (deeper : Deeper column blocks)
    (continues : Continues blocks spaces rest)
    (yields : (facing true (line + 1) spaces rest (.scalar false text :: tokens) blocks).Yields
      result) :
    (facing allowsKey line column
      (writeDoubleQuoted text ++ '\n' :: (List.replicate spaces ' ' ++ rest)) tokens
      blocks).Yields result := by
  have read := readDoubleQuoted_written text ('\n' :: (List.replicate spaces ' ' ++ rest)) [] line
    (Nat.succ_pos column)
  rw [writeDoubleQuoted, List.append_assoc, List.cons_append, List.singleton_append]
  refine (Yields.lineEnd deeper continues (Nat.le_refl line) yields).step
    ⟨rfl, rfl, by decide, by decide⟩ deeper.staysOpen (readToken_doubleQuoted read) ?_
  rw [List.length_append, List.length_cons]
  exact Nat.le_trans (Nat.le_succ _) (Nat.le_add_left _ _)

private theorem Yields.literalLine (feed : '\n' ∈ text) (allowed : allowsLiteral text = true)
    (deeper : Deeper column blocks) (continues : Continues blocks spaces rest)
    (yields : ∀ line, (facing true line spaces rest (.scalar false text :: tokens) blocks).Yields
      result) :
    (facing allowsKey line column
      (closeLine (writeLiteral (blocks.head?.getD 0 + indentationStep) text) ++
        (List.replicate spaces ' ' ++ rest)) tokens blocks).Yields result := by
  have low : spaces < blocks.head?.getD 0 + 2 := Nat.lt_add_right 1 (Nat.lt_succ_of_le continues.low)
  obtain ⟨body, written, last, read⟩ := readBlock_written allowed (List.ne_nil_of_mem feed)
    blocks.head? low continues.starts line (column + 1)
  rw [indentationStep, written, List.cons_append]
  refine (yields last).step ⟨rfl, rfl, by decide, by decide⟩ deeper.staysOpen
    (readToken_literal read) ?_
  change rest.length ≤ _
  rw [List.length_append, List.length_append]
  omega

theorem Yields.plainText (allowed : allowsPlain text = true) (deeper : Deeper column blocks)
    (continues : Continues blocks spaces rest)
    (yields : (facing true (line + 1) spaces rest (.scalar true text :: tokens) blocks).Yields
      result) :
    (facing allowsKey line column (closeLine text ++ (List.replicate spaces ' ' ++ rest)) tokens
      blocks).Yields result := by
  obtain ⟨c, others, rfl, plain⟩ := exists_isPlain allowed
  rw [closeLine_inLine plain.noBreaks, List.append_assoc, List.singleton_append]
  exact .plainLine plain deeper continues yields

theorem Yields.scalarLine {indentation : Nat}
    (same : indentation = blocks.head?.getD 0 + indentationStep) (text : List Char)
    (deeper : Deeper column blocks) (continues : Continues blocks spaces rest)
    (yields : ∀ line, (facing true line spaces rest
      (.scalar (Style.ofText text == .plain) text :: tokens) blocks).Yields result) :
    (facing allowsKey line column
      (closeLine (writeScalar indentation text) ++ (List.replicate spaces ' ' ++ rest)) tokens
      blocks).Yields result := by
  subst same
  have styled := styled_ofText text
  rw [writeScalar]
  generalize Style.ofText text = style at styled yields
  cases styled with
  | plain isText allowed => exact .plainText allowed deeper continues (yields (line + 1))
  | singleQuoted noFeed allowed =>
      dsimp only
      rw [closeLine_writeSingleQuoted, List.append_assoc, List.singleton_append]
      exact .singleQuotedLine (Nat.succ_pos _) allowed noFeed deeper continues yields
  | doubleQuoted =>
      dsimp only
      rw [closeLine_writeDoubleQuoted, List.append_assoc, List.singleton_append]
      exact .doubleQuotedLine deeper continues (yields (line + 1))
  | literal feed allowed => exact .literalLine feed allowed deeper continues yields

end LineEnd

end Layout

end HostValue.Yaml
