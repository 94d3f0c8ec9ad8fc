import HostValue.Proofs.Yaml.Text
import HostValue.Yaml.Layout

/-!
# Steps of the layout

What the reader of tokens does before a token that stands in a block: it passes over the gap before it,
forgets what could have become a key, closes the blocks that the token is no part of, and opens the one
that the token begins. Statements go backwards, from the tokens that are read behind a step to those
that are read before it.
-/

namespace HostValue.Yaml.Layout

/-- Reading from the state on gives the tokens, as long as there are more steps than characters. -/
def Yields (state : Layout) (tokens : List Token) : Prop :=
  ∀ fuel, state.cursor.text.length < fuel → run fuel state = some tokens

/-- The state of reading outside brackets, in front of a text, with nothing that may become a key. -/
def facing (allowsKey : Bool) (line column : Nat) (text : List Char) (tokens : List Token)
    (blocks : List Nat) : Layout :=
  ⟨⟨text, line, column⟩, tokens, blocks, allowsKey, none, []⟩

def settle (state : Layout) : Option Layout :=
  state.toToken.expireKeys

def leave (state : Layout) : Layout :=
  state.closeBlocks state.cursor.column

def advance (fuel : Nat) (state : Layout) : Option (List Token) :=
  match state.cursor.text with
  | [] => state.closeAllBlocks.dropKey.map fun state => state.tokens.reverse
  | c :: rest => (state.readToken c rest).bind (run fuel)

theorem run_succ (fuel : Nat) (state : Layout) :
    run (fuel + 1) state = state.settle.bind fun state => advance fuel state.leave := by
  rw [run, settle]
  cases state.toToken.expireKeys with
  | none => rfl
  | some state =>
      simp only [Option.bind_eq_bind, Option.bind_some, advance, leave]
      cases (state.closeBlocks state.cursor.column).cursor.text with
      | nil =>
          dsimp only
          cases (state.closeBlocks state.cursor.column).closeAllBlocks.dropKey <;> rfl
      | cons c rest => rfl

theorem Yields.of_settle {state other : Layout} {tokens : List Token} (yields : other.Yields tokens)
    (same : state.settle = other.settle)
    (length : other.cursor.text.length ≤ state.cursor.text.length) : state.Yields tokens := by
  intro fuel enough
  obtain ⟨fuel, rfl⟩ := Nat.exists_eq_succ_of_ne_zero (n := fuel) (by omega)
  rw [Nat.succ_eq_add_one, run_succ, same, ← run_succ]
  exact yields (fuel + 1) (by omega)

/-! ### Gaps -/

structure StartsToken (c : Char) : Prop where
  noBreak : isBreak c = false
  noWhite : isWhite c = false
  noComment : c ≠ '#'
  noMark : c ≠ '\ufeff'

theorem startsToken_of_isPrintable {c : Char} (printable : isPrintable c = true)
    (noBreak : isBreak c = false) (noSpace : c ≠ ' ') (noComment : c ≠ '#') : StartsToken c :=
  ⟨noBreak, isWhite_eq_false printable noSpace, noComment, ne_of_isPrintable printable rfl⟩

def AtToken (text : List Char) : Prop :=
  ∀ c, text.head? = some c → StartsToken c

theorem atToken_cons {c : Char} (starts : StartsToken c) (rest : List Char) : AtToken (c :: rest) := by
  rintro _ ⟨⟩
  exact starts

section Gaps

variable {inFlow allowsKey : Bool} {line column : Nat} {c : Char} {rest : List Char}

theorem skipGap_space :
    skipGap inFlow allowsKey false line column (' ' :: rest) =
      skipGap inFlow allowsKey false line (column + 1) rest := by
  rw [skipGap]
  · rfl
  · exact fun _ isReturn => by cases isReturn

theorem skipGap_spaces (spaces : Nat) :
    skipGap inFlow allowsKey false line column (List.replicate spaces ' ' ++ rest) =
      skipGap inFlow allowsKey false line (column + spaces) rest := by
  induction spaces generalizing column with
  | zero => rfl
  | succ spaces ih =>
      rw [List.replicate_succ, List.cons_append, skipGap_space, ih, Nat.add_right_comm,
        Nat.add_assoc]

theorem skipGap_break (breaks : isBreak c = true) (notReturn : c ≠ '\r') :
    skipGap false allowsKey false line column (c :: rest) =
      skipGap false true false (line + 1) 0 rest := by
  rw [skipGap, if_pos breaks]
  · simp
  · exact fun _ isReturn _ => notReturn isReturn

theorem skipGap_atToken {text : List Char} (atToken : AtToken text) :
    skipGap inFlow allowsKey false line column text = (allowsKey, ⟨text, line, column⟩) := by
  cases text with
  | nil => rfl
  | cons c rest =>
      obtain ⟨noBreak, noWhite, noComment, noMark⟩ := atToken c rfl
      rw [isWhite, Bool.or_eq_false_iff] at noWhite
      rw [skipGap]
      · simp [noBreak, noWhite.1, noWhite.2, noComment, noMark]
      · exact fun _ isReturn _ => ne_return_of_not_isBreak noBreak isReturn

end Gaps

private theorem expire_later {cursor : Cursor} {possibleKey : Option PossibleKey}
    (forgotten : ∀ key, possibleKey = some key → key.isRequired = false ∧ key.line < cursor.line) :
    expire cursor possibleKey = some none := by
  cases possibleKey with
  | none => rfl
  | some key =>
      obtain ⟨notRequired, earlier⟩ := forgotten key rfl
      rw [expire, if_pos (.inl earlier), if_neg (by simp [notRequired])]

theorem settle_of_skipGap {line column : Nat} {text : List Char} {tokens : List Token}
    {blocks : List Nat} {allowsKey allows : Bool} {possibleKey : Option PossibleKey} {cursor : Cursor}
    (gap : skipGap false allowsKey false line column text = (allows, cursor))
    (forgotten : expire cursor possibleKey = some none) :
    settle ⟨⟨text, line, column⟩, tokens, blocks, allowsKey, possibleKey, []⟩ =
      some (facing allows cursor.line cursor.column cursor.text tokens blocks) := by
  have toToken :
      toToken ⟨⟨text, line, column⟩, tokens, blocks, allowsKey, possibleKey, []⟩ =
        ⟨cursor, tokens, blocks, allows, possibleKey, []⟩ := by
    simp only [Layout.toToken, Layout.inFlow, List.isEmpty_nil, Bool.not_true, gap]
  rw [settle, toToken, expireKeys]
  simp only [forgotten]
  rfl

theorem settle_facing {line column : Nat} {text : List Char} {tokens : List Token} {blocks : List Nat}
    {allowsKey : Bool} (atToken : AtToken text) :
    settle (facing allowsKey line column text tokens blocks) =
      some (facing allowsKey line column text tokens blocks) :=
  settle_of_skipGap (skipGap_atToken atToken) rfl

section Facing

variable {allowsKey : Bool} {line column : Nat} {text rest : List Char} {tokens result : List Token}
  {blocks : List Nat}

theorem Yields.space (yields : (facing allowsKey line (column + 1) rest tokens blocks).Yields result) :
    (facing allowsKey line column (' ' :: rest) tokens blocks).Yields result := by
  refine yields.of_settle ?_ (Nat.le_succ _)
  simp only [settle, toToken, facing, inFlow, skipGap_space]

theorem Yields.gap {possibleKey : Option PossibleKey} {allows : Bool} {last spaces : Nat}
    (yields : (facing allows last spaces rest tokens blocks).Yields result)
    (gap : skipGap false allowsKey false line column text = (allows, ⟨rest, last, spaces⟩))
    (atToken : AtToken rest) (length : rest.length ≤ text.length)
    (forgotten : ∀ key, possibleKey = some key → key.isRequired = false ∧ key.line < last) :
    Yields ⟨⟨text, line, column⟩, tokens, blocks, allowsKey, possibleKey, []⟩ result := by
  refine yields.of_settle ?_ length
  rw [settle_of_skipGap gap (expire_later forgotten), settle_facing atToken]

end Facing

/-! ### Blocks -/

def StaysOpen (column : Nat) (blocks : List Nat) : Prop :=
  ∀ block, blocks.head? = some block → block ≤ column

def Deeper (column : Nat) (blocks : List Nat) : Prop :=
  ∀ block, blocks.head? = some block → block < column

theorem Deeper.staysOpen {column : Nat} {blocks : List Nat} (deeper : Deeper column blocks) :
    StaysOpen column blocks :=
  fun block first => Nat.le_of_lt (deeper block first)

theorem deeper_cons {block column : Nat} {outer : List Nat} (inside : block < column) :
    Deeper column (block :: outer) := by
  rintro _ ⟨⟩
  exact inside

theorem leave_of_staysOpen {state : Layout}
    (staysOpen : StaysOpen state.cursor.column state.blocks) : state.leave = state := by
  have none : state.blocks.takeWhile (state.cursor.column < ·) = [] := by
    cases blocks : state.blocks with
    | nil => rfl
    | cons block outer =>
        have low : ¬state.cursor.column < block :=
          Nat.not_lt.mpr (staysOpen block (by rw [blocks]; rfl))
        rw [List.takeWhile_cons_of_neg (by simpa using low)]
  rw [leave, closeBlocks]
  split
  · rfl
  · rw [none]
    rfl

section Steps

variable {allowsKey : Bool} {line column : Nat} {c : Char} {rest : List Char}
  {tokens result : List Token} {blocks : List Nat}

theorem Yields.step {next : Layout} (yields : next.Yields result) (starts : StartsToken c)
    (staysOpen : StaysOpen column blocks)
    (read : (facing allowsKey line column (c :: rest) tokens blocks).readToken c rest = some next)
    (shorter : next.cursor.text.length ≤ rest.length) :
    (facing allowsKey line column (c :: rest) tokens blocks).Yields result := by
  intro fuel enough
  change rest.length + 1 < fuel at enough
  obtain ⟨fuel, rfl⟩ := Nat.exists_eq_succ_of_ne_zero (n := fuel) (by omega)
  rw [Nat.succ_eq_add_one, run_succ, settle_facing (atToken_cons starts rest), Option.bind_some,
    leave_of_staysOpen staysOpen]
  change (readToken _ c rest).bind (run fuel) = _
  rw [read, Option.bind_some]
  exact yields fuel (by omega)

private theorem leave_facing {text : List Char} :
    (facing allowsKey line column text tokens blocks).leave =
      facing allowsKey line column text
        (List.replicate (blocks.takeWhile (column < ·)).length .blockEnd ++ tokens)
        (blocks.drop (blocks.takeWhile (column < ·)).length) :=
  rfl

theorem advance_end (fuel : Nat) :
    advance fuel (facing allowsKey line column [] tokens blocks).leave =
      some (List.replicate blocks.length Token.blockEnd ++ tokens).reverse := by
  have closed : (blocks.takeWhile (column < ·)).length ≤ blocks.length :=
    (List.takeWhile_sublist _).length_le
  have all :
      List.replicate (blocks.drop (blocks.takeWhile (column < ·)).length).length Token.blockEnd ++
          List.replicate (blocks.takeWhile (column < ·)).length Token.blockEnd =
        List.replicate blocks.length Token.blockEnd := by
    rw [List.replicate_append_replicate, List.length_drop]
    congr 1
    omega
  rw [← all, List.append_assoc]
  rfl

theorem yields_end :
    (facing allowsKey line column [] tokens blocks).Yields
      (List.replicate blocks.length Token.blockEnd ++ tokens).reverse := by
  intro fuel enough
  obtain ⟨fuel, rfl⟩ := Nat.exists_eq_succ_of_ne_zero (n := fuel) (by omega)
  rw [Nat.succ_eq_add_one, run_succ, settle_facing (fun _ none => by cases none), Option.bind_some,
    advance_end]

theorem Yields.close {block : Nat} {text : List Char}
    (yields : (facing allowsKey line column text (Token.blockEnd :: tokens) blocks).Yields result)
    (atToken : AtToken text) (low : text ≠ [] → column < block) :
    (facing allowsKey line column text tokens (block :: blocks)).Yields result := by
  intro fuel enough
  have read := yields fuel enough
  obtain ⟨fuel, rfl⟩ := Nat.exists_eq_succ_of_ne_zero (n := fuel) (by omega)
  rw [Nat.succ_eq_add_one, run_succ, settle_facing atToken, Option.bind_some] at read ⊢
  rw [← read]
  cases text with
  | nil =>
      rw [advance_end, advance_end, List.length_cons, List.replicate_succ', List.append_assoc,
        List.singleton_append]
  | cons c rest =>
      have first :
          (block :: blocks).takeWhile (column < ·) = block :: blocks.takeWhile (column < ·) :=
        List.takeWhile_cons_of_pos (decide_eq_true (low (List.cons_ne_nil c rest)))
      have same :
          leave (facing allowsKey line column (c :: rest) tokens (block :: blocks)) =
            leave (facing allowsKey line column (c :: rest) (.blockEnd :: tokens) blocks) := by
        rw [leave_facing, leave_facing, first, List.length_cons, List.replicate_succ',
          List.append_assoc, List.singleton_append, List.drop_succ_cons]
      rw [same]

end Steps

/-- A token at a column opens a block there, behind the blocks and tokens before it, unless one is
open. -/
inductive Opening (token : Token) (column : Nat) :
    List Nat → List Token → List Nat → List Token → Prop where
  | already {outer : List Nat} {tokens : List Token} :
      Opening token column (column :: outer) tokens outer tokens
  | anew {outer : List Nat} {tokens : List Token} (deeper : Deeper column outer) :
      Opening token column outer tokens outer (token :: tokens)

theorem Opening.staysOpen {token : Token} {column : Nat} {blocks outer : List Nat}
    {tokens opened : List Token} (opening : Opening token column blocks tokens outer opened) :
    StaysOpen column blocks := by
  cases opening with
  | already =>
      rintro _ ⟨⟩
      exact Nat.le_refl column
  | anew deeper => exact deeper.staysOpen

theorem insert_behind {state : Layout} {newer older : List Token}
    (tokens : state.tokens = newer ++ older) (inserted : List Token) :
    state.insert older.length inserted =
      { state with tokens := newer ++ inserted.reverse ++ older } := by
  have length : state.tokens.length - older.length = newer.length := by
    rw [tokens, List.length_append]
    omega
  rw [insert, length, tokens, List.take_left, List.drop_left]

theorem Opening.openBlock {token : Token} {column : Nat} {blocks outer : List Nat}
    {tokens opened : List Token} (opening : Opening token column blocks tokens outer opened)
    (state : Layout) {newer : List Token} (outside : state.outerKeys = [])
    (stateBlocks : state.blocks = blocks) (stateTokens : state.tokens = newer ++ tokens) :
    state.openBlock token column tokens.length =
      { state with tokens := newer ++ opened, blocks := column :: outer } := by
  cases opening with
  | already =>
      have shallow : state.isDeeper column = false := by
        rw [isDeeper, stateBlocks]
        simp
      rw [Layout.openBlock, shallow, ← stateTokens, ← stateBlocks]
      rfl
  | anew deeper =>
      have isDeep : state.isDeeper column = true := by
        rw [isDeeper, stateBlocks, inFlow, outside]
        cases blocks with
        | nil => rfl
        | cons block _ => simpa using deeper block rfl
      rw [Layout.openBlock, isDeep, if_pos rfl, insert_behind stateTokens]
      simp [stateBlocks]

/-! ### Possible keys -/

section PossibleKeys

variable {allowsKey : Bool} {line column : Nat} {text rest : List Char} {tokens : List Token}
  {blocks : List Nat}

def keyHere (allowsKey : Bool) (line column : Nat) (text : List Char) (tokens : List Token)
    (blocks : List Nat) : Option PossibleKey :=
  if allowsKey then
    some ⟨blocks.head? == some column, tokens.length, line, column,
      column + countWithin maxKeySize text⟩
  else
    none

theorem saveKey_facing :
    (facing allowsKey line column text tokens blocks).saveKey =
      some ⟨⟨text, line, column⟩, tokens, blocks, allowsKey,
        keyHere allowsKey line column text tokens blocks, []⟩ := by
  cases allowsKey <;> rfl

/-- Inside a block, nothing has to become a key, so that it is forgotten on the next line. -/
theorem keyHere_forgotten (deeper : Deeper column blocks) {last : Nat} (later : line < last)
    (key : PossibleKey) (here : keyHere allowsKey line column text tokens blocks = some key) :
    key.isRequired = false ∧ key.line < last := by
  cases allowsKey with
  | false => cases here
  | true =>
      cases here
      refine ⟨?_, later⟩
      rw [beq_eq_false_iff_ne]
      exact fun first => Nat.lt_irrefl column (deeper column first)

/-- What stands behind the line of a value: a token of an open block, or nothing. -/
structure Continues (blocks : List Nat) (column : Nat) (rest : List Char) : Prop where
  atToken : AtToken rest
  low : column ≤ blocks.head?.getD 0
  ends : blocks = [] → rest = []

theorem Continues.le {inside : Nat} (continues : Continues blocks column rest)
    (deeper : Deeper inside blocks) : column ≤ inside := by
  have low := continues.low
  cases blocks with
  | nil => exact Nat.le_trans low (Nat.zero_le inside)
  | cons block outer => exact Nat.le_trans low (Nat.le_of_lt (deeper block rfl))

theorem Continues.lt {inside : Nat} (continues : Continues blocks column rest)
    (deeper : Deeper inside blocks) (more : rest ≠ []) : column < inside := by
  have low := continues.low
  cases blocks with
  | nil => exact absurd (continues.ends rfl) more
  | cons block outer => exact Nat.lt_of_le_of_lt low (deeper block rfl)

theorem Yields.lineEnd {result written : List Token} {last spaces : Nat} {behind : Nat}
    (deeper : Deeper column blocks) (continues : Continues blocks spaces rest) (later : line ≤ last)
    (yields : (facing true (last + 1) spaces rest written blocks).Yields result) :
    Yields ⟨⟨'\n' :: (List.replicate spaces ' ' ++ rest), last, behind⟩, written, blocks, false,
      keyHere allowsKey line column text tokens blocks, []⟩ result := by
  refine yields.gap ?_ continues.atToken ?_ (keyHere_forgotten deeper (Nat.lt_succ_of_le later))
  · rw [skipGap_break rfl (by decide), skipGap_spaces, skipGap_atToken continues.atToken,
      Nat.zero_add]
  · rw [List.length_cons, List.length_append]
    omega

end PossibleKeys

end HostValue.Yaml.Layout
