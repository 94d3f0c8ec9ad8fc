import HostValue.Yaml.Scalar
import HostValue.Yaml.Tag
import HostValue.Yaml.Text

/-!
# Layout

The tokens of a text, with those that its indentation makes. A block is opened by the first item or
key at a deeper column than the block around it, and closed by the first token at a lesser one. A
colon may turn what was read before it into a key: what starts in a place for a key is remembered as a
possible key until the line ends, and the colon puts the token of the key in front of it.
-/

namespace HostValue.Yaml

structure PossibleKey where
  /-- Whether it has to become one: it stands where the keys of a block mapping stand. -/
  isRequired : Bool
  position : Nat
  line : Nat
  column : Nat
  /-- The last column of the line at which a colon may make it a key. -/
  lastColumn : Nat

structure Layout where
  cursor : Cursor
  /-- The tokens read so far, the last one first. -/
  tokens : List Token
  /-- The columns of the open blocks, the innermost first. -/
  blocks : List Nat
  allowsKey : Bool
  possibleKey : Option PossibleKey
  /-- The possible keys outside the open brackets, the innermost first. -/
  outerKeys : List (Option PossibleKey)

namespace Layout

def start (text : List Char) : Layout :=
  ⟨.start text, [], [], true, none, []⟩

def inFlow (state : Layout) : Bool :=
  !state.outerKeys.isEmpty

/-- The number of bytes that may lie between the start of a key and its colon. -/
def maxKeySize : Nat :=
  1024

def countWithin : Nat → List Char → Nat
  | _, [] => 0
  | size, c :: rest => if c.utf8Size ≤ size then countWithin (size - c.utf8Size) rest + 1 else 0

def push (state : Layout) (token : Token) : Layout :=
  { state with tokens := token :: state.tokens }

def insert (state : Layout) (position : Nat) (tokens : List Token) : Layout :=
  let newer := state.tokens.length - position
  { state with tokens := state.tokens.take newer ++ tokens.reverse ++ state.tokens.drop newer }

/-! ### Keys -/

/-- A possible key, unless the text went on past it. One that has to become a key fails then. -/
def expire (cursor : Cursor) : Option PossibleKey → Option (Option PossibleKey)
  | none => some none
  | some key =>
    if key.line < cursor.line ∨ key.lastColumn < cursor.column then
      if key.isRequired then none else some none
    else
      some (some key)

def expireKeys (state : Layout) : Option Layout := do
  let key ← expire state.cursor state.possibleKey
  let outer ← state.outerKeys.mapM (expire state.cursor)
  return { state with possibleKey := key, outerKeys := outer }

def dropKey (state : Layout) : Option Layout :=
  if state.possibleKey.any (·.isRequired) then none else some { state with possibleKey := none }

def saveKey (state : Layout) : Option Layout :=
  if state.allowsKey then
    let cursor := state.cursor
    let isRequired := !state.inFlow && state.blocks.head? == some cursor.column
    let lastColumn := cursor.column + countWithin maxKeySize cursor.text
    state.dropKey.map fun state =>
      { state with
        possibleKey := some
          ⟨isRequired, state.tokens.length, cursor.line, cursor.column, lastColumn⟩ }
  else
    some state

/-! ### Blocks -/

def closeBlocks (state : Layout) (column : Nat) : Layout :=
  if state.inFlow then
    state
  else
    let closed := (state.blocks.takeWhile (column < ·)).length
    { state with
      tokens := List.replicate closed .blockEnd ++ state.tokens
      blocks := state.blocks.drop closed }

def closeAllBlocks (state : Layout) : Layout :=
  if state.inFlow then
    state
  else
    { state with
      tokens := List.replicate state.blocks.length .blockEnd ++ state.tokens
      blocks := [] }

def isDeeper (state : Layout) (column : Nat) : Bool :=
  !state.inFlow && state.blocks.head?.all (· < column)

def openBlock (state : Layout) (token : Token) (column position : Nat) : Layout :=
  if state.isDeeper column then
    { state.insert position [token] with blocks := column :: state.blocks }
  else
    state

/-- Opens a block here, unless one is open. Outside brackets this is a place for a key. -/
def openBlockHere (state : Layout) (token : Token) : Option Layout :=
  if state.inFlow then some state
  else if state.allowsKey then
    some (state.openBlock token state.cursor.column state.tokens.length)
  else none

/-! ### The white space between tokens -/

/-- Skips white space, comments and line breaks. Returns whether a key may start behind them. Tabs are
skipped only where they indent nothing; `isComment` says whether a comment has begun. A byte order
mark at the start of a line is skipped too and takes a column. -/
def skipGap (inFlow allowsKey isComment : Bool) (line column : Nat) : List Char → Bool × Cursor
  | [] => (allowsKey, ⟨[], line, column⟩)
  | '\r' :: '\n' :: rest => skipGap inFlow (allowsKey || !inFlow) false (line + 1) 0 rest
  | c :: rest =>
    if isBreak c then
      skipGap inFlow (allowsKey || !inFlow) false (line + 1) 0 rest
    else if isComment || c == ' ' || (c == '\t' && (inFlow || !allowsKey)) ||
        (c == '\ufeff' && column == 0) then
      skipGap inFlow allowsKey isComment line (column + 1) rest
    else if c == '#' then
      skipGap inFlow allowsKey true line (column + 1) rest
    else
      (allowsKey, ⟨c :: rest, line, column⟩)

def toToken (state : Layout) : Layout :=
  let cursor := state.cursor
  let (allowsKey, cursor) :=
    skipGap state.inFlow state.allowsKey false cursor.line cursor.column cursor.text
  { state with cursor, allowsKey }

/-! ### Tokens -/

def readMark (state : Layout) (token : Token) (length : Nat) (allowsKey : Bool) : Option Layout :=
  state.dropKey.map fun state =>
    { state.push token with cursor := state.cursor.skip length, allowsKey }

def readDocumentMark (state : Layout) (token : Token) : Option Layout :=
  state.closeAllBlocks.readMark token 3 false

def readDirectiveLine (state : Layout) : Option Layout := do
  let state ← state.closeAllBlocks.dropKey
  let (token, cursor) ← readDirective (state.cursor.skip 1)
  return { state.push token with cursor, allowsKey := false }

def readOpening (state : Layout) (token : Token) : Option Layout := do
  let state ← state.saveKey
  return { state.push token with
    cursor := state.cursor.skip 1
    allowsKey := true
    possibleKey := none
    outerKeys := state.possibleKey :: state.outerKeys }

def readClosing (state : Layout) (token : Token) : Option Layout := do
  let state ← state.readMark token 1 false
  return match state.outerKeys with
    | [] => state
    | key :: outer => { state with possibleKey := key, outerKeys := outer }

/-- A colon before a value. It makes the possible key a key; without one, the key is empty. -/
def readValueMark (state : Layout) : Option Layout :=
  match state.possibleKey with
  | some key =>
    let state := state.insert key.position [.key]
    let state := { state.openBlock .blockMapping key.column key.position with possibleKey := none }
    some { state.push .value with cursor := state.cursor.skip 1, allowsKey := false }
  | none => do
    let state ← state.openBlockHere .blockMapping
    return { state.push .value with cursor := state.cursor.skip 1, allowsKey := !state.inFlow }

def readName (state : Layout) (token : List Char → Token) : Option Layout := do
  let state ← state.saveKey
  let cursor := state.cursor.skip 1
  let (name, rest) ← readAnchorName cursor.text
  return { state.push (token name) with cursor := cursor.moveTo rest, allowsKey := false }

def readTagToken (state : Layout) : Option Layout := do
  let state ← state.saveKey
  let cursor := state.cursor.skip 1
  let (token, rest) ← readTag state.inFlow cursor.text
  return { state.push token with cursor := cursor.moveTo rest, allowsKey := false }

def readBlockScalar (state : Layout) (isFolded : Bool) : Option Layout := do
  let state ← state.dropKey
  let (text, cursor) ← readBlock isFolded state.blocks.head? (state.cursor.skip 1)
  return { state.push (.scalar false text) with cursor, allowsKey := true }

def readQuotedScalar (state : Layout)
    (read : Option Gap → Nat → Nat → List Char → Option (List Char × Cursor)) : Option Layout := do
  let state ← state.saveKey
  let cursor := state.cursor.skip 1
  let (text, cursor) ← read none cursor.line cursor.column cursor.text
  return { state.push (.scalar false text) with cursor, allowsKey := false }

def readPlainScalar (state : Layout) : Option Layout := do
  let state ← state.saveKey
  let around : Surroundings := ⟨state.inFlow, state.blocks.head?.elim 0 (· + 1)⟩
  let cursor := state.cursor
  let (text, isBroken, cursor) ← readPlain around none cursor.line cursor.column cursor.text
  return { state.push (.scalar true text) with cursor, allowsKey := isBroken }

def readToken (state : Layout) (c : Char) (rest : List Char) : Option Layout :=
  if state.cursor.column == 0 && c == '%' then state.readDirectiveLine
  else if state.cursor.column == 0 && startsDocument (c :: rest) then
    state.readDocumentMark .documentStart
  else if state.cursor.column == 0 && endsDocument (c :: rest) then
    state.readDocumentMark .documentEnd
  else if c == '[' then state.readOpening .flowSequence
  else if c == '{' then state.readOpening .flowMapping
  else if c == ']' then state.readClosing .flowSequenceEnd
  else if c == '}' then state.readClosing .flowMappingEnd
  else if c == ',' then state.readMark .comma 1 true
  else if c == '-' && endsWord rest then do
    (← state.openBlockHere .blockSequence).readMark .item 1 true
  else if c == '?' && (state.inFlow || endsWord rest) then do
    (← state.openBlockHere .blockMapping).readMark .key 1 (!state.inFlow)
  else if c == ':' && (state.inFlow || endsWord rest) then state.readValueMark
  else if c == '*' then state.readName .alias
  else if c == '&' then state.readName .anchor
  else if c == '!' then state.readTagToken
  else if c == '|' && !state.inFlow then state.readBlockScalar false
  else if c == '>' && !state.inFlow then state.readBlockScalar true
  else if c == '\'' then state.readQuotedScalar readSingleQuoted
  else if c == '"' then state.readQuotedScalar readDoubleQuoted
  else if startsPlain state.inFlow c rest then state.readPlainScalar
  else none

def run : Nat → Layout → Option (List Token)
  | 0, _ => none
  | fuel + 1, state => do
    let state ← state.toToken.expireKeys
    let state := state.closeBlocks state.cursor.column
    match state.cursor.text with
    | [] => return (← state.closeAllBlocks.dropKey).tokens.reverse
    | c :: rest => run fuel (← state.readToken c rest)

end Layout

/-- The tokens of a text. Every token takes a character, so that one step for each character and one
for the end suffice. -/
def tokens? (text : List Char) : Option (List Token) :=
  if text.all isAllowed then Layout.run (text.length + 1) (.start text) else none

end HostValue.Yaml
