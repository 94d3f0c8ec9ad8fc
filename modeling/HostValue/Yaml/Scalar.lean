import HostValue.DataModel
import HostValue.Number.Digits
import HostValue.Yaml.Text

/-!
# Scalars

How the scalars of each style are read, and which value the text of a scalar means.
-/

namespace HostValue.Yaml

/-! ## Plain scalars -/

structure Surroundings where
  inFlow : Bool
  minColumn : Nat

def startsPlain (inFlow : Bool) (c : Char) (rest : List Char) : Bool :=
  if c == '-' then !endsWord rest
  else if c == '?' || c == ':' then !inFlow && !endsWord rest
  else !isIndicator c && !isWhite c

def Surroundings.endsPlain (around : Surroundings) (gap : Option Gap) (column : Nat) (c : Char)
    (rest : List Char) : Bool :=
  (gap.isSome &&
    (c == '#' || (column == 0 && isDocumentMark (c :: rest)) ||
      (!around.inFlow && column < around.minColumn))) ||
    (c == ':' && endsWord rest) || (around.inFlow && isFlowMark c)

/-- Reads a plain scalar from where it goes on after a gap, or in the middle of a word. Returns its
text, whether a line break lies between its end and the next character, and the place of that
character. A tab does not indent a line, and inside brackets a colon does not stand before a mark
of these. -/
def readPlain (around : Surroundings) (gap : Option Gap) (line column : Nat) :
    List Char → Option (List Char × Bool × Cursor)
  | [] => some ([], Gap.hasBreak gap, ⟨[], line, column⟩)
  | '\r' :: '\n' :: rest => readPlain around (some (Gap.addBreak gap '\n')) (line + 1) 0 rest
  | c :: rest =>
    if isBreak c then
      readPlain around (some (Gap.addBreak gap c)) (line + 1) 0 rest
    else if isWhite c then
      if c == '\t' && Gap.hasBreak gap && column < around.minColumn then
        none
      else
        readPlain around (some (Gap.addWhite gap c)) line (column + 1) rest
    else if around.endsPlain gap column c rest then
      some ([], Gap.hasBreak gap, ⟨c :: rest, line, column⟩)
    else if around.inFlow && c == ':' && rest.head?.any (fun d => d == '?' || isFlowMark d) then
      none
    else
      match readPlain around none line (column + 1) rest with
      | some (text, isBroken, cursor) => some (Gap.fold gap ++ c :: text, isBroken, cursor)
      | none => none

/-! ## Quoted scalars -/

/-- Reads a scalar in single quotes from behind its opening quote. A mark of a document does not
stand inside it. -/
def readSingleQuoted (gap : Option Gap) (line column : Nat) :
    List Char → Option (List Char × Cursor)
  | [] => none
  | '\r' :: '\n' :: rest => readSingleQuoted (some (Gap.addBreak gap '\n')) (line + 1) 0 rest
  | '\'' :: '\'' :: rest =>
    match readSingleQuoted none line (column + 2) rest with
    | some (text, cursor) => some (Gap.fold gap ++ '\'' :: text, cursor)
    | none => none
  | c :: rest =>
    if isBreak c then
      readSingleQuoted (some (Gap.addBreak gap c)) (line + 1) 0 rest
    else if isWhite c then
      readSingleQuoted (some (Gap.addWhite gap c)) line (column + 1) rest
    else if column == 0 && isDocumentMark (c :: rest) then
      none
    else if c == '\'' then
      some (Gap.fold gap, ⟨rest, line, column + 1⟩)
    else
      match readSingleQuoted none line (column + 1) rest with
      | some (text, cursor) => some (Gap.fold gap ++ c :: text, cursor)
      | none => none

def unescape? : Char → Option Char
  | '0' => some '\x00'
  | 'a' => some '\x07'
  | 'b' => some '\x08'
  | 't' => some '\t'
  | '\t' => some '\t'
  | 'n' => some '\n'
  | 'v' => some '\x0b'
  | 'f' => some '\x0c'
  | 'r' => some '\r'
  | 'e' => some '\x1b'
  | ' ' => some ' '
  | '"' => some '"'
  | '/' => some '/'
  | '\\' => some '\\'
  | 'N' => some '\u0085'
  | '_' => some '\u00a0'
  | 'L' => some '\u2028'
  | 'P' => some '\u2029'
  | _ => none

def charOfHex? (digits : List Char) : Option Char :=
  match numberInBase? 16 digits with
  | some code => if code.isValidChar then some (Char.ofNat code) else none
  | none => none

def joinText (gap : Option Gap) (c : Option Char) (read : Option (List Char × Cursor)) :
    Option (List Char × Cursor) :=
  match c, read with
  | some c, some (text, cursor) => some (Gap.fold gap ++ c :: text, cursor)
  | _, _ => none

def joinGap (gap : Option Gap) (read : Option (List Char × Cursor)) : Option (List Char × Cursor) :=
  match read with
  | some (text, cursor) => some (Gap.fold gap ++ text, cursor)
  | none => none

def readDoubleQuoted (gap : Option Gap) (line column : Nat) :
    List Char → Option (List Char × Cursor)
  | [] => none
  | '\r' :: '\n' :: rest => readDoubleQuoted (some (Gap.addBreak gap '\n')) (line + 1) 0 rest
  | '\\' :: '\r' :: '\n' :: rest =>
    joinGap gap (readDoubleQuoted (some (.breaks none [])) (line + 1) 0 rest)
  | '\\' :: 'x' :: a :: b :: rest =>
    joinText gap (charOfHex? [a, b]) (readDoubleQuoted none line (column + 4) rest)
  | '\\' :: 'u' :: a :: b :: c :: d :: rest =>
    joinText gap (charOfHex? [a, b, c, d]) (readDoubleQuoted none line (column + 6) rest)
  | '\\' :: 'U' :: a :: b :: c :: d :: e :: f :: g :: h :: rest =>
    joinText gap (charOfHex? [a, b, c, d, e, f, g, h])
      (readDoubleQuoted none line (column + 10) rest)
  | '\\' :: c :: rest =>
    if isBreak c then
      joinGap gap (readDoubleQuoted (some (.breaks none [])) (line + 1) 0 rest)
    else
      joinText gap (unescape? c) (readDoubleQuoted none line (column + 2) rest)
  | c :: rest =>
    if isBreak c then
      readDoubleQuoted (some (Gap.addBreak gap c)) (line + 1) 0 rest
    else if isWhite c then
      readDoubleQuoted (some (Gap.addWhite gap c)) line (column + 1) rest
    else if column == 0 && isDocumentMark (c :: rest) then
      none
    else if c == '"' then
      some (Gap.fold gap, ⟨rest, line, column + 1⟩)
    else
      joinText gap (some c) (readDoubleQuoted none line (column + 1) rest)

/-! ## Block scalars -/

/-- What becomes of the line breaks at the end of a block scalar. -/
inductive Chomping where
  | strip
  | clip
  | keep
  deriving DecidableEq

def readChomping : List Char → Chomping × List Char
  | '-' :: rest => (.strip, rest)
  | '+' :: rest => (.keep, rest)
  | text => (.clip, text)

def readIndentation : List Char → Option (Option Nat × List Char)
  | [] => some (none, [])
  | c :: rest =>
    if c == '0' then none
    else if c.isDigit then some (some (c.toNat - '0'.toNat), rest)
    else some (none, c :: rest)

def readBlockHeader (text : List Char) : Option (Chomping × Option Nat × List Char) :=
  match readIndentation text with
  | none => none
  | some (some indentation, text) =>
    let (chomping, text) := readChomping text
    some (chomping, some indentation, text)
  | some (none, text) =>
    let (chomping, text) := readChomping text
    if chomping = .clip then
      some (chomping, none, text)
    else
      (readIndentation text).map fun (indentation, text) => (chomping, indentation, text)

/-- The greatest indentation among the empty lines here and the line after them. A tab does not
indent. -/
def measureIndentation (greatest column : Nat) : List Char → Option Nat
  | [] => some (max greatest column)
  | c :: rest =>
    if c == ' ' then measureIndentation greatest (column + 1) rest
    else if c == '\t' then none
    else if isBreak c then measureIndentation (max greatest column) 0 rest
    else some (max greatest column)

/-- The part of a block scalar that is still open: its last line break, the empty lines after it, and
whether the line before it starts with white space. -/
structure OpenLines where
  first : Option Char
  others : List Char
  isWhiteBefore : Bool

namespace OpenLines

def start : OpenLines :=
  ⟨none, [], false⟩

def join (lines : OpenLines) (isFolded : Bool) (c : Char) : List Char :=
  if isFolded && lines.first == some '\n' && !lines.isWhiteBefore && !isWhite c then
    if lines.others.isEmpty then [' '] else lines.others
  else
    lines.first.toList ++ lines.others

def chomp (lines : OpenLines) : Chomping → List Char
  | .strip => []
  | .clip => lines.first.toList
  | .keep => lines.first.toList ++ lines.others

end OpenLines

structure BlockStyle where
  isFolded : Bool
  chomping : Chomping
  indentation : Nat

mutual

/-- Reads a block scalar from inside a line, the first character of which is white space or not. -/
def BlockStyle.readLine (style : BlockStyle) (isWhiteLine : Bool) (line column : Nat) :
    List Char → Option (List Char × Cursor)
  | [] => some ([], ⟨[], line, column⟩)
  | '\r' :: '\n' :: rest => style.readLines ⟨some '\n', [], isWhiteLine⟩ (line + 1) 0 rest
  | c :: rest =>
    if isBreak c then
      style.readLines ⟨some (normalBreak c), [], isWhiteLine⟩ (line + 1) 0 rest
    else
      match style.readLine isWhiteLine line (column + 1) rest with
      | some (text, cursor) => some (c :: text, cursor)
      | none => none

/-- Reads a block scalar from before the indentation of a line. -/
def BlockStyle.readLines (style : BlockStyle) (lines : OpenLines) (line column : Nat) :
    List Char → Option (List Char × Cursor)
  | [] => some (lines.chomp style.chomping, ⟨[], line, column⟩)
  | '\r' :: '\n' :: rest =>
    style.readLines { lines with others := lines.others ++ ['\n'] } (line + 1) 0 rest
  | c :: rest =>
    if isBreak c then
      style.readLines { lines with others := lines.others ++ [normalBreak c] } (line + 1) 0 rest
    else if column < style.indentation then
      if c == ' ' then
        style.readLines lines line (column + 1) rest
      else if c == '\t' then
        none
      else
        some (lines.chomp style.chomping, ⟨c :: rest, line, column⟩)
    else
      match style.readLine (isWhite c) line (column + 1) rest with
      | some (text, cursor) => some (lines.join style.isFolded c ++ c :: text, cursor)
      | none => none

end

/-- Reads a block scalar from behind its first character. The lines of the enclosing block start at
`outer`, if there is one. -/
def readBlock (isFolded : Bool) (outer : Option Nat) (cursor : Cursor) :
    Option (List Char × Cursor) := do
  let (chomping, indentation, rest) ← readBlockHeader cursor.text
  let cursor ← (cursor.moveTo rest).skipBlankEnd?
  let indentation ← match indentation with
    | some more => some (outer.getD 0 + more)
    | none =>
      (measureIndentation 0 cursor.column cursor.text).map fun greatest =>
        max greatest (max (outer.elim 0 (· + 1)) 1)
  BlockStyle.readLines ⟨isFolded, chomping, indentation⟩ .start cursor.line cursor.column cursor.text

/-! ## Meaning -/

def isNull (text : List Char) : Bool :=
  text == "null".toList || text == "Null".toList || text == "NULL".toList || text == ['~']

def boolean? (text : List Char) : Option Bool :=
  if text = "true".toList ∨ text = "True".toList ∨ text = "TRUE".toList then some true
  else if text = "false".toList ∨ text = "False".toList ∨ text = "FALSE".toList then some false
  else none

def withoutPlus : List Char → List Char
  | '+' :: rest => rest
  | text => text

/-- Whether a text is digits behind a needless zero. Such a text is no number. -/
def hasNeedlessZero (text : List Char) : Bool :=
  match withoutSign text with
  | '0' :: digit :: rest => (digit :: rest).all Char.isDigit
  | _ => false

/-- The value of a whole number without sign: in decimal, or behind `0x`, `0o` or `0b` in another
base. -/
def natural? : List Char → Option Nat
  | '0' :: 'x' :: digits => numberInBase? 16 digits
  | '0' :: 'o' :: digits => numberInBase? 8 digits
  | '0' :: 'b' :: digits => numberInBase? 2 digits
  | digits => if hasNeedlessZero digits then none else numberInBase? 10 digits

/-- The whole number that a text stands for. Beyond sixty-four bits it needs 128, and what does not
fit these is none. -/
def whole? (text : List Char) : Option DataNode :=
  match natural? (withoutPlus text), text with
  | some number, _ =>
    if number < UInt64.size then some (.unsigned number.toUInt64)
    else if number < Nat.pow 2 128 then some (.wideUnsigned number)
    else none
  | none, '-' :: digits =>
    match natural? digits with
    | some number =>
      if number ≤ Nat.pow 2 63 then some (.signed (Int64.ofInt (-number)))
      else if number ≤ Nat.pow 2 127 then some (.wideSigned (-number))
      else none
    | none => none
  | none, _ => none

def exponent? : List Char → Option Int
  | [] => some 0
  | mark :: rest =>
    if mark = 'e' ∨ mark = 'E' then
      match rest with
      | '-' :: digits => (numberInBase? 10 digits).map fun number => -(number : Int)
      | _ => (numberInBase? 10 (withoutPlus rest)).map Int.ofNat
    else
      none

def decimal? (negative : Bool) (text : List Char) : Option Double :=
  let whole := text.takeWhile Char.isDigit
  let (fraction, rest) := match text.dropWhile Char.isDigit with
    | '.' :: rest => (rest.takeWhile Char.isDigit, rest.dropWhile Char.isDigit)
    | rest => ([], rest)
  match numberInBase? 10 (whole ++ fraction), exponent? rest with
  | some digits, some exponent =>
    let number := Double.ofDecimal negative digits (exponent - fraction.length)
    if number.isFinite then some number else none
  | _, _ => none

def isInfinity (text : List Char) : Bool :=
  text == ".inf".toList || text == ".Inf".toList || text == ".INF".toList

def isNotNumber (text : List Char) : Bool :=
  text == ".nan".toList || text == ".NaN".toList || text == ".NAN".toList

def float? (text : List Char) : Option Double :=
  if isNotNumber text then
    some .nan
  else
    match text with
    | '-' :: rest => if isInfinity rest then some (.infinity true) else decimal? true rest
    | _ =>
      let rest := withoutPlus text
      if isInfinity rest then some (.infinity false) else decimal? false rest

def plainMeaning (text : List Char) : DataNode :=
  if text.isEmpty || isNull text then
    .unit
  else
    match boolean? text with
    | some flag => .bool flag
    | none =>
      match whole? text with
      | some number => number
      | none =>
        match if hasNeedlessZero text then none else float? text with
        | some number => .double number
        | none => .text (String.ofList text)

def coreTag (name : String) : List Char :=
  ("tag:yaml.org,2002:" ++ name).toList

/-- What a scalar means. A scalar that is not what its tag demands means nothing. -/
def scalarMeaning (tag : Option (List Char)) (isPlain : Bool) (text : List Char) :
    Option DataNode :=
  let untagged := if isPlain then plainMeaning text else .text (String.ofList text)
  match tag with
  | none => some untagged
  | some tag =>
    if tag.head? = some '!' then some untagged
    else if tag = coreTag "bool" then (boolean? text).map .bool
    else if tag = coreTag "int" then whole? text
    else if tag = coreTag "float" then (float? text).map .double
    else if tag = coreTag "null" then if isNull text then some .unit else none
    else some (.text (String.ofList text))

end HostValue.Yaml
