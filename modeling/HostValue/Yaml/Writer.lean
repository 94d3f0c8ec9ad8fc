import HostValue.Json.Writer
import HostValue.Yaml.Scalar

/-!
# Writing YAML text

The text of a tree in indented style. Blocks are indented by two columns, save sequences that are the
values of keys, which start at the column of the key. A block behind a dash, or behind the mark of a long
key or its value, starts on the line of that mark. Keys over lines, and long ones, have a mark.
-/

namespace HostValue.Yaml

/-! ## Styles

How the text of a string is written. A text of several lines is literal where that keeps it, and a
text that would not be read back as itself without quotes is quoted: in single quotes where nothing has
to be escaped, else in double quotes. -/

inductive Style where
  | plain
  | singleQuoted
  | doubleQuoted
  | literal
  deriving DecidableEq

def hasNeighbours (related : Char → Char → Bool) : List Char → Bool
  | [] => false
  | c :: rest => rest.head?.any (related c) || hasNeighbours related rest

def isPrintable (c : Char) : Bool :=
  let code := c.toNat
  code == 0x0A || (0x20 ≤ code && code ≤ 0x7E) ||
    (0xA0 ≤ code && code ≤ 0xFFFD && code != 0xFEFF) || 0x10000 ≤ code

/-- Whether a text can only be written with escapes: it has characters that are not printable, or a
space at the end of a line that is not the last. -/
def needsEscapes (text : List Char) : Bool :=
  !text.all isPrintable || hasNeighbours (fun c d => c == ' ' && isBreak d) text

/-- Whether a text could be taken for something else behind its first character: for a key, or for a
scalar with a comment. -/
def hasInnerIndicator : List Char → Bool
  | [] => false
  | c :: rest =>
    (match rest with
      | ':' :: after => endsWord after
      | '#' :: _ => isWhite c || isBreak c
      | _ => false) || hasInnerIndicator rest

def hasOuterIndicator (text : List Char) : Bool :=
  match text with
  | '-' :: '-' :: '-' :: _ => true
  | '.' :: '.' :: '.' :: _ => true
  | c :: rest => if c == '-' || c == '?' || c == ':' then endsWord rest else isIndicator c
  | [] => false

def hasWhiteEnd (text : List Char) : Bool :=
  let isEnd (c : Char) : Bool := c == ' ' || isBreak c
  text.head?.any isEnd || text.getLast?.any isEnd

def allowsPlain (text : List Char) : Bool :=
  !text.isEmpty && !text.any isBreak && !needsEscapes text && !hasWhiteEnd text &&
    !hasOuterIndicator text && !hasInnerIndicator text

def allowsSingleQuotes (text : List Char) : Bool :=
  !needsEscapes text && !hasNeighbours (fun c d => isBreak c && d == ' ') text

def allowsLiteral (text : List Char) : Bool :=
  !needsEscapes text && text.getLast? != some ' '

def readsAsText (text : List Char) : Bool :=
  match plainMeaning text with
  | .text _ => !hasNeedlessZero text
  | _ => false

def Style.ofText (text : List Char) : Style :=
  if text.contains '\n' then
    if allowsLiteral text then .literal else .doubleQuoted
  else if readsAsText text && allowsPlain text then .plain
  else if allowsSingleQuotes text then .singleQuoted
  else .doubleQuoted

/-! ### Scalars in the styles -/

/-- The line breaks and spaces before each line of a text that is written over lines, and the text.
`isStart` says that a line begins here. -/
def indentLines (indentation : Nat) (isStart : Bool) : List Char → List Char
  | [] => []
  | c :: rest =>
    if isBreak c then c :: indentLines indentation true rest
    else
      (if isStart then List.replicate indentation ' ' else []) ++
        c :: indentLines indentation false rest

def writeSingleQuoted (indentation : Nat) (text : List Char) : List Char :=
  let doubled := text.flatMap fun c => if c == '\'' then ['\'', '\''] else [c]
  '\'' :: indentLines indentation false doubled ++
    (if text.getLast?.any isBreak then List.replicate indentation ' ' else []) ++ ['\'']

def hexDigits (width number : Nat) : List Char :=
  let digits := (Nat.toDigits 16 number).map Char.toUpper
  List.replicate (width - digits.length) '0' ++ digits

def escapeLetter? : Char → Option Char
  | '\x00' => some '0'
  | '\x07' => some 'a'
  | '\x08' => some 'b'
  | '\t' => some 't'
  | '\n' => some 'n'
  | '\x0b' => some 'v'
  | '\x0c' => some 'f'
  | '\r' => some 'r'
  | '\x1b' => some 'e'
  | '"' => some '"'
  | '\\' => some '\\'
  | '\u0085' => some 'N'
  | '\u2028' => some 'L'
  | '\u2029' => some 'P'
  | _ => none

def escape (c : Char) : List Char :=
  match escapeLetter? c with
  | some letter => ['\\', letter]
  | none =>
    if isPrintable c then [c]
    else if c.toNat ≤ 0xFF then '\\' :: 'x' :: hexDigits 2 c.toNat
    else '\\' :: 'u' :: hexDigits 4 c.toNat

def writeDoubleQuoted (text : List Char) : List Char :=
  '"' :: text.flatMap escape ++ ['"']

/-- The header of a literal scalar. It gives the indentation where the first line does not show it, and
says that no line break follows the last line, or that more than one does. -/
def literalHeader (text : List Char) : List Char :=
  let isHidden := text.head?.any fun c => c == ' ' || isBreak c
  let chomping :=
    match text.reverse with
    | last :: before =>
      if !isBreak last then ['-'] else if before.head?.all isBreak then ['+'] else []
    | [] => ['-']
  '|' :: (if isHidden then ['2'] else []) ++ chomping

def writeLiteral (indentation : Nat) (text : List Char) : List Char :=
  literalHeader text ++ '\n' :: indentLines indentation true text

def writeScalar (indentation : Nat) (text : List Char) : List Char :=
  match Style.ofText text with
  | .plain => text
  | .singleQuoted => writeSingleQuoted indentation text
  | .doubleQuoted => writeDoubleQuoted text
  | .literal => writeLiteral indentation text

/-! ## Trees

What is written of a value: words that need no quotes, strings, sequences, and mappings from strings.
Hosted values are written as their string forms; a value with a hosted part that has none is not written
at all. -/

inductive Tree where
  | word (text : List Char)
  | string (text : List Char)
  | sequence (items : List Tree)
  | mapping (entries : List (List Char × Tree))

mutual

def Tree.ofValue : Value → Except DecodeError Tree
  | .null => .ok (.word "null".toList)
  | .bool flag => .ok (.word (if flag then "true" else "false").toList)
  | .integer number => .ok (.word (renderInt number.toInt).toList)
  | .float number => .ok (.word (NumberFormat.yaml.render number).toList)
  | .string text => .ok (.string text.toList)
  | .vector items =>
    match itemTrees items with
    | .ok trees => .ok (.sequence trees)
    | .error error => .error error
  | .object entries =>
    match entryTrees entries with
    | .ok trees => .ok (.mapping trees)
    | .error error => .error error
  | .hosted _ payload =>
    match payload.encodedText with
    | .ok text => .ok (.string text.toList)
    | .error error => .error error
termination_by structural value => value

def itemTrees : List Value → Except DecodeError (List Tree)
  | [] => .ok []
  | item :: rest =>
    match Tree.ofValue item with
    | .error error => .error error
    | .ok tree =>
      match itemTrees rest with
      | .ok trees => .ok (tree :: trees)
      | .error error => .error error
termination_by structural items => items

def entryTrees : List (String × Value) → Except DecodeError (List (List Char × Tree))
  | [] => .ok []
  | (key, value) :: rest =>
    match Tree.ofValue value with
    | .error error => .error error
    | .ok tree =>
      match entryTrees rest with
      | .ok trees => .ok ((key.toList, tree) :: trees)
      | .error error => .error error
termination_by structural entries => entries

end

/-! ## Texts -/

def indentationStep : Nat :=
  2

/-- The greatest number of bytes of a key without a mark. -/
def maxPlainKey : Nat :=
  128

def isSimpleKey (key : List Char) : Bool :=
  !key.any isBreak && (String.ofList key).utf8ByteSize ≤ maxPlainKey

def closeLine (text : List Char) : List Char :=
  if text.getLast?.any isBreak then text else text ++ ['\n']

/-- Lines one below the other, at a column at which the first of them stands already. -/
def stackLines (column : Nat) : List (List Char) → List Char
  | [] => []
  | [line] => line
  | line :: lines => closeLine line ++ List.replicate column ' ' ++ stackLines column lines

inductive Tree.Place where
  | start
  /-- Behind a dash or the mark of a long key or its value. -/
  | mark
  | key
  deriving DecidableEq

namespace Tree.Place

def space (place : Place) : List Char :=
  if place = .start then [] else [' ']

def sequenceColumn (place : Place) (column : Nat) : Nat :=
  if place = .mark then column + indentationStep else column

def mappingColumn (place : Place) (column : Nat) : Nat :=
  if place = .start then column else column + indentationStep

def opening (place : Place) (column : Nat) : List Char :=
  match place with
  | .start => []
  | .mark => [' ']
  | .key => '\n' :: List.replicate column ' '

end Tree.Place

mutual

def Tree.write (place : Tree.Place) (column : Nat) : Tree → List Char
  | .word text => place.space ++ text
  | .string text => place.space ++ writeScalar (column + indentationStep) text
  | .sequence items =>
    let column := place.sequenceColumn column
    if items.isEmpty then place.space ++ ['[', ']']
    else place.opening column ++ stackLines column (writeItems column items)
  | .mapping entries =>
    let column := place.mappingColumn column
    if entries.isEmpty then place.space ++ ['{', '}']
    else place.opening column ++ stackLines column (writeEntries column entries)
termination_by structural tree => tree

def writeItems (column : Nat) : List Tree → List (List Char)
  | [] => []
  | item :: rest => ('-' :: item.write .mark column) :: writeItems column rest
termination_by structural items => items

def writeEntries (column : Nat) : List (List Char × Tree) → List (List Char)
  | [] => []
  | (key, value) :: rest =>
    let keyText := writeScalar (column + indentationStep) key
    let entry :=
      if isSimpleKey key then
        keyText ++ ':' :: value.write .key column
      else
        closeLine ('?' :: ' ' :: keyText) ++ List.replicate column ' ' ++
          ':' :: value.write .mark column
    entry :: writeEntries column rest
termination_by structural entries => entries

end

end HostValue.Yaml
