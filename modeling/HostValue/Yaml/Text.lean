/-!
# YAML text

What the scanner of YAML text goes by: classes of characters, a position in a text, the white space
between the words of a scalar, and the tokens that it makes.
-/

namespace HostValue.Yaml

/-! ### Characters -/

def isAllowed (c : Char) : Bool :=
  let code := c.toNat
  code == 0x09 || code == 0x0A || code == 0x0D || (0x20 ≤ code && code ≤ 0x7E) || code == 0x85 ||
    (0xA0 ≤ code && code ≤ 0xFFFD) || 0x10000 ≤ code

def isWhite (c : Char) : Bool :=
  c == ' ' || c == '\t'

def isBreak (c : Char) : Bool :=
  c == '\n' || c == '\r' || c == '\u0085' || c == '\u2028' || c == '\u2029'

def normalBreak (c : Char) : Char :=
  if c == '\u2028' || c == '\u2029' then c else '\n'

def endsWord : List Char → Bool
  | [] => true
  | c :: _ => isWhite c || isBreak c

def endsLine : List Char → Bool
  | [] => true
  | c :: _ => isBreak c

def isNameChar (c : Char) : Bool :=
  c.isAlphanum || c == '-' || c == '_'

def isFlowMark (c : Char) : Bool :=
  c == ',' || c == '[' || c == ']' || c == '{' || c == '}'

/-- The characters that a plain scalar does not start with, save three of them before a word. -/
def isIndicator (c : Char) : Bool :=
  isFlowMark c || "-?:#&*!|>'\"%@\x60".toList.contains c

def startsDocument : List Char → Bool
  | '-' :: '-' :: '-' :: rest => endsWord rest
  | _ => false

def endsDocument : List Char → Bool
  | '.' :: '.' :: '.' :: rest => endsWord rest
  | _ => false

/-- Whether one of the marks of documents stands here. They count as such only at the start of a
line. -/
def isDocumentMark (text : List Char) : Bool :=
  startsDocument text || endsDocument text

/-! ### Cursors -/

structure Cursor where
  text : List Char
  line : Nat
  column : Nat

namespace Cursor

def start (text : List Char) : Cursor :=
  ⟨text, 0, 0⟩

/-- The cursor moved over characters of the same line. -/
def skip (cursor : Cursor) (count : Nat) : Cursor :=
  { cursor with text := cursor.text.drop count, column := cursor.column + count }

def moveTo (cursor : Cursor) (rest : List Char) : Cursor :=
  { cursor with text := rest, column := cursor.column + (cursor.text.length - rest.length) }

def skipWhile (cursor : Cursor) (isSkipped : Char → Bool) : Cursor :=
  { cursor with
    text := cursor.text.dropWhile isSkipped
    column := cursor.column + (cursor.text.takeWhile isSkipped).length }

def skipBreak (cursor : Cursor) : Cursor :=
  match cursor.text with
  | '\r' :: '\n' :: rest => ⟨rest, cursor.line + 1, 0⟩
  | c :: rest => if isBreak c then ⟨rest, cursor.line + 1, 0⟩ else cursor
  | [] => cursor

/-- The start of the next line, if nothing but white space and a comment are left on this one. -/
def skipBlankEnd? (cursor : Cursor) : Option Cursor :=
  let cursor := cursor.skipWhile isWhite
  let cursor := if cursor.text.head? = some '#' then cursor.skipWhile (!isBreak ·) else cursor
  if endsLine cursor.text then some cursor.skipBreak else none

end Cursor

/-! ### Gaps -/

inductive Gap where
  | white (text : List Char)
  /-- Line breaks, the first of which may have been escaped. -/
  | breaks (first : Option Char) (others : List Char)

namespace Gap

def addWhite (gap : Option Gap) (c : Char) : Gap :=
  match gap with
  | none => .white [c]
  | some (.white text) => .white (text ++ [c])
  | some (.breaks first others) => .breaks first others

def addBreak (gap : Option Gap) (c : Char) : Gap :=
  match gap with
  | some (.breaks first others) => .breaks first (others ++ [normalBreak c])
  | _ => .breaks (some (normalBreak c)) []

def hasBreak : Option Gap → Bool
  | some (.breaks ..) => true
  | _ => false

def fold : Option Gap → List Char
  | none => []
  | some (.white text) => text
  | some (.breaks (some '\n') []) => [' ']
  | some (.breaks (some '\n') others) => others
  | some (.breaks first others) => first.toList ++ others

end Gap

/-! ### Tokens -/

inductive Token where
  | version (major minor : Nat)
  | handle (name expansion : List Char)
  | documentStart
  | documentEnd
  | blockSequence
  | blockMapping
  /-- The end of the innermost indented collection. -/
  | blockEnd
  | flowSequence
  | flowSequenceEnd
  | flowMapping
  | flowMappingEnd
  | item
  | comma
  /-- The question mark before a key, or what a later colon made a key. -/
  | key
  | value
  | alias (name : List Char)
  | anchor (name : List Char)
  /-- A tag, of which the handle is still to be expanded. -/
  | tag (handle suffix : List Char)
  | scalar (isPlain : Bool) (text : List Char)
  deriving DecidableEq

end HostValue.Yaml
