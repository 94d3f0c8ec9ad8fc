import HostValue.Number.Digits
import HostValue.Text.Character

/-!
# Patterns

The patterns that the values of fields are matched to: characters, classes, groups, alternatives and
repetitions. Whether a pattern is accepted is all that is decided here. Repetitions that are counted
between braces are refused, since the text of a field ends at the first closing brace.
-/

namespace HostValue.Log.Pattern

/-! ## Flags

A pattern is to match whole characters, and no tables of Unicode are at hand: while characters are those
of Unicode, nothing may stand in it that has to know their classes or their cases, and while they are
bytes, nothing that matches a byte beyond ASCII by itself. -/

structure Literal where
  char : Char
  /-- Whether it was written as a byte, with two hexadecimal digits. -/
  isByte : Bool

structure Flags where
  foldsCase : Bool
  /-- Whether characters are those of Unicode. Otherwise they are bytes. -/
  isUnicode : Bool
  allowsBlanks : Bool
  deriving DecidableEq

def skipBlanks (inComment : Bool) : List Char → List Char
  | [] => []
  | c :: rest =>
    if inComment then skipBlanks (c != '\n') rest
    else if Text.isBlank c then skipBlanks false rest
    else if c == '#' then skipBlanks true rest
    else c :: rest

namespace Flags

def initial : Flags :=
  ⟨false, true, false⟩

/-- The flags with some letters turned on and others turned off. The letters of other flags change
nothing that matters here. -/
def turn (flags : Flags) (on off : List Char) : Flags :=
  let turned (letter : Char) (old : Bool) := on.contains letter || (old && !off.contains letter)
  ⟨turned 'i' flags.foldsCase, turned 'u' flags.isUnicode, turned 'x' flags.allowsBlanks⟩

def skip (flags : Flags) (text : List Char) : List Char :=
  if flags.allowsBlanks then skipBlanks false text else text

/-- The next character, found without regard to where a comment ends. -/
def peek? (flags : Flags) (text : List Char) : Option Char :=
  if flags.allowsBlanks then
    match Text.trimStart text with
    | '#' :: rest => (Text.trimStart rest).head?
    | rest => rest.head?
  else
    text.head?

def allowsLiteral (flags : Flags) (literal : Literal) : Bool :=
  if flags.isUnicode then !flags.foldsCase else !literal.isByte || literal.char.toNat < 0x80

def allowsMember (flags : Flags) (literal : Literal) : Bool :=
  if flags.isUnicode then !flags.foldsCase else literal.char.toNat < 0x80

def allowsName (flags : Flags) (isNegated : Bool) : Bool :=
  if flags.isUnicode then !flags.foldsCase else !isNegated

def allowsShorthand (flags : Flags) (isNegated : Bool) : Bool :=
  !flags.isUnicode && !isNegated

def allowsNegation (flags : Flags) : Bool :=
  flags.isUnicode

def allowsAny (flags : Flags) : Bool :=
  flags.isUnicode

end Flags

/-! ## Escapes -/

inductive Escape where
  | literal (literal : Literal)
  | shorthand (isNegated : Bool)
  | anchor
  | boundary

/-- Whether a character may be escaped without need: those of ASCII but letters, digits and the angle
brackets. -/
def isEscapable (c : Char) : Bool :=
  c.toNat < 0x80 && !c.isAlphanum && c != '<' && c != '>'

def readHexDigits (flags : Flags) : Nat → List Char → Option (List Char × List Char)
  | 0, text => some ([], text)
  | count + 1, text =>
    match flags.skip text with
    | [] => none
    | digit :: rest =>
      if (digitInBase? 16 digit).isSome then
        (readHexDigits flags count rest).map fun (digits, rest) => (digit :: digits, rest)
      else
        none

def readNumbered (flags : Flags) (count : Nat) (text : List Char) :
    Option (Literal × List Char) := do
  let (digits, rest) ← readHexDigits flags count text
  let code ← numberInBase? 16 digits
  if code.isValidChar then some (⟨Char.ofNat code, count == 2⟩, rest) else none

def readEscape (flags : Flags) : List Char → Option (Escape × List Char)
  | [] => none
  | c :: rest =>
    let numbered (count : Nat) :=
      (readNumbered flags count rest).map fun (literal, rest) => (Escape.literal literal, rest)
    if c == 'x' then numbered 2
    else if c == 'u' then numbered 4
    else if c == 'U' then numbered 8
    else if c == 'd' || c == 's' || c == 'w' then some (.shorthand false, rest)
    else if c == 'D' || c == 'S' || c == 'W' then some (.shorthand true, rest)
    else if c == 'A' || c == 'z' then some (.anchor, rest)
    else if c == 'b' || c == 'B' || c == '<' || c == '>' then some (.boundary, rest)
    else if c == 'a' then some (.literal ⟨'\x07', false⟩, rest)
    else if c == 'f' then some (.literal ⟨'\x0c', false⟩, rest)
    else if c == 't' then some (.literal ⟨'\t', false⟩, rest)
    else if c == 'n' then some (.literal ⟨'\n', false⟩, rest)
    else if c == 'r' then some (.literal ⟨'\r', false⟩, rest)
    else if c == 'v' then some (.literal ⟨'\x0b', false⟩, rest)
    else if isEscapable c then some (.literal ⟨c, false⟩, rest)
    else none

/-! ## Shapes -/

def joinDepths : List Nat → Nat
  | [] => 0
  | [depth] => depth
  | depths => depths.foldl max 0 + 1

structure Shape where
  depth : Nat
  names : List (List Char)
  /-- Whether it looks for the bounds of words of Unicode. -/
  hasBoundary : Bool

namespace Shape

def leaf : Shape :=
  ⟨0, [], false⟩

def within (shape : Shape) : Shape :=
  { shape with depth := shape.depth + 1 }

def join (shapes : List Shape) : Shape :=
  ⟨joinDepths (shapes.map (·.depth)), shapes.flatMap (·.names), shapes.any (·.hasBoundary)⟩

end Shape

/-! ## Classes -/

def classNames : List String :=
  ["alnum", "alpha", "ascii", "blank", "cntrl", "digit", "graph", "lower", "print", "punct",
    "space", "upper", "word", "xdigit"]

def readClassName : List Char → Option (Bool × List Char)
  | ':' :: text =>
    let (isNegated, text) := match text with
      | '^' :: rest => (true, rest)
      | _ => (false, text)
    match text.dropWhile (· != ':') with
    | ':' :: ']' :: rest =>
      if classNames.contains (String.ofList (text.takeWhile (· != ':'))) then
        some (isNegated, rest)
      else
        none
    | _ => none
  | _ => none

def readEnd (flags : Flags) : List Char → Option (Escape × List Char)
  | [] => none
  | '\\' :: rest => readEscape flags rest
  | c :: rest => some (.literal ⟨c, false⟩, rest)

def allowsEnd (flags : Flags) : Escape → Bool
  | .literal literal => flags.allowsMember literal
  | .shorthand isNegated => flags.allowsShorthand isNegated
  | .anchor => false
  | .boundary => false

def allowsRange (flags : Flags) : Escape → Escape → Bool
  | .literal first, .literal last =>
    first.char ≤ last.char && flags.allowsMember first && flags.allowsMember last
  | _, _ => false

/-- Reads a member or a range. A hyphen before the closing bracket or before another hyphen makes no
range. -/
def readMember (flags : Flags) (text : List Char) : Option (List Char) := do
  let (first, rest) ← readEnd flags text
  let single := if allowsEnd flags first then some rest else none
  match flags.skip rest with
  | '-' :: further =>
    let next := flags.peek? further
    if next = some ']' ∨ next = some '-' then
      single
    else
      let (last, rest) ← readEnd flags (flags.skip further)
      if allowsRange flags first last then some rest else none
  | _ => single

def readNegation (flags : Flags) (text : List Char) : Option (List Char) :=
  match flags.skip text with
  | '^' :: rest => if flags.allowsNegation then some rest else none
  | rest => some rest

def operandDepth (left : Option Nat) (members : List Nat) : Nat :=
  match left with
  | none => joinDepths members
  | some depth => max depth (joinDepths members) + 1

/-- Reads the members of a class up to its closing bracket, at most `fuel` of them, and returns the
depth of the class and what is left. `members` are the depths of those read since the last operation
and `left` is the depth of what stands before it. At the start of a class hyphens are members, and so
is a closing bracket that comes first. -/
def readMembers : Nat → Flags → Bool → Option Nat → List Nat → List Char →
    Option (Nat × List Char)
  | 0, _, _, _, _, _ => none
  | fuel + 1, flags, isStart, left, members, text =>
    let hasOwnMember := flags.allowsMember ⟨'-', false⟩
    let operate (rest : List Char) :=
      readMembers fuel flags false (some (operandDepth left members)) [] rest
    match flags.skip text with
    | [] => none
    | ']' :: rest =>
      if isStart && members.isEmpty then
        if hasOwnMember then readMembers fuel flags false left [0] rest else none
      else
        some (operandDepth left members, rest)
    | '[' :: rest =>
      match readClassName rest with
      | some (isNegated, rest) =>
        if flags.allowsName isNegated then readMembers fuel flags false left (0 :: members) rest
        else none
      | none => do
        let text ← readNegation flags rest
        let (depth, rest) ← readMembers fuel flags true none [] text
        readMembers fuel flags false left ((depth + 1) :: members) rest
    | '&' :: '&' :: rest => operate rest
    | '~' :: '~' :: rest => operate rest
    | '-' :: rest =>
      if isStart then
        if hasOwnMember then readMembers fuel flags true left (0 :: members) rest else none
      else if rest.head? = some '-' then
        operate (rest.drop 1)
      else do
        readMembers fuel flags false left (0 :: members) (← readMember flags ('-' :: rest))
    | text => do
      readMembers fuel flags false left (0 :: members) (← readMember flags text)

def readClass (flags : Flags) (text : List Char) : Option (Shape × List Char) := do
  let text ← readNegation flags text
  let (depth, rest) ← readMembers (text.length + 1) flags true none [] text
  return ({ Shape.leaf with depth := depth + 1 }, rest)

/-! ## Groups and sequences -/

inductive Fault where
  | malformed
  /-- It looks for the bounds of words of Unicode, which takes more than a finite machine. -/
  | boundary
  deriving DecidableEq

def Fault.message : Fault → String
  | .malformed => "error building NFA"
  | .boundary =>
    "unsupported regex feature for DFAs: cannot build DFAs for regexes with Unicode word " ++
      "boundaries; switch to ASCII word boundaries, or heuristically enable Unicode word " ++
      "boundaries or use a different regex engine"

/-! ### Groups -/

inductive Opening where
  /-- No group: the flags of what follows are other ones. -/
  | flags (flags : Flags)
  | group (flags : Flags) (names : List (List Char))

def isNameChar (c : Char) : Bool :=
  c == '_' || c == '.' || c == '[' || c == ']' || Text.isAlphanumeric c

def isName : List Char → Bool
  | [] => false
  | c :: rest => (c == '_' || Text.isAlphabetic c) && rest.all isNameChar

def readGroupName (flags : Flags) (text : List Char) : Option (Opening × List Char) :=
  let name := text.takeWhile (· != '>')
  match text.dropWhile (· != '>') with
  | '>' :: rest => if isName name then some (.group flags [name], rest) else none
  | _ => none

/-- Whether a text says which flags are turned on and, behind a minus sign, which are turned off. No
letter and no sign stands in it twice, and something is behind the sign. -/
def isFlagText (text : List Char) : Bool :=
  text.all ("-imsURux".toList.contains ·) && decide text.Nodup && text.getLast? != some '-'

def readFlags (flags : Flags) (text : List Char) : Option (Opening × List Char) :=
  let isFlag (c : Char) := c != ':' && c != ')'
  let letters := text.takeWhile isFlag
  let isOn (c : Char) := c != '-'
  let turned := flags.turn (letters.takeWhile isOn) (letters.dropWhile isOn)
  if isFlagText letters then
    match text.dropWhile isFlag with
    | ':' :: rest => some (.group turned [], rest)
    | ')' :: rest => if letters.isEmpty then none else some (.flags turned, rest)
    | _ => none
  else
    none

def readOpening (flags : Flags) (text : List Char) : Option (Opening × List Char) :=
  match flags.skip text with
  | '?' :: 'P' :: '<' :: rest => readGroupName flags rest
  | '?' :: '<' :: rest => readGroupName flags rest
  | '?' :: rest => readFlags flags rest
  | rest => some (.group flags [], rest)

/-! ### Sequences -/

structure Piece where
  shape : Shape
  isRepeatable : Bool

def isRepetition (c : Char) : Bool :=
  c == '?' || c == '*' || c == '+'

def skipLazyMark : List Char → List Char
  | '?' :: rest => rest
  | text => text

def readSingle (flags : Flags) (c : Char) (rest : List Char) : Option (Shape × List Char) :=
  let leafIf (isAllowed : Bool) (rest : List Char) :=
    if isAllowed then some (Shape.leaf, rest) else none
  if c == '\\' then
    match readEscape flags rest with
    | some (.literal literal, rest) => leafIf (flags.allowsLiteral literal) rest
    | some (.shorthand isNegated, rest) => leafIf (flags.allowsShorthand isNegated) rest
    | some (.anchor, rest) => some (.leaf, rest)
    | some (.boundary, rest) => some ({ Shape.leaf with hasBoundary := flags.isUnicode }, rest)
    | none => none
  else if c == '.' then leafIf flags.allowsAny rest
  else leafIf (c == '^' || c == '$' || flags.allowsLiteral ⟨c, false⟩) rest

def closeBranches (branches : List Shape) (pieces : List Piece) : Shape :=
  .join (.join (pieces.map (·.shape)) :: branches)

/-- Reads alternatives up to a closing parenthesis that none of their own groups has, or to the end of
the text, at most `fuel` pieces in a row. `branches` are the alternatives and `pieces` the pieces read
so far, the last one first. -/
def readSequence : Nat → Flags → List Shape → List Piece → List Char →
    Option (Shape × List Char)
  | 0, _, _, _, _ => none
  | fuel + 1, flags, branches, pieces, text =>
    match flags.skip text with
    | [] => some (closeBranches branches pieces, [])
    | c :: rest =>
      if c == ')' then
        some (closeBranches branches pieces, c :: rest)
      else if c == '|' then
        readSequence fuel flags (.join (pieces.map (·.shape)) :: branches) [] rest
      else if c == '(' then
        match readOpening flags rest with
        | none => none
        | some (.flags inner, rest) =>
          readSequence fuel inner branches (⟨.leaf, false⟩ :: pieces) rest
        | some (.group inner names, rest) =>
          match readSequence fuel inner [] [] rest with
          | some (shape, ')' :: rest) =>
            let group := { shape.within with names := names ++ shape.names }
            readSequence fuel flags branches (⟨group, true⟩ :: pieces) rest
          | _ => none
      else if isRepetition c then
        match pieces with
        | [] => none
        | piece :: others =>
          if piece.isRepeatable then
            readSequence fuel flags branches (⟨piece.shape.within, true⟩ :: others)
              (skipLazyMark rest)
          else
            none
      else if c == '{' then none
      else
        match if c == '[' then readClass flags rest else readSingle flags c rest with
        | none => none
        | some (shape, rest) => readSequence fuel flags branches (⟨shape, true⟩ :: pieces) rest

def maxDepth : Nat :=
  250

/-- Checks a pattern. Every piece takes a character, so that one step for each character and one for
the end suffice. -/
def check (text : List Char) : Except Fault Unit :=
  match readSequence (text.length + 1) .initial [] [] text with
  | some (shape, []) =>
    if maxDepth < shape.depth ∨ ¬ shape.names.Nodup then .error .malformed
    else if shape.hasBoundary then .error .boundary
    else .ok ()
  | _ => .error .malformed

end HostValue.Log.Pattern
