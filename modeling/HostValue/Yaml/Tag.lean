import HostValue.Number.Digits
import HostValue.Yaml.Text

/-!
# Names, tags and directives

The tokens that hold names: anchors, aliases and tags, and the directives before a document. A tag is
written out between angle brackets, or as a handle and a suffix. The names of tags are percent-encoded,
and a zero character ends them.
-/

namespace HostValue.Yaml

def readAnchorName (text : List Char) : Option (List Char × List Char) :=
  let name := text.takeWhile isNameChar
  let rest := text.dropWhile isNameChar
  let isClosed := endsWord rest || rest.head?.any ("?:,]\x7d%@\x60".toList.contains ·)
  if name.isEmpty || !isClosed then none else some (name, rest)

/-! ### Tags -/

/-- The characters of tags. Commas and brackets belong to them where no handle has to be told from
what follows. -/
def isTagChar (isWide : Bool) (c : Char) : Bool :=
  isNameChar c || ";/?:@&=+$.!~*'()%".toList.contains c ||
    (isWide && (c == ',' || c == '[' || c == ']'))

def readByte : List Char → Option (Nat × List Char)
  | '%' :: high :: low :: rest => (numberInBase? 16 [high, low]).map fun byte => (byte, rest)
  | _ => none

def readFurtherBytes : Nat → Nat → List Char → Option (Nat × List Char)
  | 0, code, text => some (code, text)
  | count + 1, code, text =>
    match readByte text with
    | some (byte, rest) =>
      if byte / 64 = 2 then readFurtherBytes count (64 * code + byte % 64) rest else none
    | none => none

/-- The character of a code that was written with one byte and `further` more. What is no character,
or has a shorter form, becomes a replacement that no known tag has. -/
def encodedChar (further code : Nat) : Char :=
  if code.isValidChar && (Char.ofNat code).utf8Size == further + 1 then Char.ofNat code
  else '\ufffd'

def readEncodedChar (text : List Char) : Option (Char × List Char) :=
  match readByte text with
  | none => none
  | some (byte, rest) =>
    let readFrom (further bits : Nat) :=
      (readFurtherBytes further bits rest).map fun (code, rest) => (encodedChar further code, rest)
    if byte < 0x80 then readFrom 0 byte
    else if byte / 32 = 6 then readFrom 1 (byte % 32)
    else if byte / 16 = 14 then readFrom 2 (byte % 16)
    else if byte / 8 = 30 then readFrom 3 (byte % 8)
    else none

def readTagChars (isWide : Bool) : Nat → List Char → Option (List Char × List Char)
  | 0, text => some ([], text)
  | fuel + 1, text =>
    match text with
    | [] => some ([], [])
    | c :: rest =>
      if !isTagChar isWide c then
        some ([], text)
      else
        let next := if c == '%' then readEncodedChar text else some (c, rest)
        match next with
        | none => none
        | some (c, rest) =>
          (readTagChars isWide fuel rest).map fun (chars, rest) => (c :: chars, rest)

def readTagText (isWide : Bool) (text : List Char) : Option (List Char × List Char) :=
  match readTagChars isWide text.length text with
  | none => none
  | some (chars, rest) =>
    if chars.isEmpty then none else some (chars.takeWhile (· != '\x00'), rest)

def readHandle (text : List Char) : List Char × Bool × List Char :=
  let name := text.takeWhile isNameChar
  match text.dropWhile isNameChar with
  | '!' :: rest => (name, true, rest)
  | rest => (name, false, rest)

/-- Reads a tag from behind its exclamation mark. A mark alone is a tag of its own. -/
def readTag (inFlow : Bool) (text : List Char) : Option (Token × List Char) := do
  let (token, rest) ← match text with
    | '<' :: text => do
      let (suffix, rest) ← readTagText true text
      match rest with
      | '>' :: rest => some (Token.tag [] suffix, rest)
      | _ => none
    | _ =>
      let (name, isClosed, rest) := readHandle text
      if isClosed then do
        let (suffix, rest) ← readTagText false rest
        some (Token.tag ('!' :: name ++ ['!']) suffix, rest)
      else do
        let (chars, rest) ← readTagChars false rest.length rest
        let suffix := (name ++ chars).takeWhile (· != '\x00')
        some (if suffix.isEmpty then Token.tag [] ['!'] else Token.tag ['!'] suffix, rest)
  if endsWord rest || (inFlow && rest.head? = some ',') then some (token, rest) else none

/-! ### Directives -/

def readShortNumber (text : List Char) : Option (Nat × List Char) :=
  let digits := text.takeWhile Char.isDigit
  if digits.length ≤ 9 then
    (numberInBase? 10 digits).map fun number => (number, text.dropWhile Char.isDigit)
  else
    none

def readVersionNumbers (text : List Char) : Option (Token × List Char) :=
  match readShortNumber (text.dropWhile isWhite) with
  | some (major, '.' :: rest) =>
    (readShortNumber rest).map fun (minor, rest) => (.version major minor, rest)
  | _ => none

def readExpansion (text : List Char) : Option (Token × List Char) :=
  match text.dropWhile isWhite with
  | '!' :: rest =>
    let (name, isClosed, rest) := readHandle rest
    let handle := '!' :: name ++ (if isClosed then ['!'] else [])
    if (isClosed || name.isEmpty) && rest.head?.any isWhite then
      match readTagText true (rest.dropWhile isWhite) with
      | some (expansion, rest) =>
        if endsWord rest then some (.handle handle expansion, rest) else none
      | none => none
    else
      none
  | _ => none

def readDirective (cursor : Cursor) : Option (Token × Cursor) := do
  let name := cursor.text.takeWhile isNameChar
  let rest := cursor.text.dropWhile isNameChar
  let (token, rest) ←
    if !endsWord rest then none
    else if name = "YAML".toList then readVersionNumbers rest
    else if name = "TAG".toList then readExpansion rest
    else none
  let cursor ← (cursor.moveTo rest).skipBlankEnd?
  return (token, cursor)

end HostValue.Yaml
