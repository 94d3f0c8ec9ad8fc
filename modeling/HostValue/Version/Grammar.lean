import HostValue.Error
import HostValue.Version.Basic

/-!
# Grammar of versions

The strict form of a version: three numbers without leading zeros, then identifiers of letters,
digits and hyphens after a hyphen and after a plus. Reading goes from left to right, and the first
fault is the one that is reported.
-/

namespace HostValue.Version

inductive Place where
  | major
  | minor
  | patch
  | pre
  | build
  deriving DecidableEq

def Place.name : Place → String
  | .major => "major version number"
  | .minor => "minor version number"
  | .patch => "patch version number"
  | .pre => "pre-release identifier"
  | .build => "build metadata"

inductive Fault where
  | empty
  | unexpectedEnd (place : Place)
  | unexpectedChar (place : Place) (c : Char)
  | unexpectedCharAfter (place : Place) (c : Char)
  | leadingZero (place : Place)
  | overflow (place : Place)
  | emptySegment (place : Place)
  | preReleaseTooLarge (identifier : List Char)
  deriving DecidableEq

def Fault.message : Fault → String
  | .empty => "empty string, expected a semver version"
  | .unexpectedEnd place => "unexpected end of input while parsing " ++ place.name
  | .unexpectedChar place c => "unexpected character " ++ Text.quotedChar c ++ " while parsing " ++ place.name
  | .unexpectedCharAfter place c => "unexpected character " ++ Text.quotedChar c ++ " after " ++ place.name
  | .leadingZero place => "invalid leading zero in " ++ place.name
  | .overflow place => "value of " ++ place.name ++ " exceeds u64::MAX"
  | .emptySegment place => "empty identifier segment in " ++ place.name
  | .preReleaseTooLarge identifier =>
    "pre-release identifier " ++ String.ofList identifier ++ " is too large"

def isIdentifierChar (c : Char) : Bool :=
  c.isAlpha || c.isDigit || c == '-'

def readNumber (place : Place) (text : List Char) : Except Fault (UInt64 × List Char) :=
  let digits := text.takeWhile Char.isDigit
  let rest := text.dropWhile Char.isDigit
  if digits.isEmpty then
    match rest with
    | [] => .error (.unexpectedEnd place)
    | c :: _ => .error (.unexpectedChar place c)
  else if 1 < digits.length ∧ digits.head? = some '0' then
    .error (.leadingZero place)
  else if digitsValue digits < UInt64.size then
    .ok ((digitsValue digits).toUInt64, rest)
  else
    .error (.overflow place)

def readPoint (place : Place) : List Char → Except Fault (List Char)
  | '.' :: rest => .ok rest
  | c :: _ => .error (.unexpectedCharAfter place c)
  | [] => .error (.unexpectedEnd place)

def splitPoints : List Char → List (List Char)
  | [] => [[]]
  | c :: rest =>
    if c = '.' then
      [] :: splitPoints rest
    else
      match splitPoints rest with
      | [] => [[c]]
      | piece :: pieces => (c :: piece) :: pieces

/-- Accepts an identifier: it is not empty, and a number in a pre-release has no leading zero. -/
def checkIdentifier (place : Place) (identifier : List Char) : Except Fault Unit :=
  if identifier.isEmpty then
    .error (.emptySegment place)
  else if place = .pre ∧ isNumeral identifier ∧ 1 < identifier.length ∧ identifier.head? = some '0' then
    .error (.leadingZero place)
  else
    .ok ()

def readIdentifiers (place : Place) (text : List Char) :
    Except Fault (List (List Char) × List Char) := do
  let belongs (c : Char) : Bool := isIdentifierChar c || c == '.'
  let identifiers := splitPoints (text.takeWhile belongs)
  identifiers.forM (checkIdentifier place)
  return (identifiers, text.dropWhile belongs)

def readMarked (mark : Char) (place : Place) (text : List Char) :
    Except Fault (List (List Char) × List Char) :=
  match text with
  | [] => .ok ([], [])
  | c :: rest => if c = mark then readIdentifiers place rest else .ok ([], text)

def classify (identifier : List Char) : Except Fault PreRelease :=
  if isNumeral identifier then
    if digitsValue identifier < UInt64.size then
      .ok (.numeric (digitsValue identifier).toUInt64)
    else
      .error (.preReleaseTooLarge identifier)
  else
    .ok (.alphanumeric (String.ofList identifier))

def lastPlace (pre build : List (List Char)) : Place :=
  if !build.isEmpty then .build else if !pre.isEmpty then .pre else .patch

def read (text : List Char) : Except Fault Version := do
  if text.isEmpty then
    throw .empty
  let (major, text) ← readNumber .major text
  let text ← readPoint .major text
  let (minor, text) ← readNumber .minor text
  let text ← readPoint .minor text
  let (patch, text) ← readNumber .patch text
  let (pre, text) ← readMarked '-' .pre text
  let (build, text) ← readMarked '+' .build text
  match text with
  | c :: _ => throw (.unexpectedCharAfter (lastPlace pre build) c)
  | [] => return ⟨major, minor, patch, ← pre.mapM classify, build.map String.ofList⟩

def parseStrict (input : String) : Except ValueError Version :=
  match read input.toList with
  | .ok version => .ok version
  | .error fault => .error (.parse input fault.message)

end HostValue.Version
