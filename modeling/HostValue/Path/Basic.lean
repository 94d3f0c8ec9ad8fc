import HostValue.Error
import HostValue.Text.Character

/-!
# Paths

A path leads into a value by keys and indices. Its text has a point before each key and brackets
around each index; reading it also takes keys without a point at the start and after an index, and
passes over points that enclose no key.
-/

namespace HostValue

inductive Segment where
  | key (name : String)
  | index (position : UInt64)
  deriving DecidableEq

abbrev Path := List Segment

namespace Path

def maxSegments : Nat :=
  100

def renderSegment : Segment → String
  | .key name => "." ++ name
  | .index position => "[" ++ renderNat position.toNat ++ "]"

def render (path : Path) : String :=
  String.join (path.map renderSegment)

inductive Pending where
  /-- The characters of a key that is not yet ended. There is no key if there are none. -/
  | key (name : List Char)
  | index (body : List Char)

/-- Adds a segment in front of what `rest` reads, as long as there is room for one more. -/
def emit (room : Nat) (segment : Segment) (rest : Nat → Except ValueError Path) :
    Except ValueError Path :=
  match room with
  | 0 => .error (.limitExceeded "path segments" maxSegments (maxSegments + 1))
  | room + 1 =>
    match rest room with
    | .ok path => .ok (segment :: path)
    | .error error => .error error

def emitKey (room : Nat) (name : List Char) (rest : Nat → Except ValueError Path) :
    Except ValueError Path :=
  if name.isEmpty then rest room else emit room (.key (String.ofList name)) rest

def readSegments (text : String) (room : Nat) (pending : Pending) :
    List Char → Except ValueError Path
  | [] =>
    match pending with
    | .key name => emitKey room name (fun _ => .ok [])
    | .index _ => .error (.path ("unterminated index in " ++ Text.quoted text))
  | c :: rest =>
    match pending with
    | .key name =>
      if c = '.' then
        emitKey room name (fun room => readSegments text room (.key []) rest)
      else if c = '[' then
        emitKey room name (fun room => readSegments text room (.index []) rest)
      else
        readSegments text room (.key (name ++ [c])) rest
    | .index body =>
      if c = ']' then
        match parseUnsigned? (Text.trim body) with
        | some position =>
          emit room (.index position) (fun room => readSegments text room (.key []) rest)
        | none =>
          .error (.path
            ("invalid index " ++ Text.quoted (String.ofList body) ++ " in " ++ Text.quoted text))
      else
        readSegments text room (.index (body ++ [c])) rest

def parse (text : String) : Except ValueError Path :=
  readSegments text maxSegments (.key []) text.toList

end Path

end HostValue
