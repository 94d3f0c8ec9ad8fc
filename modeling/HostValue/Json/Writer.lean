import HostValue.Coalescing
import HostValue.DataModel

/-!
# Writing JSON text

The compact JSON text of a value. Hosted values are written as their string forms; a value with a
hosted part that has none is not written at all. Floats that are no numbers are written as null.
-/

namespace HostValue

def Payload.encodedText (payload : Payload) : Except DecodeError String :=
  match Mode.humane.textForm? payload with
  | some (.ok form) => .ok form
  | some (.error error) => .error (.refused error.message)
  | none =>
    .error (.refused ("cannot serialize " ++ payload.typeName ++ " value: it has no string form"))

namespace Json

def escapeLetter? : Char → Option Char
  | '"' => some '"'
  | '\\' => some '\\'
  | '\n' => some 'n'
  | '\r' => some 'r'
  | '\t' => some 't'
  | '\x08' => some 'b'
  | '\x0c' => some 'f'
  | _ => none

def writeChar (c : Char) : List Char :=
  match escapeLetter? c with
  | some letter => ['\\', letter]
  | none =>
    if c.toNat < 0x20 then
      ['\\', 'u', '0', '0', Nat.digitChar (c.toNat / 16), Nat.digitChar (c.toNat % 16)]
    else
      [c]

def writeString (text : String) : List Char :=
  '"' :: text.toList.flatMap writeChar ++ ['"']

mutual

def write : Value → Except DecodeError (List Char)
  | .null => .ok "null".toList
  | .bool flag => .ok (if flag then "true" else "false").toList
  | .integer number => .ok (renderInt number.toInt).toList
  | .float number => .ok (NumberFormat.json.render number).toList
  | .string text => .ok (writeString text)
  | .vector items =>
    match writeItems items with
    | .ok texts => .ok ('[' :: [','].intercalate texts ++ [']'])
    | .error error => .error error
  | .object entries =>
    match writeEntries entries with
    | .ok texts => .ok ('{' :: [','].intercalate texts ++ ['}'])
    | .error error => .error error
  | .hosted _ payload =>
    match payload.encodedText with
    | .ok text => .ok (writeString text)
    | .error error => .error error
termination_by structural value => value

def writeItems : List Value → Except DecodeError (List (List Char))
  | [] => .ok []
  | item :: rest =>
    match write item with
    | .error error => .error error
    | .ok text =>
      match writeItems rest with
      | .ok texts => .ok (text :: texts)
      | .error error => .error error
termination_by structural items => items

def writeEntries : List (String × Value) → Except DecodeError (List (List Char))
  | [] => .ok []
  | (key, value) :: rest =>
    match write value with
    | .error error => .error error
    | .ok text =>
      match writeEntries rest with
      | .ok texts => .ok ((writeString key ++ ':' :: text) :: texts)
      | .error error => .error error
termination_by structural entries => entries

end

end Json

def Value.toJson (value : Value) : Except DecodeError String :=
  match Json.write value with
  | .ok text => .ok (String.ofList text)
  | .error error => .error error

end HostValue
