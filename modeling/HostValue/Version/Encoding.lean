import HostValue.DataModel
import HostValue.Json.Writer
import HostValue.Text.Character
import HostValue.Version.Grammar

/-!
# Other forms of versions

Versions as hosts write them and as data holds them.
-/

namespace HostValue.Version

/-! ### Tolerant reading

Versions as people write them: blanks around the text, a leading `v`, leading zeros in the numbers,
minor and patch left out. The text is brought into the strict form and read as such; the error
carries the text as it was given. -/

def splitFirstPoints : Nat → List Char → List (List Char)
  | 0, text => [text]
  | count + 1, text =>
    match text.dropWhile (· != '.') with
    | [] => [text]
    | _ :: rest => text.takeWhile (· != '.') :: splitFirstPoints count rest

/-- Drops the zeros before a component. One zero stays where no digit would be left. Components of
at most one ASCII character are left alone. -/
def dropZeros (component : List Char) : List Char :=
  match component with
  | [] => []
  | [c] => if c.toNat < 128 then [c] else '0' :: [c]
  | _ =>
    let rest := component.dropWhile (· == '0')
    if (rest.head?.any Char.isDigit) then rest else '0' :: rest

/-- Brings the components into the strict form: a short version is filled up with zeros, unless
its last component holds a sign of pre-release or build identifiers. -/
def complete? (components : List (List Char)) : Option (List (List Char)) :=
  if components.length < 3 then
    if components.getLast?.any (·.any (fun c => c == '+' || c == '-')) then
      none
    else
      some (components ++ List.replicate (3 - components.length) ['0'])
  else
    some components

def parseTolerant (input : String) : Except ValueError Version :=
  let trimmed := Text.trim input.toList
  let stripped := match trimmed with
    | 'v' :: rest => rest
    | _ => trimmed
  if stripped.isEmpty then
    .error (.parse input "version string is empty")
  else
    match complete? ((splitFirstPoints 2 stripped).map dropZeros) with
    | none =>
      .error (.parse input "short version cannot contain pre-release or build metadata")
    | some components =>
      match read (['.'].intercalate components) with
      | .ok version => .ok version
      | .error fault => .error (.parse input fault.message)

end HostValue.Version

namespace HostValue

/-! ### Data

In encoded data a version is its canonical text. Decoding reads any text tolerantly. -/

def Version.toJson (version : Version) : String :=
  String.ofList (Json.writeString version.render)

def DataNode.toVersion (node : DataNode) : Except DecodeError Version :=
  match node.toText with
  | .error error => .error error
  | .ok content =>
    match Version.parseTolerant content with
    | .ok version => .ok version
    | .error error => .error (.refused error.message)

end HostValue
