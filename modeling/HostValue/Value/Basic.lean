import HostValue.Number.Double
import HostValue.StringSet
import HostValue.Version.Basic

/-!
# Values

The dynamic values that a host passes to its functions. Types that the host defines travel as hosted
values: a handle, which has an identity, and the payload that it carries. Cloning a value keeps its
handles; a handle made anew takes an identity that no other handle has.
-/

namespace HostValue

mutual

inductive Value where
  | null
  | bool (flag : Bool)
  | integer (number : Int64)
  | float (number : Double)
  | string (text : String)
  | vector (items : List Value)
  /-- Keys with values, in the order in which the keys were added. -/
  | object (entries : List (String × Value))
  | hosted (identity : Nat) (payload : Payload)

/-- What a handle carries: one of the types that the library offers to hosts, or one of the sample
types that exercise single capabilities. -/
inductive Payload where
  | version (version : Version)
  | set (set : StringSet)
  | point (x y : Int64)
  /-- A type that offers nothing. -/
  | bare (label : String)
  | other (label : String)
  /-- A type with a string form alone. -/
  | tag (label : String)
  /-- A text that compares itself with strings. -/
  | text (content : String)
  | box (content : Value)
  /-- A type whose every capability fails. -/
  | broken

end

instance : Inhabited Value := ⟨.null⟩

abbrev Entries := List (String × Value)

inductive Kind where
  | null
  | boolean
  | integer
  | float
  | string
  | vector
  | object
  | hosted
  deriving DecidableEq

namespace Kind

def all : List Kind :=
  [.null, .boolean, .integer, .float, .string, .vector, .object, .hosted]

def name : Kind → String
  | .null => "null"
  | .boolean => "bool"
  | .integer => "integer"
  | .float => "float"
  | .string => "string"
  | .vector => "vector"
  | .object => "object"
  | .hosted => "opaque"

def encodedName : Kind → String
  | .boolean => "boolean"
  | kind => kind.name

def isNumeric (kind : Kind) : Bool :=
  kind == .integer || kind == .float

def isCollection (kind : Kind) : Bool :=
  kind == .vector || kind == .object

def isScalar (kind : Kind) : Bool :=
  !kind.isCollection && kind != .hosted

end Kind

def Payload.typeName : Payload → String
  | .version _ => "semver"
  | .set _ => "set"
  | .point .. => "point"
  | .bare _ => "bare"
  | .other _ => "other"
  | .tag _ => "tag"
  | .text _ => "text"
  | .box _ => "box"
  | .broken => "broken"

namespace Value

def kind : Value → Kind
  | .null => .null
  | .bool _ => .boolean
  | .integer _ => .integer
  | .float _ => .float
  | .string _ => .string
  | .vector _ => .vector
  | .object _ => .object
  | .hosted .. => .hosted

def typeName : Value → String
  | .hosted _ payload => payload.typeName
  | value => value.kind.name

def set? : Value → Option StringSet
  | .hosted _ (.set set) => some set
  | _ => none

def version? : Value → Option Version
  | .hosted _ (.version version) => some version
  | _ => none

/-- The number that a count makes as an integer value: it wraps around at sixty-four bits. -/
def ofCount (count : UInt64) : Value :=
  .integer count.toInt64

def ofStrings (texts : List String) : Value :=
  .vector (texts.map .string)

end Value

namespace Entries

def get? (entries : Entries) (key : String) : Option Value :=
  match entries with
  | [] => none
  | (name, value) :: rest => if name = key then some value else get? rest key

def put (entries : Entries) (key : String) (value : Value) : Entries :=
  match entries with
  | [] => [(key, value)]
  | (name, old) :: rest =>
    if name = key then (name, value) :: rest else (name, old) :: put rest key value

/-- The entries that arise when pairs are put one after the other: each key stands where it first
came and has the value that came last. -/
def ofPairs (pairs : List (String × Value)) : Entries :=
  pairs.foldl (fun entries pair => entries.put pair.1 pair.2) []

end Entries

end HostValue
