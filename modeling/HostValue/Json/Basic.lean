import HostValue.DataModel

/-!
# JSON data

The tree that a JSON text describes, and its place in the data model. Whole numbers keep their kind:
without sign, negative, or floating.
-/

namespace HostValue

/-- A JSON tree. The keys of an object stand in the order of the text and may repeat. -/
inductive Json where
  | null
  | bool (flag : Bool)
  | natural (number : UInt64)
  | negative (number : Int64)
  | float (number : Double)
  | string (text : String)
  | array (items : List Json)
  | object (entries : List (String × Json))

instance : Inhabited Json := ⟨.null⟩

namespace Json

def unexpected : Json → Unexpected
  | .null => .null
  | .bool flag => .boolean flag
  | .natural number => .integer number.toNat
  | .negative number => .integer number.toInt
  | .float number => .float (NumberFormat.json.render number)
  | .string text => .text text
  | .array _ => .sequence
  | .object _ => .map

mutual

def toNode : Json → DataNode
  | .null => .unit
  | .bool flag => .bool flag
  | .natural number => .unsigned number
  | .negative number => .signed number
  | .float number => .double number
  | .string text => .text text
  | .array items => .sequence (itemNodes items)
  | .object entries => .map (entryNodes entries)
termination_by structural json => json

def itemNodes : List Json → List DataNode
  | [] => []
  | item :: rest => item.toNode :: itemNodes rest
termination_by structural items => items

def entryNodes : List (String × Json) → List (DataNode × DataNode)
  | [] => []
  | (key, value) :: rest => (.text key, value.toNode) :: entryNodes rest
termination_by structural entries => entries

end

end Json

end HostValue

namespace HostValue.Json

/-! ### Records and variants

How settings are read from JSON trees. A record is an object, whose unknown keys are passed over, or
an array with the fields in order; fields that are left out keep their defaults. A variant is its name,
or an object with its name as the only key and nothing under it. -/

def toText : Json → Except DecodeError String
  | .string text => .ok text
  | json => .error (.invalidType json.unexpected "a string")

def toText? : Json → Except DecodeError (Option String)
  | .null => .ok none
  | json =>
    match json.toText with
    | .ok text => .ok (some text)
    | .error error => .error error

def toBool : Json → Except DecodeError Bool
  | .bool flag => .ok flag
  | json => .error (.invalidType json.unexpected "a boolean")

def variantOfName {α : Type} (variants : List (String × α)) (name : String) : Except DecodeError α :=
  match variants.lookup name with
  | some variant => .ok variant
  | none => .error (.unknownVariant name (variants.map (·.1)))

def toVariant {α : Type} (variants : List (String × α)) : Json → Except DecodeError α
  | .string name => variantOfName variants name
  | .object [(name, content)] =>
    match variantOfName variants name, content with
    | .ok variant, .null => .ok variant
    | .ok _, content => .error (.invalidType content.unexpected "unit")
    | .error error, _ => .error error
  | .object _ => .error (.invalidValue .map "map with a single key")
  | json => .error (.invalidType json.unexpected "string or map")

/-- Reads a record: starts from the defaults and updates one field after the other. -/
def toRecord {α : Type} (name : String) (fields : List String) (defaults : α)
    (update : α → String → Json → Except DecodeError α) : Json → Except DecodeError α
  | .object entries => entries.foldlM (fun record entry => update record entry.1 entry.2) defaults
  | .array items => do
    let record ← (fields.zip items).foldlM (fun record entry => update record entry.1 entry.2) defaults
    if items.length ≤ fields.length then
      return record
    else
      throw (.invalidLength items.length "fewer elements in array")
  | json => .error (.invalidType json.unexpected ("struct " ++ name))

end HostValue.Json
