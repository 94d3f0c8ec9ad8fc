import HostValue.Error
import HostValue.Number.Format
import HostValue.Value.Basic

/-!
# The data model

Formats describe data as a tree of calls: a boolean, an integer of some width, a sequence, a tagged
value. Every such tree means at most one value. What means no value fails with the first call, in
document order, that no value answers.
-/

namespace HostValue

inductive DataNode where
  | none
  | unit
  | some (content : DataNode)
  | newtype (content : DataNode)
  | bool (flag : Bool)
  | signed (number : Int64)
  | unsigned (number : UInt64)
  | wideSigned (number : Int)
  | wideUnsigned (number : Nat)
  | single (bits : UInt32)
  | double (number : Double)
  | char (character : Char)
  | text (content : String)
  | bytes (content : String)
  | malformedBytes
  | sequence (items : List DataNode)
  | map (entries : List (DataNode × DataNode))
  | tagged (tag : String) (content : DataNode)
  | bareTag (tag : String)

instance : Inhabited DataNode := ⟨.unit⟩

inductive Unexpected where
  | boolean (flag : Bool)
  | integer (number : Int)
  | wideSigned (number : Int)
  | wideUnsigned (number : Nat)
  | float (numeral : String)
  | text (content : String)
  | bytes
  | unit
  | null
  | option
  | newtype
  | sequence
  | map
  | enumeration
  | unitVariant

def Unexpected.describe : Unexpected → String
  | .boolean flag => "boolean `" ++ (if flag then "true" else "false") ++ "`"
  | .integer number => "integer `" ++ renderInt number ++ "`"
  | .wideSigned number => "integer `" ++ renderInt number ++ "` as i128"
  | .wideUnsigned number => "integer `" ++ renderNat number ++ "` as u128"
  | .float numeral => "floating point `" ++ numeral ++ "`"
  | .text content => "string " ++ Text.quoted content
  | .bytes => "byte array"
  | .unit => "unit value"
  | .null => "null"
  | .option => "Option value"
  | .newtype => "newtype struct"
  | .sequence => "sequence"
  | .map => "map"
  | .enumeration => "enum"
  | .unitVariant => "unit variant"

inductive DecodeError where
  | invalidType (unexpected : Unexpected) (expected : String)
  | invalidValue (unexpected : Unexpected) (expected : String)
  | invalidLength (length : Nat) (expected : String)
  | unknownVariant (name : String) (variants : List String)
  | refused (message : String)

def describeVariants : List String → String
  | [] => "there are no variants"
  | [name] => "expected `" ++ name ++ "`"
  | [first, second] => "expected `" ++ first ++ "` or `" ++ second ++ "`"
  | names => "expected one of " ++ ", ".intercalate (names.map fun name => "`" ++ name ++ "`")

def DecodeError.message : DecodeError → String
  | .invalidType unexpected expected =>
    "invalid type: " ++ unexpected.describe ++ ", expected " ++ expected
  | .invalidValue unexpected expected =>
    "invalid value: " ++ unexpected.describe ++ ", expected " ++ expected
  | .invalidLength length expected =>
    "invalid length " ++ renderNat length ++ ", expected " ++ expected
  | .unknownVariant name variants =>
    "unknown variant `" ++ name ++ "`, " ++ describeVariants variants
  | .refused message => message

namespace DataNode

def unexpected : DataNode → Unexpected
  | .none => .option
  | .some _ => .option
  | .unit => .unit
  | .newtype _ => .newtype
  | .bool flag => .boolean flag
  | .signed number => .integer number.toInt
  | .unsigned number => .integer number.toNat
  | .wideSigned number => .wideSigned number
  | .wideUnsigned number => .wideUnsigned number
  | .single bits => .float (NumberFormat.described.render (.ofSingleBits bits))
  | .double number => .float (NumberFormat.described.render number)
  | .char character => .text (String.singleton character)
  | .text content => .text content
  | .bytes _ => .bytes
  | .malformedBytes => .bytes
  | .sequence _ => .sequence
  | .map _ => .map
  | .tagged _ _ => .enumeration
  | .bareTag _ => .enumeration

def toText : DataNode → Except DecodeError String
  | .char character => .ok (String.singleton character)
  | .text content => .ok content
  | .bytes content => .ok content
  | .malformedBytes => .error (.invalidValue .bytes "a string")
  | node => .error (.invalidType node.unexpected "a string")

def anyValue : String :=
  "any self-describing value"

end DataNode

mutual

def DataNode.toValue : DataNode → Except DecodeError Value
  | .none => .ok .null
  | .unit => .ok .null
  | .some content => content.toValue
  | .tagged _ content => content.toValue
  | .bool flag => .ok (.bool flag)
  | .signed number => .ok (.integer number)
  | .unsigned number =>
    .ok (if number.toNat < Nat.pow 2 63 then .integer number.toInt64 else .float (.ofInt number.toNat))
  | .single bits => .ok (.float (.ofSingleBits bits))
  | .double number => .ok (.float number)
  | .char character => .ok (.string (String.singleton character))
  | .text content => .ok (.string content)
  | .sequence items =>
    match nodesToValues items with
    | .ok values => .ok (.vector values)
    | .error error => .error error
  | .map entries =>
    match nodesToPairs entries with
    | .ok pairs => .ok (.object (Entries.ofPairs pairs))
    | .error error => .error error
  | .newtype content => .error (.invalidType (DataNode.newtype content).unexpected DataNode.anyValue)
  | .wideSigned number => .error (.invalidType (.wideSigned number) DataNode.anyValue)
  | .wideUnsigned number => .error (.invalidType (.wideUnsigned number) DataNode.anyValue)
  | .bytes _ => .error (.invalidType .bytes DataNode.anyValue)
  | .malformedBytes => .error (.invalidType .bytes DataNode.anyValue)
  | .bareTag _ => .error (.invalidType .unitVariant "newtype variant")
termination_by structural node => node

def nodesToValues : List DataNode → Except DecodeError (List Value)
  | [] => .ok []
  | node :: rest =>
    match node.toValue with
    | .error error => .error error
    | .ok value =>
      match nodesToValues rest with
      | .ok values => .ok (value :: values)
      | .error error => .error error
termination_by structural nodes => nodes

def nodesToPairs : List (DataNode × DataNode) → Except DecodeError (List (String × Value))
  | [] => .ok []
  | (keyNode, node) :: rest =>
    match keyNode.toText with
    | .error error => .error error
    | .ok key =>
      match node.toValue with
      | .error error => .error error
      | .ok value =>
        match nodesToPairs rest with
        | .ok pairs => .ok ((key, value) :: pairs)
        | .error error => .error error
termination_by structural entries => entries

end

end HostValue
