import HostValue.Number.Digits
import HostValue.Text.Quoted

/-!
# Errors

Everything that an operation on values can refuse, with its code and its message.
-/

namespace HostValue

inductive ValueError where
  | parse (input message : String)
  | typeMismatch (expected actual : String)
  | incompatibleTypes (left right : String)
  | invalidArgument (position : Nat) (message : String)
  | argumentCount (function message : String)
  | unknownField (name : String)
  | coercion (message : String)
  | notCopyable (typeName : String)
  | path (message : String)
  | limitExceeded (limit : String) (max actual : Nat)
  | serialization (message : String)
  deriving DecidableEq

namespace ValueError

def code : ValueError → String
  | .parse .. => "VALUE:PARSE"
  | .typeMismatch .. => "VALUE:TYPE"
  | .incompatibleTypes .. => "VALUE:INCOMPATIBLE"
  | .invalidArgument .. => "VALUE:INVALID_ARG"
  | .argumentCount .. => "VALUE:ARG_COUNT"
  | .unknownField .. => "VALUE:UNKNOWN_FIELD"
  | .coercion .. => "VALUE:COERCION"
  | .notCopyable .. => "VALUE:NOT_COPYABLE"
  | .path .. => "VALUE:PATH"
  | .limitExceeded .. => "VALUE:LIMIT"
  | .serialization .. => "VALUE:SERDE"

def message : ValueError → String
  | .parse input message => "parse error: " ++ message ++ " (input " ++ Text.quoted input ++ ")"
  | .typeMismatch expected actual => "type error: expected " ++ expected ++ ", found " ++ actual
  | .incompatibleTypes left right => "incompatible types: cannot compare " ++ left ++ " with " ++ right
  | .invalidArgument position message => "argument #" ++ renderNat position ++ ": " ++ message
  | .argumentCount function message => function ++ ": " ++ message
  | .unknownField name => "unknown property " ++ Text.quoted name
  | .coercion message => "coercion error: " ++ message
  | .notCopyable typeName => "cannot deep copy value of type " ++ typeName
  | .path message => "path error: " ++ message
  | .limitExceeded limit max actual =>
    "limit exceeded: " ++ limit ++ " (max " ++ renderNat max ++ ", got " ++ renderNat actual ++ ")"
  | .serialization message => "serialization error: " ++ message

/-- Whether the error says that two types cannot be compared. Comparison then asks the other
operand. -/
def isIncompatibleTypes : ValueError → Bool
  | .incompatibleTypes .. => true
  | _ => false

end ValueError

end HostValue
