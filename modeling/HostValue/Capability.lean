import HostValue.Coalescing

/-!
# Capabilities

What the type of a hosted value may offer besides its string form: comparison with another value,
reading a field, writing a field. An operation answers nothing when the type does not offer it.
-/

namespace HostValue

inductive Capability where
  | string
  | compare
  | copy
  | get
  | set
  deriving DecidableEq

def Payload.offers : Payload → Capability → Bool
  | .version _, _ => true
  | .point .., _ => true
  | .broken, _ => true
  | .set _, capability => capability == .compare || capability == .copy
  | .tag _, capability => capability == .string
  | .text _, capability => capability == .compare || capability == .get
  | .box _, capability => capability != .compare
  | .bare _, _ => false
  | .other _, _ => false

/-! ### Fields of versions -/

namespace Version

inductive Component where
  | major
  | minor
  | patch
  deriving DecidableEq

def Component.name : Component → String
  | .major => "major"
  | .minor => "minor"
  | .patch => "patch"

/-- The component that a name stands for, in any case. -/
def component? (name : String) : Option Component :=
  let lower := Text.lowerString name
  if lower = "major" then some .major
  else if lower = "minor" then some .minor
  else if lower = "patch" then some .patch
  else none

def get (version : Version) : Component → UInt64
  | .major => version.major
  | .minor => version.minor
  | .patch => version.patch

def set (version : Version) (component : Component) (number : UInt64) : Version :=
  match component with
  | .major => { version with major := number }
  | .minor => { version with minor := number }
  | .patch => { version with patch := number }

def readField (version : Version) (name : String) : Except ValueError Value :=
  match component? name with
  | none => .error (.unknownField name)
  | some component =>
    let number := version.get component
    if number.toNat < Nat.pow 2 63 then
      .ok (.integer number.toInt64)
    else
      .error (.coercion
        (name ++ " version " ++ renderNat number.toNat ++ " does not fit an integer"))

def writeField (version : Version) (name : String) (value : Value) : Except ValueError Version :=
  match component? name with
  | none => .error (.unknownField name)
  | some component =>
    match value with
    | .integer number =>
      if 0 ≤ number.toInt then
        .ok (version.set component number.toUInt64)
      else
        .error (.typeMismatch
          ("non-negative integer for " ++ component.name ++ " version") "negative integer")
    | other =>
      .error (.typeMismatch ("integer for " ++ component.name ++ " version") other.typeName)

end Version

/-! ### Payloads -/

namespace Payload

def orderPoints (x y u v : Int64) : Ordering :=
  (compare x u).then (compare y v)

/-- Compares a payload with a value. A type that compares refuses values of other types with the
error that says so. -/
def compareWith? (payload : Payload) (operand : Value) : Option (Except ValueError Ordering) :=
  match payload with
  | .version own =>
    some <|
      match operand with
      | .hosted _ (.version right) => .ok (own.order right)
      | _ => .error (.incompatibleTypes payload.typeName operand.typeName)
  | .set own =>
    some <|
      match operand with
      | .hosted _ (.set right) => .ok (own.order right)
      | _ => .error (.incompatibleTypes payload.typeName operand.typeName)
  | .point x y =>
    some <|
      match operand with
      | .hosted _ (.point u v) => .ok (orderPoints x y u v)
      | _ => .error (.incompatibleTypes payload.typeName operand.typeName)
  | .text content =>
    some <|
      match operand with
      | .string right => .ok (compare content right)
      | .hosted _ (.text right) => .ok (compare content right)
      | _ => .error (.incompatibleTypes payload.typeName operand.typeName)
  | .broken => some (.error (.coercion "broken compare"))
  | .bare _ => none
  | .other _ => none
  | .tag _ => none
  | .box _ => none

def readField? (payload : Payload) (name : String) : Option (Except ValueError Value) :=
  match payload with
  | .version own => some (own.readField name)
  | .point x y =>
    let lower := Text.lowerString name
    some <|
      if lower = "x" then .ok (.integer x)
      else if lower = "y" then .ok (.integer y)
      else .error (.unknownField name)
  | .text content =>
    some (if name = "text" then .ok (.string content) else .error (.unknownField name))
  | .box content =>
    some (if name = "value" then .ok content else .error (.unknownField name))
  | .broken => some (.error (.coercion "broken read"))
  | .set _ => none
  | .bare _ => none
  | .other _ => none
  | .tag _ => none

def writePoint (x y : Int64) (name : String) (value : Value) : Except ValueError Payload :=
  match value with
  | .integer number =>
    let lower := Text.lowerString name
    if lower = "x" then .ok (.point number y)
    else if lower = "y" then .ok (.point x number)
    else .error (.unknownField name)
  | refused => .error (.typeMismatch "integer" refused.typeName)

def writeField? (payload : Payload) (name : String) (value : Value) :
    Option (Except ValueError Payload) :=
  match payload with
  | .version own =>
    some <|
      match own.writeField name value with
      | .ok updated => .ok (.version updated)
      | .error error => .error error
  | .point x y => some (writePoint x y name value)
  | .box _ =>
    some (if name = "value" then .ok (.box value) else .error (.unknownField name))
  | .broken => some (.error (.coercion "broken write"))
  | .set _ => none
  | .bare _ => none
  | .other _ => none
  | .tag _ => none
  | .text _ => none

end Payload

end HostValue
