import HostValue.Capability

/-!
# Deep copies

A copy that shares no handle with its source. Collections are rebuilt item by item, and every hosted
value has to offer a copy of itself. New handles take their identities from a supply: the number of
the next identity, which every new handle uses up.
-/

namespace HostValue

/-- A computation that may make new handles and may fail. Its state is the next unused identity. -/
abbrev Fresh := StateT Nat (Except ValueError)

def Payload.host (payload : Payload) : Fresh Value :=
  modifyGet fun identity => (.hosted identity payload, identity + 1)

def Fresh.ofExcept {α : Type} (outcome : Except ValueError α) : Fresh α :=
  StateT.lift outcome

mutual

def Value.deepCopy : Value → Fresh Value
  | .null => return .null
  | .bool flag => return .bool flag
  | .integer number => return .integer number
  | .float number => return .float number
  | .string text => return .string text
  | .vector items => return .vector (← copyItems items)
  | .object entries => return .object (← copyEntries entries)
  | .hosted _ payload =>
    match payload.copy? with
    | some copy => copy
    | none => throw (.notCopyable payload.typeName)
termination_by structural value => value

def Payload.copy? : Payload → Option (Fresh Value)
  | .version version => some (Payload.version version).host
  | .set set => some (Payload.set set).host
  | .point x y => some (Payload.point x y).host
  | .box content =>
    some do
      let copy ← content.deepCopy
      (Payload.box copy).host
  | .broken => some (throw (.coercion "broken copy"))
  | .bare _ => none
  | .other _ => none
  | .tag _ => none
  | .text _ => none
termination_by structural payload => payload

def copyItems : List Value → Fresh (List Value)
  | [] => return []
  | item :: rest => do
    let copy ← item.deepCopy
    return copy :: (← copyItems rest)
termination_by structural items => items

def copyEntries : List (String × Value) → Fresh (List (String × Value))
  | [] => return []
  | (key, value) :: rest => do
    let copy ← value.deepCopy
    return (key, copy) :: (← copyEntries rest)
termination_by structural entries => entries

end

end HostValue
