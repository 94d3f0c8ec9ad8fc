import HostValue.Capability
import HostValue.Value.Identity

/-!
# Comparison

Order and equality of values. Operands that can compare themselves are asked first, the left one
before the right one. Values of one kind are compared by their structure, and integers and floats
count as one kind. Values of different kinds are compared as the mode unifies them, which the strict
mode refuses to do.
-/

namespace HostValue

/-- What the operands themselves say about their order, the left one first. An operand that refuses
the type of the other is passed over. -/
def compareThemselves (left right : Value) : Except ValueError (Option Ordering) :=
  let ask (own other : Value) : Except ValueError (Option Ordering) :=
    match own with
    | .hosted _ payload =>
      match payload.compareWith? other with
      | none => .ok none
      | some (.ok ordering) => .ok (some ordering)
      | some (.error error) => if error.isIncompatibleTypes then .ok none else .error error
    | _ => .ok none
  match ask left right with
  | .ok none =>
    match ask right left with
    | .ok (some ordering) => .ok (some ordering.swap)
    | outcome => outcome
  | outcome => outcome

def sameDomain (left right : Value) : Bool :=
  left.kind == right.kind || (left.kind.isNumeric && right.kind.isNumeric)

def orderFloats (left right : Double) : Except ValueError Ordering :=
  match left.order? right with
  | some ordering => .ok ordering
  | none => .error (.coercion "NaN cannot be ordered")

/-- The order of two values without parts. An integer meets a float as the float nearest to it. -/
def orderScalars (left right : Value) : Except ValueError Ordering :=
  match left, right with
  | .null, .null => .ok .eq
  | .bool a, .bool b => .ok (compare a b)
  | .integer a, .integer b => .ok (compare a b)
  | .integer a, .float b => orderFloats (.ofInt a.toInt) b
  | .float a, .integer b => orderFloats a (.ofInt b.toInt)
  | .float a, .float b => orderFloats a b
  | .string a, .string b => .ok (compare a b)
  | .hosted i a, .hosted j b =>
    if i = j ∧ a = b then .ok .eq else .error (Mode.incompatible left right)
  | _, _ => .error (Mode.incompatible left right)

/-- The equality of two values without parts. Hosted values that cannot compare themselves are equal
when they are one handle. -/
def equalScalars (left right : Value) : Except ValueError Bool :=
  match left, right with
  | .float a, .float b => .ok (a.same b)
  | .hosted i a, .hosted j b =>
    if a.typeName = b.typeName then .ok (i = j ∧ a = b)
    else .error (Mode.incompatible left right)
  | _, _ =>
    match orderScalars left right with
    | .ok ordering => .ok (ordering == .eq)
    | .error error => .error error

mutual

def Mode.equal (mode : Mode) (left right : Value) : Except ValueError Bool :=
  match compareThemselves left right with
  | .error error => .error error
  | .ok (some ordering) => .ok (ordering == .eq)
  | .ok none =>
    match left, right with
    | .vector items, .vector others =>
      if items.length = others.length then mode.equalItems items others else .ok false
    | .object entries, .object others =>
      if entries.length = others.length then mode.equalEntries entries others else .ok false
    | left, right =>
      if sameDomain left right then
        equalScalars left right
      else
        match mode.unify left right with
        | .ok (leftText, rightText) => equalScalars (.string leftText) (.string rightText)
        | .error error => .error error
termination_by structural left

def Mode.equalItems (mode : Mode) (items others : List Value) : Except ValueError Bool :=
  match items, others with
  | item :: rest, other :: restOthers =>
    match mode.equal item other with
    | .ok true => mode.equalItems rest restOthers
    | outcome => outcome
  | _, _ => .ok true
termination_by structural items

def Mode.equalEntries (mode : Mode) (entries : List (String × Value)) (others : Entries) :
    Except ValueError Bool :=
  match entries with
  | [] => .ok true
  | (key, value) :: rest =>
    match others.get? key with
    | none => .ok false
    | some other =>
      match mode.equal value other with
      | .ok true => mode.equalEntries rest others
      | outcome => outcome
termination_by structural entries

end

mutual

/-- The order of two values. Objects have an order only when they are equal. -/
def Mode.compare (mode : Mode) (left right : Value) : Except ValueError Ordering :=
  match compareThemselves left right with
  | .error error => .error error
  | .ok (some ordering) => .ok ordering
  | .ok none =>
    match left, right with
    | .vector items, .vector others => mode.compareItems items others
    | .object entries, .object others =>
      match mode.equal (.object entries) (.object others) with
      | .ok true => .ok .eq
      | .ok false => .error (.typeMismatch "orderable value" "object")
      | .error error => .error error
    | left, right =>
      if sameDomain left right then
        orderScalars left right
      else
        match mode.unify left right with
        | .ok (leftText, rightText) => orderScalars (.string leftText) (.string rightText)
        | .error error => .error error
termination_by structural left

def Mode.compareItems (mode : Mode) (items others : List Value) : Except ValueError Ordering :=
  match items, others with
  | [], [] => .ok .eq
  | [], _ :: _ => .ok .lt
  | _ :: _, [] => .ok .gt
  | item :: rest, other :: restOthers =>
    match mode.compare item other with
    | .ok .eq => mode.compareItems rest restOthers
    | outcome => outcome
termination_by structural items

end

mutual

/-- Whether two values are equal by structure alone. It never fails: hosted values are equal when
they are one handle or the left one says so. -/
def Value.same : Value → Value → Bool
  | .null, .null => true
  | .bool a, .bool b => a == b
  | .integer a, .integer b => a == b
  | .float a, .float b => a.same b
  | .string a, .string b => a == b
  | .vector items, .vector others => items.length == others.length && sameItems items others
  | .object entries, .object others =>
    entries.length == others.length && sameEntries entries others
  | .hosted i a, .hosted j b =>
    (i == j && a == b) ||
      match a.compareWith? (.hosted j b) with
      | some (.ok ordering) => ordering == .eq
      | _ => false
  | _, _ => false
termination_by structural value => value

def sameItems : List Value → List Value → Bool
  | item :: rest, other :: restOthers => item.same other && sameItems rest restOthers
  | _, _ => true
termination_by structural items => items

def sameEntries : List (String × Value) → Entries → Bool
  | [], _ => true
  | (key, value) :: rest, others =>
    (match others.get? key with
      | some other => value.same other
      | none => false) && sameEntries rest others
termination_by structural entries => entries

end

end HostValue
