import HostValue.Coalescing

/-!
# Display of values

The text in which a value is shown to people: strings in quotes, vectors and objects with blanks
between their parts, hosted values by the name of their type and their string form, if they have one.
-/

namespace HostValue

mutual

def Value.display : Value → String
  | .null => "null"
  | .bool flag => if flag then "true" else "false"
  | .integer number => renderInt number.toInt
  | .float number => NumberFormat.plain.render number
  | .string text => Text.quoted text
  | .vector items => "[" ++ " ".intercalate (displayItems items) ++ "]"
  | .object entries => "\x7b" ++ " ".intercalate (displayEntries entries) ++ "\x7d"
  | .hosted _ payload =>
    match Mode.humane.textForm? payload with
    | some (.ok text) => payload.typeName ++ "(" ++ text ++ ")"
    | _ => "<" ++ payload.typeName ++ ">"
termination_by structural value => value

def displayItems : List Value → List String
  | [] => []
  | item :: rest => item.display :: displayItems rest
termination_by structural items => items

def displayEntries : List (String × Value) → List String
  | [] => []
  | (key, value) :: rest => (key ++ " " ++ value.display) :: displayEntries rest
termination_by structural entries => entries

end

end HostValue
