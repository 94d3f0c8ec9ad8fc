import HostValue.Error
import HostValue.Number.Format
import HostValue.Text.Casing
import HostValue.Text.Character
import HostValue.Value.Basic

/-!
# Coalescing

The two policies by which a function turns a value into the kind that it needs. The strict mode only
makes conversions that lose nothing: strings stay strings, null is the empty value of every kind, and
hosted values with a string form serve as strings. The humane mode also writes numbers and booleans
as strings, reads numbers from strings, takes every value as true or false, and brings values of
different kinds together through their string forms.
-/

namespace HostValue

inductive Mode where
  | strict
  | humane
  deriving DecidableEq

namespace Mode

def name : Mode → String
  | .strict => "strict"
  | .humane => "humane"

def parse (text : String) : Except ValueError Mode :=
  let normal := String.ofList (Text.lower (Text.trim text.toList))
  if normal = "strict" then .ok .strict
  else if normal = "humane" then .ok .humane
  else .error (.parse normal "unknown coalescing mode")

end Mode

def cannotConvert (value : Value) (target : String) : ValueError :=
  .coercion ("cannot convert " ++ value.typeName ++ " losslessly to " ++ target)

/-! ### Strings -/

mutual

def Mode.toText (mode : Mode) : Value → Except ValueError String
  | .null => .ok ""
  | .string text => .ok text
  | .hosted identity payload =>
    match mode.textForm? payload with
    | some form => form
    | none => .error (cannotConvert (.hosted identity payload) "string")
  | .bool flag =>
    if mode = .humane then .ok (if flag then "true" else "false")
    else .error (cannotConvert (.bool flag) "string")
  | .integer number =>
    if mode = .humane then .ok (renderInt number.toInt)
    else .error (cannotConvert (.integer number) "string")
  | .float number =>
    if mode = .humane then .ok (NumberFormat.plain.render number)
    else .error (cannotConvert (.float number) "string")
  | .vector items => .error (cannotConvert (.vector items) "string")
  | .object entries => .error (cannotConvert (.object entries) "string")
termination_by structural value => value

/-- The string form of a payload, if its type offers one. A box asks for the string of its content
under the same mode. -/
def Mode.textForm? (mode : Mode) : Payload → Option (Except ValueError String)
  | .version version => some (.ok version.render)
  | .point x y => some (.ok (renderInt x.toInt ++ "," ++ renderInt y.toInt))
  | .tag label => some (.ok label)
  | .box content =>
    some <|
      match mode.toText content with
      | .ok text => .ok ("box:" ++ text)
      | .error error => .error error
  | .broken => some (.error (.coercion "broken string"))
  | .set _ => none
  | .bare _ => none
  | .other _ => none
  | .text _ => none
termination_by structural payload => payload

end

namespace Mode

/-! ### Lists, integers and booleans -/

def toVector (mode : Mode) : Value → Except ValueError (List Value)
  | .null => .ok []
  | .vector items => .ok items
  | .object [] =>
    if mode = .humane then .ok [] else .error (cannotConvert (.object []) "vector")
  | value => .error (cannotConvert value "vector")

/-- The least positive number that no integer of sixty-four bits reaches. It is a double, and the
greatest integer below it is none; the least integer is its negative. -/
def integerBound : Double :=
  .ofInt 9223372036854775808

/-- The integer that a float makes: the number itself, if it is an integer of sixty-four bits. The
bounds are compared as floats, so that the cast meets no number beyond them. -/
def integerOfFloat (number : Double) : Except ValueError Int64 :=
  if number.isFinite && !number.hasFraction then
    if (number.order? integerBound.negate).any Ordering.isGE &&
        (number.order? integerBound).any Ordering.isLT then
      .ok number.toInt64
    else
      .error (.coercion (NumberFormat.plain.render number ++ " is out of integer range"))
  else
    .error (cannotConvert (.float number) "integer")

def integerOfString (text : String) : Except ValueError Int64 :=
  let trimmed := Text.trim text.toList
  if trimmed.isEmpty then
    .ok 0
  else
    match parseSigned? trimmed with
    | some integer => .ok integer
    | none => .error (.coercion (Text.quoted text ++ " is not a valid integer"))

def toInteger (mode : Mode) (value : Value) : Except ValueError Int64 :=
  match mode, value with
  | _, .null => .ok 0
  | _, .integer number => .ok number
  | .humane, .bool flag => .ok (if flag then 1 else 0)
  | .humane, .float number => integerOfFloat number
  | .humane, .string text => integerOfString text
  | _, _ => .error (cannotConvert value "integer")

def truthOfString (text : String) : Bool :=
  let trimmed := Text.trim text.toList
  !(trimmed.isEmpty || trimmed == ['0'] || trimmed.map Char.toLower == "false".toList)

def toBool (mode : Mode) (value : Value) : Except ValueError Bool :=
  match mode, value with
  | _, .null => .ok false
  | _, .bool flag => .ok flag
  | .humane, .integer number => .ok (number != 0)
  | .humane, .float number => .ok (!number.isZero && !number.isNaN)
  | .humane, .string text => .ok (truthOfString text)
  | .humane, .vector items => .ok !items.isEmpty
  | .humane, .object entries => .ok !entries.isEmpty
  | _, _ => .error (cannotConvert value "bool")

/-! ### Mixed kinds -/

def incompatible (left right : Value) : ValueError :=
  .incompatibleTypes left.typeName right.typeName

def unify (mode : Mode) (left right : Value) : Except ValueError (String × String) :=
  match mode with
  | .strict => .error (incompatible left right)
  | .humane =>
    match humane.toText left, humane.toText right with
    | .ok leftText, .ok rightText => .ok (leftText, rightText)
    | _, _ => .error (incompatible left right)

end Mode

end HostValue

namespace HostValue.Mode

/-! ### String arguments

Functions over sets take their items as strings and vectors of strings in any mixture. -/

def itemStrings (mode : Mode) : List Value → Except ValueError (List String)
  | [] => .ok []
  | item :: rest =>
    match mode.toText item with
    | .error _ => .error (.coercion "argument vector contains non-string")
    | .ok text =>
      match mode.itemStrings rest with
      | .ok texts => .ok (text :: texts)
      | .error error => .error error

def argumentStrings (mode : Mode) (argument : Value) : Except ValueError (List String) :=
  match mode.toVector argument with
  | .ok items => mode.itemStrings items
  | .error _ =>
    match mode.toText argument with
    | .ok text => .ok [text]
    | .error _ =>
      .error (.coercion ("argument is neither vector nor string, but " ++ argument.typeName))

def strings (mode : Mode) : List Value → Except ValueError (List String)
  | [] => .ok []
  | argument :: rest =>
    match mode.argumentStrings argument with
    | .error error => .error error
    | .ok texts =>
      match mode.strings rest with
      | .ok others => .ok (texts ++ others)
      | .error error => .error error

end HostValue.Mode
