import HostValue.Log.Pattern
import HostValue.Number.Digits
import HostValue.Settings
import HostValue.Text.Character
import HostValue.Text.Quoted

/-!
# Filters of the log

The texts that say which log lines are shown: directives between commas. A directive is a level, a
target, or a target with a span and its fields between brackets, and then a level after an equals
sign. Whether a filter is accepted is all that is decided here.
-/

namespace HostValue.Log

/-! ### Fields

A field that the spans of a directive have to have is a name, and behind an equals sign a value. A value
is a number, or else a pattern, which all words are too. -/

def fieldValue? (field : List Char) : Option (List Char) :=
  match field.dropWhile (· != '=') with
  | _ :: rest => some (rest.takeWhile (· != '='))
  | [] => none

def checkField (field : List Char) : Except Pattern.Fault Unit :=
  match fieldValue? field with
  | none => .ok ()
  | some value => if isDecimal value then .ok () else Pattern.check value

/-! ### Directives -/

inductive DirectiveFault where
  | malformed
  | noLevel
  | field (fault : Pattern.Fault)
  deriving DecidableEq

def DirectiveFault.message : DirectiveFault → String
  | .malformed => "invalid filter directive"
  | .noLevel =>
    "error parsing level filter: expected one of \"off\", \"error\", \"warn\", \"info\", " ++
      "\"debug\", \"trace\", or a number 0-5"
  | .field fault => "invalid field filter: " ++ fault.message

inductive SetupError where
  | configuration (message : String)
  | filter (filter reason : String)
  | initialization (message : String)
  deriving DecidableEq

namespace SetupError

def code : SetupError → String
  | .configuration _ => "LOG:CONFIG"
  | .filter _ _ => "LOG:FILTER"
  | .initialization _ => "LOG:INIT"

def message : SetupError → String
  | .configuration message => "configuration error: " ++ message
  | .filter directives reason => "invalid filter " ++ Text.quoted directives ++ ": " ++ reason
  | .initialization message => "logger initialization failed: " ++ message

end SetupError

namespace Directive

/-- Whether a text names a level: a number up to five, or a word in any case. No text at all stands
for a level too. -/
def isLevel (text : List Char) : Bool :=
  match parseUnsigned? text with
  | some number => number.toNat ≤ 5
  | none =>
    ["", "off", "error", "warn", "info", "debug", "trace"].contains
      (String.ofList (text.map Char.toLower))

def dropBytes : Nat → List Char → List Char
  | 0, text => text
  | _, [] => []
  | count, c :: rest => dropBytes (count - c.utf8Size) rest

/-- The characters that start in the first bytes of a text. -/
def takeBytes : Nat → List Char → List Char
  | 0, _ => []
  | _, [] => []
  | count, c :: rest => c :: takeBytes (count - c.utf8Size) rest

/-- The part of a directive that is being read. Parts whose text matters later know the byte at which
they start. -/
inductive Part where
  | start
  | levelOrTarget
  | span
  | field (start : Nat)
  | afterFields
  | afterSpan
  | level (start : Nat)

def isStart (c : Char) : Bool :=
  c == '-' || c == ':' || c == '_' || Text.isAlphanumeric c

def step (text : List Char) (part : Part) (position : Nat) (c : Char) :
    Except DirectiveFault Part :=
  match part with
  | .start =>
    if c = '[' then .ok .span else if isStart c then .ok .levelOrTarget else .error .malformed
  | .levelOrTarget =>
    if c = '=' then .ok (.level (position + 1))
    else if c = '[' then .ok .span
    else .ok .levelOrTarget
  | .span =>
    if c = ']' then .ok .afterSpan
    else if c = '{' then .ok (.field (position + 1))
    else .ok .span
  | .field start =>
    if c = '}' then
      if start = position then
        .error .malformed
      else
        match checkField (takeBytes (position - start) (dropBytes start text)) with
        | .ok _ => .ok .afterFields
        | .error fault => .error (.field fault)
    else
      .ok (.field start)
  | .afterFields => if c = ']' then .ok .afterSpan else .error .malformed
  | .afterSpan => if c = '=' then .ok (.level (position + 1)) else .error .malformed
  | .level start => .ok (.level start)

def run (text : List Char) (part : Part) (position : Nat) :
    List Char → Except DirectiveFault Part
  | [] => .ok part
  | c :: rest =>
    match step text part position c with
    | .ok next => run text next (position + c.utf8Size) rest
    | .error fault => .error fault

/-- Checks a directive. Blanks around it are not read, but they count when fields and a level are cut
out: these are what stands in the whole text at the bytes where they stand without the blanks. -/
def check (text : List Char) : Except DirectiveFault Unit :=
  match run text .start 0 (Text.trim text) with
  | .ok .levelOrTarget => .ok ()
  | .ok .afterSpan => .ok ()
  | .ok (.level start) => if isLevel (dropBytes start text) then .ok () else .error .noLevel
  | .ok _ => .error .malformed
  | .error fault => .error fault

end Directive

def splitCommas : List Char → List (List Char)
  | [] => [[]]
  | c :: rest =>
    if c = ',' then
      [] :: splitCommas rest
    else
      match splitCommas rest with
      | [] => [[c]]
      | piece :: pieces => (c :: piece) :: pieces

def checkFilter (filter : String) : Except DirectiveFault Unit :=
  ((splitCommas filter.toList).filter (fun piece => !piece.isEmpty)).forM Directive.check

/-- Sets up a log in a process that already has one: the filter is checked, and then the log that is
there stands in the way. -/
def Settings.setUp (settings : Settings) : SetupError :=
  match checkFilter settings.level with
  | .ok _ => .initialization "a global default trace dispatcher has already been set"
  | .error fault => .filter settings.level fault.message

end HostValue.Log
