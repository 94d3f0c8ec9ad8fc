import HostValue.Function.Basic
import HostValue.Yaml.Reader
import HostValue.Yaml.Writer

/-!
# Functions over YAML

The functions that write a value as YAML text and read a value from one.
-/

namespace HostValue.Value

def toYaml (value : Value) : Except DecodeError String :=
  match Yaml.Tree.ofValue value with
  | .ok tree => .ok (String.ofList (Yaml.closeLine (tree.write .start 0)))
  | .error error => .error error

def ofYaml? (text : String) : Option Value :=
  match Yaml.readTree? text.toList with
  | none => none
  | some tree =>
    match tree.toValue with
    | .ok value => some value
    | .error _ => none

end HostValue.Value

namespace HostValue.YamlFunction

def toYaml : Function :=
  .ofArgument "to-yaml" "encodes the given value as YAML" fun _ argument =>
    match argument.toYaml with
    | .ok text => .ok (return .string text)
    | .error error => .error (.serialization error.message)

def fromYaml : Function :=
  .ofArgument "from-yaml" "decodes a YAML string into a value" fun context argument => do
    let text ← context.mode.toText argument
    match Value.ofYaml? text with
    | some value => return return value
    | none => throw (.serialization "the text is not the YAML of a value")

def table : List Function :=
  [toYaml, fromYaml]

end HostValue.YamlFunction
