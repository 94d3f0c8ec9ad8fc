import HostValue.Coalescing
import HostValue.Json.Basic
import HostValue.Text.Casing

/-!
# Settings

What a host configures, from data or from its environment: the mode of the value layer, and the log.
-/

namespace HostValue

/-! ### The value layer -/

abbrev Environment := List (String × String)

structure Settings where
  coalescing : Mode
  deriving DecidableEq

namespace Mode

def variants : List (String × Mode) :=
  [("strict", .strict), ("humane", .humane)]

end Mode

namespace Kind

def variants : List (String × Kind) :=
  all.map fun kind => (kind.encodedName, kind)

end Kind

namespace Settings

def default : Settings :=
  ⟨.strict⟩

def modeVariable : String :=
  "TESSERA_COALESCING"

def ofJson : Json → Except DecodeError Settings :=
  Json.toRecord "Config" ["coalescing"] default fun settings field json =>
    if field = "coalescing" then do
      return { settings with coalescing := ← json.toVariant Mode.variants }
    else
      return settings

/-- The settings that an environment selects. A text that names no mode is passed over. -/
def ofEnvironment (environment : Environment) : Settings :=
  match environment.lookup modeVariable with
  | none => default
  | some text =>
    match Mode.parse text with
    | .ok mode => ⟨mode⟩
    | .error _ => default

end Settings

end HostValue

namespace HostValue.Log

/-! ### The log

How a host's log is filtered, laid out and shown, with the settings for common situations. -/

inductive Layout where
  | pretty
  | compact
  | json
  deriving DecidableEq

inductive Writer where
  | stderr
  | stdout
  | test
  deriving DecidableEq

structure Display where
  time : Bool
  source : Bool
  target : Bool
  threadIds : Bool
  colors : Bool
  spanList : Bool
  flatten : Bool
  deriving DecidableEq

structure Settings where
  level : String
  layout : Layout
  writer : Writer
  display : Display
  service : Option String
  deriving DecidableEq

namespace Layout

def variants : List (String × Layout) :=
  [("pretty", .pretty), ("compact", .compact), ("json", .json)]

def name : Layout → String
  | .pretty => "pretty"
  | .compact => "compact"
  | .json => "json"

def ofText (text : String) : Layout :=
  let lower := Text.lowerString text
  if lower = "pretty" then .pretty else if lower = "json" then .json else .compact

end Layout

namespace Writer

def variants : List (String × Writer) :=
  [("stderr", .stderr), ("stdout", .stdout), ("test", .test)]

def name : Writer → String
  | .stderr => "stderr"
  | .stdout => "stdout"
  | .test => "test"

end Writer

namespace Display

def default : Display where
  time := true
  source := true
  target := true
  threadIds := false
  colors := false
  spanList := true
  flatten := true

def ofJson : Json → Except DecodeError Display :=
  Json.toRecord "DisplayConfig"
    ["time", "source", "target", "thread_ids", "colors", "span_list", "flatten"] default
    fun display field json => do
      match field with
      | "time" => return { display with time := ← json.toBool }
      | "source" => return { display with source := ← json.toBool }
      | "target" => return { display with target := ← json.toBool }
      | "thread_ids" => return { display with threadIds := ← json.toBool }
      | "colors" => return { display with colors := ← json.toBool }
      | "span_list" => return { display with spanList := ← json.toBool }
      | "flatten" => return { display with flatten := ← json.toBool }
      | _ => return display

/-- The toggle that a variable sets: any text but `0` and `false` turns it on. -/
def flag? (environment : Environment) (name : String) : Option Bool :=
  (environment.lookup name).map fun text => text != "0" && text != "false"

def withEnvironment (display : Display) (environment : Environment) : Display :=
  { display with
    time := (flag? environment "TESSERA_LOG_TIME").getD display.time
    source := (flag? environment "TESSERA_LOG_SOURCE").getD display.source
    colors := (flag? environment "TESSERA_LOG_COLORS").getD display.colors }

end Display

namespace Settings

def default : Settings where
  level := "info"
  layout := .compact
  writer := .stderr
  display := .default
  service := none

def development : Settings :=
  { default with
    level := "debug"
    layout := .pretty
    display := { Display.default with colors := true, source := true } }

def production : Settings :=
  { default with
    layout := .json
    display := { Display.default with colors := false, source := false, flatten := true } }

def test : Settings :=
  { default with
    level := "trace"
    writer := .test
    display := { Display.default with colors := false, time := false } }

/-- The level that an environment asks for. The variable of this log goes before the common one. -/
def level? (environment : Environment) : Option String :=
  match environment.lookup "TESSERA_LOG" with
  | some level => some level
  | none => environment.lookup "RUST_LOG"

def ofEnvironment (environment : Environment) : Settings :=
  { default with
    level := (level? environment).getD default.level
    layout := ((environment.lookup "TESSERA_LOG_FORMAT").map Layout.ofText).getD default.layout
    display := Display.default.withEnvironment environment }

/-- The settings of a log that sets itself up: those of the environment if it asks for a level, else
those for development. -/
def automatic (environment : Environment) : Settings :=
  if (level? environment).isSome then ofEnvironment environment else development

def ofJson : Json → Except DecodeError Settings :=
  Json.toRecord "Config" ["level", "format", "writer", "display", "service"] default
    fun settings field json => do
      match field with
      | "level" => return { settings with level := ← json.toText }
      | "format" => return { settings with layout := ← json.toVariant Layout.variants }
      | "writer" => return { settings with writer := ← json.toVariant Writer.variants }
      | "display" => return { settings with display := ← Display.ofJson json }
      | "service" => return { settings with service := ← json.toText? }
      | _ => return settings

end Settings

end HostValue.Log
