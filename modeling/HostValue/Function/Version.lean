import HostValue.Function.Basic
import HostValue.Version.Encoding

/-!
# Functions over versions

The function that reads a version from a string.
-/

namespace HostValue.VersionFunction

def semver : Function :=
  .ofArgument "semver" "parses a string as a semantic version" fun context argument => do
    let text ← context.mode.toText argument
    let version ← Version.parseTolerant text
    return (Payload.version version).host

def table : List Function :=
  [semver]

end HostValue.VersionFunction
