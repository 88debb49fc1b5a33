import NamespaceLogging.Text.CharClass
import NamespaceLogging.Text.Quoted

/-!
# Targets

Where the lines of a stream sink go.

## Main definitions

* `Target`, `Target.parse`: a standard stream or a file, and its reading.
* `Target.name`, `Target.debugText`: its name and its form for diagnostics.
-/

set_option autoImplicit false

namespace NamespaceLogging

/-- Where lines are written to. -/
inductive Target where
  | stderr
  | stdout
  /-- A file, which is appended to and made if it is missing. -/
  | file (path : String)
deriving DecidableEq, Repr

namespace Target

/-- `stderr` and `stdout`, in any letter case, name the standard streams; all else is a path. -/
def parse (s : String) : Target :=
  let trimmed := Text.trim s.toList
  match String.ofList (Text.asciiLower trimmed) with
  | "stderr" => .stderr
  | "stdout" => .stdout
  | _ => .file (String.ofList trimmed)

/-- The name of the target. -/
def name : Target → String
  | .stderr => "stderr"
  | .stdout => "stdout"
  | .file path => path

/-- The target for diagnostics. -/
def debugText : Target → String
  | .stderr => "Stderr"
  | .stdout => "Stdout"
  | .file path => "File(" ++ Text.quote path ++ ")"

end Target

end NamespaceLogging
