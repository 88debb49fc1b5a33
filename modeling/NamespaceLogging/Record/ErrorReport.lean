import NamespaceLogging.Number.Integer
import NamespaceLogging.Record.Cause

/-!
# How errors show themselves

The library's own errors, and the few others that a simulation can name, as reports from which
causes are made.

## Main definitions

* `IoError.report`, `AspectError.report`, `ConfigError.report`, `IntegerError.report`.
* `NamedError`: an error with the full name of its type.

## Implementation notes

Of the form for diagnostics only the leading name is ever read, so the reports here give that name
and an opening bracket.
-/

set_option autoImplicit false

namespace NamespaceLogging

/-- The report of a failed operation. -/
def IoError.report (error : IoError) : ErrorReport :=
  match error with
  | .simple _ => .root error.message "Kind("
  | .custom _ _ => .root error.message "Custom "
  | .system _ => .root error.message "Os "

/-- The report of a sink's failure; behind a failed operation stands the operation's error. -/
def AspectError.report (error : AspectError) : ErrorReport :=
  match error with
  | .io inner => .dueTo error.message "Io(" inner.report
  | .init _ => .root error.message "Init("
  | .processing _ => .root error.message "Processing("
  | .shutDown => .root error.message "ShutDown"

/-- The name of the sort of a configuration problem. -/
def ConfigError.kindName : ConfigError → String
  | .unknownLevel _ => "UnknownLevel"
  | .malformedOverride _ => "MalformedOverride"
  | .emptyNamespace _ => "EmptyNamespace"
  | .emptyLevelSet => "EmptyLevelSet"
  | .unknownToken _ => "UnknownToken"
  | .unterminatedToken _ => "UnterminatedToken"
  | .invalidThreshold => "InvalidThreshold"
  | .invalidFrameCap => "InvalidFrameCap"
  | .invalidTimeFormat _ => "InvalidTimeFormat"
  | .aspect _ => "Aspect"
  | .io _ => "Io"
  | .parse => "Parse"
  | .invalid _ => "Invalid"

/-- The report of a configuration problem; a sink's failure or a failed operation is its source. -/
def ConfigError.report (error : ConfigError) : ErrorReport :=
  match error with
  | .aspect inner => .dueTo error.message error.kindName inner.report
  | .io inner => .dueTo error.message error.kindName inner.report
  | _ => .root error.message error.kindName

/-- The report of a failure to read an integer. -/
def IntegerError.report (error : IntegerError) : ErrorReport :=
  .root error.message "ParseIntError "

/-- An error with the full name of its type. -/
structure NamedError where
  typeName : String
  report : ErrorReport
deriving DecidableEq, Repr

namespace NamedError

/-- A failed operation as an error. -/
def io (error : IoError) : NamedError := ⟨"io::Error", error.report⟩

/-- A sink's failure as an error. -/
def aspect (error : AspectError) : NamedError := ⟨"error::AspectError", error.report⟩

/-- A configuration problem as an error. -/
def config (error : ConfigError) : NamedError := ⟨"error::ConfigError", error.report⟩

/-- An unreadable integer as an error. -/
def integer (error : IntegerError) : NamedError := ⟨"num::ParseIntError", error.report⟩

/-- An error that wraps another one in a generic type. -/
def wrapped (inner : NamedError) : NamedError :=
  ⟨"Wrapper<" ++ inner.typeName ++ ">", .dueTo "wrapped" "Wrapper(" inner.report⟩

end NamedError

/-- The snapshot of an error; without its type, the type is guessed from the form for
diagnostics. -/
def Cause.ofNamedError (typed : Bool) (error : NamedError) : Cause :=
  if typed then .ofError error.typeName error.report else .ofReport error.report

end NamespaceLogging
