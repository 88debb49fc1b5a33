/-!
# Errors

What can go wrong, as causes.  Configuration problems reach the caller; failures of a sink stay
inside its engine, which counts them.  The wording of every error is in one function per type.

## Main definitions

* `IoError`: a failed operation on a file or stream.
* `AspectError`: a failure of a sink.
* `ConfigError`: a problem with the configuration.
* `IntegerError`: why a text is not an integer of a given size.
-/

set_option autoImplicit false

namespace NamespaceLogging

/-! ## Input and output -/

/-- The sorts of failure that a program may report itself. -/
inductive IoKind where
  | notFound
  | permissionDenied
  | brokenPipe
  | other
deriving DecidableEq, Repr

/-- The description of a sort of failure. -/
def IoKind.message : IoKind → String
  | .notFound => "entity not found"
  | .permissionDenied => "permission denied"
  | .brokenPipe => "broken pipe"
  | .other => "other error"

/-- The failures that the operating system reports. -/
inductive SystemFault where
  | noEntry
  | notDirectory
  | isDirectory
  | noSpace
  | nameTooLong
deriving DecidableEq, Repr

/-- The system's number for a failure. -/
def SystemFault.code : SystemFault → Nat
  | .noEntry => 2
  | .notDirectory => 20
  | .isDirectory => 21
  | .noSpace => 28
  | .nameTooLong => 36

/-- The system's text for a failure. -/
def SystemFault.text : SystemFault → String
  | .noEntry => "No such file or directory"
  | .notDirectory => "Not a directory"
  | .isDirectory => "Is a directory"
  | .noSpace => "No space left on device"
  | .nameTooLong => "File name too long"

/-- A failed operation on a file or stream. -/
inductive IoError where
  /-- Only the sort of failure is known. -/
  | simple (kind : IoKind)
  /-- A failure with a message of its own. -/
  | custom (kind : IoKind) (message : String)
  /-- A failure that the operating system reported. -/
  | system (fault : SystemFault)
deriving DecidableEq, Repr

/-- The text of a failed operation. -/
def IoError.message : IoError → String
  | .simple kind => kind.message
  | .custom _ message => message
  | .system fault => fault.text ++ " (os error " ++ toString fault.code ++ ")"

/-! ## Sinks -/

/-- A failure of a sink. -/
inductive AspectError where
  | io (error : IoError)
  | init (text : String)
  | processing (text : String)
  | shutDown
deriving DecidableEq, Repr

/-- The text of a sink's failure. -/
def AspectError.message : AspectError → String
  | .io error => "I/O error: " ++ error.message
  | .init text => "aspect failed to initialize: " ++ text
  | .processing text => text
  | .shutDown => "aspect has been shut down"

/-! ## Configuration -/

/-- A problem with the configuration. -/
inductive ConfigError where
  | unknownLevel (name : String)
  | malformedOverride (entry : String)
  | emptyNamespace (entry : String)
  | emptyLevelSet
  | unknownToken (name : String)
  /-- A layout token without an end; the offset counts bytes. -/
  | unterminatedToken (offset : Nat)
  | invalidThreshold
  | invalidFrameCap
  | invalidTimeFormat (format : String)
  | aspect (error : AspectError)
  | io (error : IoError)
  /-- The configuration text does not follow its grammar. -/
  | parse
  /-- Several problems at once. -/
  | invalid (errors : List ConfigError)
deriving Repr

mutual

/-- The text of a configuration problem. -/
def ConfigError.message : ConfigError → String
  | .unknownLevel name => "unknown log level `" ++ name ++ "`"
  | .malformedOverride entry =>
    "malformed namespace override `" ++ entry ++ "`, expected `namespace=LEVEL`"
  | .emptyNamespace entry => "`" ++ entry ++ "` does not name a namespace"
  | .emptyLevelSet => "level filter needs at least one level"
  | .unknownToken name => "unknown layout token `\x7b" ++ name ++ "\x7d`"
  | .unterminatedToken offset => "unterminated layout token starting at byte " ++ toString offset
  | .invalidThreshold => "error threshold must be at least 1"
  | .invalidFrameCap => "max cause frames must be at least 1"
  | .invalidTimeFormat format => "invalid time format `" ++ format ++ "`"
  | .aspect error => "default aspect failed to start: " ++ error.message
  | .io error => "I/O error: " ++ error.message
  | .parse => "parse error"
  | .invalid errors =>
    "invalid configuration: " ++ ", ".intercalate (ConfigError.messages errors)

/-- The texts of several problems, in order. -/
def ConfigError.messages : List ConfigError → List String
  | [] => []
  | error :: errors => error.message :: ConfigError.messages errors

end

/-! ## Integers -/

/-- Why a text is not an integer of a given size. -/
inductive IntegerError where
  | empty
  | invalidDigit
  | tooLarge
  | tooSmall
deriving DecidableEq, Repr

/-- The text of the reason. -/
def IntegerError.message : IntegerError → String
  | .empty => "cannot parse integer from empty string"
  | .invalidDigit => "invalid digit found in string"
  | .tooLarge => "number too large to fit in target type"
  | .tooSmall => "number too small to fit in target type"

end NamespaceLogging
