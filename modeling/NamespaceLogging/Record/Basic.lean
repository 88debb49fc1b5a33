import NamespaceLogging.Level
import NamespaceLogging.Record.Cause
import NamespaceLogging.Record.Template
import NamespaceLogging.Record.TimeFormat

/-!
# Records

A record is the snapshot of an accepted log call.  Its message is rendered when it is first asked
for and kept from then on.

## Main definitions

* `CallSite`: where a call stands in the program; its namespace is the routing key.
* `Record`: the snapshot.
* `Record.message`, `Record.rendered`: the message, and the record that has rendered it.
* `Record.render`: the record that has rendered its message, if the message can be written.
* `Record.className`, `Record.method`, `Record.fileName`, `Record.line`: the position of the call,
  from the stack if there is one, else from the call site.
-/

set_option autoImplicit false

namespace NamespaceLogging

/-- Where a log call stands in the program. -/
structure CallSite where
  namespaceName : String
  file : String
  line : Nat
deriving DecidableEq, Repr

/-- The call site of a record that was not made by a log call. -/
def CallSite.unknown : CallSite := ⟨"", "<unknown>", 0⟩

/-- The snapshot of a log call. -/
structure Record where
  level : Level
  template : String
  args : List Argument
  cause : Option Cause
  /-- The message, once it has been rendered. -/
  cached : Option String
  time : Instant
  /-- The name of the logging thread, or its number if it has no name. -/
  thread : String
  site : CallSite
  /-- The call stack, with the call itself first. -/
  stack : List Frame

namespace Record

/-- A record without arguments, cause, call site and stack. -/
def make (level : Level) (template : String) (time : Instant) (thread : String) : Record where
  level := level
  template := template
  args := []
  cause := none
  cached := none
  time := time
  thread := thread
  site := .unknown
  stack := []

/-! ## The message -/

/-- The message. -/
def message (r : Record) : String := r.cached.getD (Template.render r.template r.args)

/-- What keeps the message from being rendered.  A message that was rendered before is there. -/
def fault? (r : Record) : Option RenderFault :=
  if r.cached.isSome then none else Template.fault? (Template.pieces r.template.toList) r.args

/-- Whether the message has been rendered. -/
def isRendered (r : Record) : Bool := r.cached.isSome

/-- The record after its message was asked for. -/
def rendered (r : Record) : Record := { r with cached := some r.message }

/-- Asks for the message: the record that has rendered it, or what keeps it from being rendered. -/
def render (r : Record) : Except RenderFault Record :=
  match r.fault? with
  | some fault => .error fault
  | none => .ok r.rendered

/-- The record with other arguments; a message rendered before is forgotten. -/
def withArgs (args : List Argument) (r : Record) : Record := { r with args := args, cached := none }

/-- The record with another cause. -/
def withCause (cause : Option Cause) (r : Record) : Record := { r with cause := cause }

/-- The record with another call site. -/
def withSite (site : CallSite) (r : Record) : Record := { r with site := site }

/-- The record with another stack. -/
def withStack (stack : List Frame) (r : Record) : Record := { r with stack := stack }

/-- Level and message. -/
def display (r : Record) : String := r.level.name ++ " " ++ r.message

/-! ## The position of the call -/

/-- The routing key. -/
def namespaceName (r : Record) : String := r.site.namespaceName

/-- The frame of the call. -/
def location (r : Record) : Option Frame := r.stack.head?

/-- The namespace of the call without its last segment. -/
def package (r : Record) : String :=
  match r.location with
  | some frame => frame.package
  | none => String.ofList (Path.splitLast r.site.namespaceName.toList).1

/-- The type or module of the call. -/
def className (r : Record) : String :=
  match r.location with
  | some frame => frame.className
  | none => String.ofList (Path.splitLast r.site.namespaceName.toList).2

/-- The calling function; a question mark without a stack. -/
def method (r : Record) : String :=
  match r.location with
  | some frame => frame.function
  | none => "?"

/-- The last component of the source file. -/
def fileName (r : Record) : String :=
  (r.location.bind Frame.fileName).getD (String.ofList (Path.fileName r.site.file.toList))

/-- The source line. -/
def line (r : Record) : Nat := (r.location.bind Frame.line).getD r.site.line

end Record

end NamespaceLogging
