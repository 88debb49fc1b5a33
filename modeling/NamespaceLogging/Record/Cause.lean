import NamespaceLogging.Record.Backtrace
import NamespaceLogging.Text.Alphanumeric

/-!
# Causes

The cause of a log call is a snapshot of an error: its message, possibly its type and a stack, and
the cause behind it.

## Main definitions

* `CauseLink` and `Cause`: one error and the chain of errors.
* `Cause.causedBy`: the chain with another one at its end.
* `Cause.render`: the chain as it is written in a log line.
* `ErrorReport` and `Cause.ofReport`: an error as it shows itself, and its snapshot.
-/

set_option autoImplicit false

namespace NamespaceLogging

open Text

/-- One error of a chain. -/
structure CauseLink where
  typeName : Option String
  message : String
  frames : List Frame
deriving DecidableEq, Repr

/-- The message, behind the type if that is known. -/
def CauseLink.display (link : CauseLink) : String :=
  match link.typeName with
  | some name => name ++ ": " ++ link.message
  | none => link.message

/-- The lines of one error: its header, at most `cap` frames, and how many more there are. -/
def CauseLink.render (cap : Nat) (link : CauseLink) : String :=
  "\nCaused by: " ++ link.display ++
    String.join ((link.frames.take cap).map fun f => "\n\tat " ++ f.display) ++
    (if cap < link.frames.length then
      "\n\t... " ++ toString (link.frames.length - cap) ++ " more"
    else "")

/-- An error and the error that caused it, if any. -/
inductive Cause where
  /-- An error without a known cause. -/
  | root (link : CauseLink)
  /-- An error and the one behind it. -/
  | dueTo (link : CauseLink) (source : Cause)
deriving DecidableEq, Repr

namespace Cause

/-- A cause with a message only. -/
def ofMessage (message : String) : Cause := .root { typeName := none, message, frames := [] }

/-- The first error. -/
def head : Cause → CauseLink
  | .root link => link
  | .dueTo link _ => link

/-- The chain with its first error changed. -/
def mapHead (f : CauseLink → CauseLink) : Cause → Cause
  | .root link => .root (f link)
  | .dueTo link source => .dueTo (f link) source

/-- The cause with another type name on its first error. -/
def withTypeName (name : String) (c : Cause) : Cause :=
  c.mapHead fun link => { link with typeName := some name }

/-- The cause with other frames on its first error. -/
def withFrames (frames : List Frame) (c : Cause) : Cause :=
  c.mapHead fun link => { link with frames := frames }

/-- The chain with `source` at its end. -/
def causedBy (c source : Cause) : Cause :=
  match c with
  | .root link => .dueTo link source
  | .dueTo link rest => .dueTo link (rest.causedBy source)

/-- The errors of the chain, first one first. -/
def chain : Cause → List CauseLink
  | .root link => [link]
  | .dueTo link source => link :: source.chain

/-- The text of the first error. -/
def display (c : Cause) : String := c.head.display

/-- The whole chain; the cap on frames holds for each error alone. -/
def render (cap : Nat) (c : Cause) : String := String.join (c.chain.map (CauseLink.render cap))

/-- The frames listed for each error unless a layout says otherwise. -/
def defaultFrameCap : Nat := 50

/-- A cause with the stack of its making; the frames of the snapshot itself, in the namespace
`own`, are left out. -/
def capture (message : String) (stack : List Frame) (own : String) : Cause :=
  let frames :=
    if stack.any fun f => f.isIn own then stack.drop (Backtrace.overhead stack own) else stack
  (ofMessage message).withFrames frames

end Cause

/-! ## Snapshots of errors -/

/-- An error as it shows itself: its message, its form for diagnostics, and its source. -/
inductive ErrorReport where
  | root (message debugText : String)
  | dueTo (message debugText : String) (source : ErrorReport)
deriving DecidableEq, Repr

namespace Cause

/-- The type that the diagnostic form of an error seems to begin with. -/
def leadingTypeName (debugText : String) : String :=
  match debugText.toList.takeWhile fun c => isAlphanumeric c || c == '_' with
  | [] => "Error"
  | c :: name => if c.isLower then "Error" else String.ofList (c :: name)

/-- The link for an error known only by how it shows itself. -/
def reportLink (message debugText : String) : CauseLink where
  typeName := some (leadingTypeName debugText)
  message := message
  frames := []

/-- The snapshot of an error and of all its sources. -/
def ofReport : ErrorReport → Cause
  | .root message debugText => .root (reportLink message debugText)
  | .dueTo message debugText source => .dueTo (reportLink message debugText) (ofReport source)

/-- The last segment of a type's full name, without its arguments. -/
def shortTypeName (full : String) : String :=
  String.ofList (Path.splitLast (full.toList.takeWhile (· != '<'))).2

/-- The snapshot of an error whose type has the given full name. -/
def ofError (typeName : String) (report : ErrorReport) : Cause :=
  (ofReport report).withTypeName (shortTypeName typeName)

end Cause

end NamespaceLogging
