import NamespaceLogging.Config.Settings
import NamespaceLogging.Routing.Registry
import NamespaceLogging.Sink.Status

/-!
# Answers

What a step gives back to whoever takes it.

## Main definitions

* `Tally`: what one object received while several threads logged at once.
* `Answer`: the answer to a step.
-/

set_option autoImplicit false

namespace NamespaceLogging

/-- What one object received while several threads logged. -/
structure Tally where
  /-- The name of the object. -/
  name : String
  count : Nat
  /-- The number of records from each thread that sent any. -/
  perThread : List (Nat × Nat)
  /-- Whether the records of each thread came in the order in which they were sent. -/
  inOrder : Bool
  /-- The most threads that were ever inside the object, if its calls are serialized. -/
  maxInside : Option Nat
deriving DecidableEq, Repr

/-- The answer to a step. -/
inductive Answer where
  | nothing
  | done
  | flag (value : Bool)
  | count (n : Nat)
  | text (s : String)
  /-- The levels of a filter. -/
  | levels (set : LevelSet)
  | ids (list : List SlotId)
  /-- The members of a group. -/
  | members (list : List SlotId)
  | registrations (list : List (String × SlotId))
  | status (s : EngineStatus)
  | statuses (list : List EngineStatus)
  | report (r : EngineReport)
  /-- The number of records that a handler keeps. -/
  | size (n : Nat)
  /-- Kept records, each with whether its message had been rendered before. -/
  | records (list : List (Bool × Record))
  /-- Of kept records: whether the message had been rendered, the message, and whether there is a
  stack. -/
  | stacks (list : List (Bool × String × Bool))
  /-- A line, if there is one, and whether the message is rendered now. -/
  | line (line : Option String) (rendered : Bool)
  /-- A stream sink: its name, its target and its form for diagnostics. -/
  | stream (name : String) (target : Target) (debugText : String)
  | settings (s : Settings)
  /-- A problem with the configuration. -/
  | problem (error : ConfigError)
  /-- A failure of a sink. -/
  | fault (error : AspectError)
  | answers (list : List Answer)
  | tallies (list : List Tally)

namespace Answer

/-- The text, if there is one. -/
def text? : Option String → Answer
  | some s => text s
  | none => nothing

/-- The number, if there is one. -/
def count? : Option Nat → Answer
  | some n => count n
  | none => nothing

/-- Success, or the failure of a sink. -/
def doneOr : Except AspectError Unit → Answer
  | .ok () => done
  | .error e => fault e

/-- Success or the value of it, or a problem with the configuration. -/
def orProblem {α : Type} (f : α → Answer) : Except ConfigError α → Answer
  | .ok a => f a
  | .error e => problem e

end Answer

end NamespaceLogging
