import NamespaceLogging.Level

/-!
# Behaviours

Handlers and sinks are supplied from outside.  What such an object does when it is called is a
script: a list of moves, which may differ from call to call.  A move panics, gives up with an error,
or takes a step that uses the logging system again.

## Main definitions

* `Payload`: what a panic carries.
* `Move`: what a script is made of.
* `HandlerBehaviour`, `SinkBehaviour`: a handler and a sink, by the scripts of their calls.

## Implementation notes

The type of the steps is a parameter, since a step may itself bring in new objects.
-/

set_option autoImplicit false

namespace NamespaceLogging

/-- What a panic carries. -/
inductive Payload where
  | text (s : String)
  /-- Something that is not a text. -/
  | other
deriving DecidableEq, Repr

/-- A panic in words. -/
def Payload.message : Payload → String
  | text s => "panicked: " ++ s
  | other => "panicked"

/-- One move of a script. -/
inductive Move (σ : Type) where
  | panic (payload : Payload)
  /-- Gives up; what remains of the script is left out. -/
  | fail (error : AspectError)
  /-- Takes a step, which is known under a word. -/
  | take (word : String) (step : σ)

/-- A handler, by what it does.  Each script is given the number of earlier calls. -/
structure HandlerBehaviour (σ : Type) where
  name : String
  /-- Whether calls with a record have to be serialized. -/
  serialized : Bool
  /-- What is done with a record that has the given message. -/
  onRecord : Nat → String → List (Move σ)
  /-- What is done when the program is about to end. -/
  onDie : Nat → List (Move σ)

/-- A sink, by what it does.  Each script is given the number of earlier calls of the same hook. -/
structure SinkBehaviour (σ : Type) where
  name : String
  /-- Records below this level are dropped unread. -/
  least : Level
  onInit : Nat → List (Move σ)
  /-- What is done with a record that has the given message. -/
  onRecord : Nat → String → List (Move σ)
  /-- The object that is queued for a message, unless it is dropped. -/
  object? : Nat → String → Option String
  onBatch : Nat → List String → List (Move σ)
  onShutdown : Nat → List (Move σ)

end NamespaceLogging
