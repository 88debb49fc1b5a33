import NamespaceLogging.Error

/-!
# The state of an engine

## Main definitions

* `EngineState`: the three states of an engine's life, which it passes in order.
* `Ending`: why an engine takes no more records.
* `EngineStatus`, `EngineReport`: what an engine tells about itself.
-/

set_option autoImplicit false

namespace NamespaceLogging

/-- Where an engine stands in its life. -/
inductive EngineState where
  | uninitialized
  | active
  | shutDown
deriving DecidableEq, Repr

namespace EngineState

/-- The state in words. -/
def text : EngineState → String
  | uninitialized => "uninitialized"
  | active => "active"
  | shutDown => "shut down"

/-- The number of states that come before. -/
def rank : EngineState → Nat
  | uninitialized => 0
  | active => 1
  | shutDown => 2

/-- The state in which an engine has ended is the last one: no other has the rank two or more. -/
theorem two_le_rank {state : EngineState} : 2 ≤ state.rank ↔ state = shutDown := by
  cases state <;> simp [rank]

/-- The state for diagnostics. -/
def debugText : EngineState → String
  | uninitialized => "Uninitialized"
  | active => "Active"
  | shutDown => "ShutDown"

end EngineState

/-- Why an engine takes no more records. -/
inductive Ending where
  /-- It was told to stop. -/
  | asked
  /-- Too many of its batches failed. -/
  | failing
deriving DecidableEq, Repr

/-- What a router can ask of an engine. -/
structure EngineStatus where
  name : String
  state : EngineState
  errors : Nat
deriving DecidableEq, Repr

/-- All that an engine tells about itself. -/
structure EngineReport extends EngineStatus where
  /-- The number of objects in the queue. -/
  pending : Nat
  threshold : Nat
deriving DecidableEq, Repr

end NamespaceLogging
