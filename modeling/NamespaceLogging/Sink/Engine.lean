import NamespaceLogging.Script.Step
import NamespaceLogging.Sink.Status
import NamespaceLogging.Sink.Stream

/-!
# Engines

An engine stands between the log calls and a sink that works in batches.  It queues an object for
each record, hands the queue over in batches and counts the batches that fail.

## Main definitions

* `Sink`: a sink, given by its behaviour or built in.
* `Engine`: the queue, the counters and the state around a sink.
* `Engine.push`, `Engine.takeAll`, `Engine.countFailure`, `Engine.attach`, `Engine.deactivate`,
  `Engine.close`: what happens to them, one change at a time.

## Implementation notes

The buffer that a batch is gathered in is no part of an engine.  Only the thread that drains fills it,
from the queue, and it is emptied as soon as the sink's hook is over, also when that panics.  Between
two drains it is therefore empty, and during one it holds the batch that the hook was given.

The threshold is a 32-bit number, and an engine carries the proof of it.  The counter of failed batches
needs no such bound: an active engine counts up to its threshold at most
(`Engine.Career.errors_lt_of_active`).
-/

set_option autoImplicit false

namespace NamespaceLogging

/-- The number of a thread. -/
abbrev ThreadId := Nat

/-- The number of a router. -/
abbrev RouterId := Nat

/-- A sink. -/
inductive Sink where
  | scripted (behaviour : SinkBehaviour Step)
  | stream (sink : StreamSink)

/-- The name of a sink. -/
def Sink.name : Sink → String
  | scripted behaviour => behaviour.name
  | stream sink => sink.name

/-- The sink for diagnostics. -/
def Sink.debugText : Sink → String
  | scripted behaviour => "ScriptAspect(" ++ behaviour.name ++ ")"
  | stream sink => sink.debugText

/-- How often each hook of a sink was called. -/
structure HookCalls where
  init : Nat := 0
  record : Nat := 0
  batch : Nat := 0
  shutdown : Nat := 0
deriving DecidableEq, Repr

/-- An engine. -/
structure Engine where
  sink : Sink
  /-- The number of failed batches at which the engine shuts itself down. -/
  threshold : Nat
  threshold_pos : 0 < threshold
  threshold_lt : threshold < UInt32.size
  state : EngineState
  /-- The objects that wait, the oldest one first. -/
  queue : List String
  /-- The thread that hands objects over at the moment. -/
  drainer : Option ThreadId
  /-- Whether the sink's shutdown hook has begun; from then on nothing is handed over. -/
  closed : Bool
  /-- The number of failed batches since the engine was started. -/
  errors : Nat
  /-- The router that the engine was attached to. -/
  router : Option RouterId
  /-- The engine's slot among the default handlers of that router. -/
  slot : Option SlotId
  /-- Whether the sink's init hook is running. -/
  starting : Bool
  calls : HookCalls

namespace Engine

/-- A new engine.  A threshold of zero counts as one. -/
def make (sink : Sink) (threshold : UInt32) : Engine where
  sink := sink
  threshold := max threshold.toNat 1
  threshold_pos := Nat.lt_of_lt_of_le Nat.one_pos (Nat.le_max_right ..)
  threshold_lt := Nat.max_lt.mpr ⟨threshold.toNat_lt, by decide⟩
  state := .uninitialized
  queue := []
  drainer := none
  closed := false
  errors := 0
  router := none
  slot := none
  starting := false
  calls := {}

/-! ## Changes -/

/-- An object joins the queue. -/
def push (object : String) (e : Engine) : Engine := { e with queue := e.queue ++ [object] }

/-- The whole queue is taken. -/
def takeAll (e : Engine) : Engine := { e with queue := [] }

/-- One more batch has failed. -/
def countFailure (e : Engine) : Engine := { e with errors := e.errors + 1 }

/-- The init hook is about to run. -/
def beginInit (e : Engine) : Engine := { e with errors := 0, starting := true }

/-- The init hook has ended. -/
def endInit (e : Engine) : Engine := { e with starting := false }

/-- The engine takes records from a router from now on. -/
def attach (router : RouterId) (slot : SlotId) (e : Engine) : Engine :=
  { e with router := some router, slot := some slot, state := .active }

/-- The engine takes no more records. -/
def deactivate (e : Engine) : Engine := { e with state := .shutDown, slot := none }

/-- Nothing is handed over from now on. -/
def close (e : Engine) : Engine := { e with closed := true }

/-- A thread begins to hand objects over. -/
def beginDrain (thread : ThreadId) (e : Engine) : Engine := { e with drainer := some thread }

/-- Nobody hands objects over any more. -/
def endDrain (e : Engine) : Engine := { e with drainer := none }

/-- The sink has changed by its own work. -/
def withStream (sink : StreamSink) (e : Engine) : Engine := { e with sink := .stream sink }

/-! ## Views -/

/-- The engine's status. -/
def status (e : Engine) : EngineStatus := ⟨e.sink.name, e.state, e.errors⟩

/-- The engine's report. -/
def report (e : Engine) : EngineReport :=
  { e.status with pending := e.queue.length, threshold := e.threshold }

/-- The engine for diagnostics. -/
def debugText (e : Engine) : String :=
  "AspectEngine \x7b aspect: " ++ e.sink.debugText ++ ", state: " ++ e.state.debugText ++
    ", pending: " ++ toString e.queue.length ++ ", errors: " ++ toString e.errors ++
    ", threshold: " ++ toString e.threshold ++ " \x7d"

end Engine

end NamespaceLogging
