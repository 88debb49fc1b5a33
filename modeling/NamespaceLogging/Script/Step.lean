import NamespaceLogging.Config.Settings
import NamespaceLogging.Routing.Registry
import NamespaceLogging.Script.Behaviour

/-!
# Steps

The things that a program can do with the logging system, with all objects known by name.  A program
is a list of steps, and so is what a handler or a sink does when it is called.

## Main definitions

* `LogCall`: a log call.
* `RecordArgument`: a record that is known by name, or made for the step.
* `RouterStep`, `HandlerStep`, `GroupStep`, `EngineStep`, `StreamStep`, `FileStep`, `GlobalStep`:
  the steps by what they are about.
* `Step`: all steps.
-/

set_option autoImplicit false

namespace NamespaceLogging

/-- A log call. -/
structure LogCall where
  level : Level
  site : CallSite
  template : String
  args : List Argument
  cause : Option Cause

/-- A record that is made by hand. -/
structure RecordContent extends LogCall where
  stack : List Frame

/-- The record that a step is about. -/
inductive RecordArgument where
  | named (name : String)
  | content (content : RecordContent)

/-- What the control of an attached sink is asked to do. -/
inductive ControlAction where
  | flush
  | shutdown
deriving DecidableEq, Repr

/-- What can be done with a router. -/
inductive RouterStep where
  | log (call : LogCall)
  /-- Routes a record, whatever its level. -/
  | dispatch (record : RecordArgument)
  /-- A log call that evaluates its arguments only if its level is enabled. -/
  | logLazily (call : LogCall)
  | isEnabled (level : Level)
  | filter
  | setFilter (filter : Except ConfigError LevelSet)
  | setCapture (on : Bool)
  | register (ns handler : String)
  | unregister (ns : String)
  | addDefault (handler : String)
  | removeDefault (slot : SlotId)
  /-- Finds the route of a namespace, which may be kept under a name. -/
  | resolve (ns : String) (keep : Option String)
  | registrations
  | cached
  | clearRegistry
  | aspects
  | control (index : Nat) (action : ControlAction)
  | shutdown
  | isShutDown
  /-- Makes the router the global one. -/
  | install

/-- What can be done with a handler. -/
inductive HandlerStep where
  | drain
  | size
  | records
  | stacks
  | handle (record : RecordArgument)
  | die
  | serializes

/-- What can be done with a slot. -/
inductive SlotStep where
  | invoke (record : RecordArgument)
  | die
  | holds (handler : String)

/-- What can be done with a group of handlers. -/
inductive GroupStep where
  /-- Adds a handler in a new slot, with a lock of the slot's own or the lock of the instance. -/
  | add (handler : String) (shared : Bool)
  | remove (slot : SlotId)
  | dispatch (record : RecordArgument)
  | clear
  | members

/-- What can be done with an engine. -/
inductive EngineStep where
  | init (router : String)
  | stop
  | flush
  | tryDrain
  | report
  | debugText

/-- What can be done with a stream sink that stands alone. -/
inductive StreamStep where
  | make (target : Target) (layout : Except ConfigError Layout)
      (filter : Except ConfigError LevelSet)
  | start
  | process (batch : List String)
  | line (record : RecordArgument)
  | stop
  | info

/-- What can be done with files. -/
inductive FileStep where
  | read (path : String)
  | write (path text : String)
  | load (path : String)

/-- What can be done with the global router. -/
inductive GlobalStep where
  | current
  /-- The global router, if it takes the level. -/
  | ifEnabled (level : Level)
  | take
  | shutdown
  /-- A log call through the global router that evaluates its arguments only if it has to. -/
  | logLazily (call : LogCall)

/-- A handler that is to be made. -/
inductive HandlerPlan (σ : Type) where
  | memory
  | stderr (layout : Except ConfigError Layout)
  | scripted (behaviour : HandlerBehaviour σ)
  /-- A gate before a named group, or before the default handlers of a router. -/
  | gate (filter : Except ConfigError LevelSet) (group : Option String) (router : String)

/-- The sink of an engine that is to be made. -/
inductive SinkPlan (σ : Type) where
  | scripted (behaviour : SinkBehaviour σ)
  | stream (target : Target) (layout : Except ConfigError Layout)
      (filter : Except ConfigError LevelSet)

/-- Something that a program does with the logging system. -/
inductive Step where
  | makeRouter (name : String) (filter : Except ConfigError LevelSet)
  | configure (name : String) (config : Except ConfigError Configuration)
  | dropRouter (name : String)
  | onRouter (router : String) (step : RouterStep)
  | dispatchRoute (route : String) (record : RecordArgument)
  | makeHandler (name : String) (plan : HandlerPlan Step)
  | onHandler (handler : String) (step : HandlerStep)
  | makeRecord (name : String) (content : RecordContent)
  | isRendered (record : RecordArgument)
  | onSlot (slot : SlotId) (step : SlotStep)
  | makeGroup (name : String)
  /-- A step on a named group, or on the default handlers of a router. -/
  | onGroup (group : Option String) (router : String) (step : GroupStep)
  | makeEngine (name : String) (threshold : Nat) (plan : SinkPlan Step)
  | onEngine (engine : String) (step : EngineStep)
  | onStream (stream : String) (step : StreamStep)
  | onFile (step : FileStep)
  | onGlobal (step : GlobalStep)
  /-- Takes steps on a new thread, which may have a name, and waits for it. -/
  | thread (name : Option String) (steps : List Step)
  /-- On one thread for each namespace, logs a number of records; then flushes every engine. -/
  | parallel (router : String) (namespaces : List String) (each : Nat)

end NamespaceLogging
