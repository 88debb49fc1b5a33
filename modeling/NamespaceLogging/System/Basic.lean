import NamespaceLogging.Routing.SerialLocks
import NamespaceLogging.Script.Answer
import NamespaceLogging.Sink.Engine

/-!
# The logging system

The state of a whole logging system: every object that was ever made, the threads and locks, what
was written, and a journal of what happened.  Objects of a kind are numbered in the order of their
making and never go; a router that nobody can reach any more is said to be gone.

## Main definitions

* `Handler`, `HandlerRef`, `Slot`, `Router`: the objects, beside those of earlier modules.
* `Entry`, `Moment`: an entry of the journal, and the assembly at the time it was made.
* `Names`: the names under which steps know the objects.
* `Assembly`: the objects that records pass on their way, and who can reach them.
* `Assembly.isAlive`: whether somebody can still reach a router.
* `System`: the state.
* `System.history`, `System.historySince`: what happened, in order.

## Implementation notes

The journal is the history by which the rules of the system are stated.  No handler, engine or
router reads it; only reports are made from it.  What grows with every log call, such as the
journal, is kept with the latest entry first or in an array, so that a call takes the same time
however much was logged before.
-/

set_option autoImplicit false

namespace NamespaceLogging

abbrev RecordId := Nat

abbrev HandlerId := Nat

abbrev EngineId := Nat

abbrev GroupId := Nat

abbrev StreamId := Nat

/-! ## Objects -/

/-- A handler that is no engine. -/
inductive Handler where
  /-- Keeps every record, the latest one first. -/
  | memory (records : List RecordId)
  /-- Writes the line of every record to the standard error stream at once. -/
  | stderr (layout : Layout)
  /-- Passes the records of some levels on to a group. -/
  | gate (filter : LevelSet) (next : GroupId)
  /-- Runs its scripts; the numbers count their earlier runs. -/
  | scripted (behaviour : HandlerBehaviour Step) (calls deaths : Nat)

/-- The instance of a handler.  Engines are handlers too. -/
inductive HandlerRef where
  | plain (id : HandlerId)
  | engine (id : EngineId)
deriving DecidableEq, Repr

/-- One use of a handler, with the lock that serializes its calls. -/
structure Slot where
  handler : HandlerRef
  lock : LockId
deriving DecidableEq, Repr

/-- A router. -/
structure Router where
  /-- The levels that are let through; none at all after the shutdown. -/
  filter : Option LevelSet
  /-- Whether records get a call stack. -/
  capture : Bool
  shutDown : Bool
  registry : Registry
  /-- The locks of the handlers in the router's slots. -/
  locks : SerialLocks HandlerRef
  /-- The group of the default handlers. -/
  defaults : GroupId
  /-- The attached engines with their slots. -/
  aspects : List (SlotId × EngineId)
deriving DecidableEq, Repr

/-- Where a record goes, once its route is known. -/
inductive Destination where
  | slot (id : SlotId)
  | group (id : GroupId)
deriving DecidableEq, Repr

/-- A thread. -/
structure Thread where
  id : ThreadId
  name : Option String
deriving DecidableEq, Repr

/-- What is wrong with the name of a thread; a name must not have a zero in it. -/
def Thread.nameFault? (name : String) : Option String :=
  if name.toList.contains '\x00' then
    let bytes := name.toUTF8.toList
    some ("thread name may not contain interior null bytes: NulError(" ++
      toString (bytes.idxOf 0) ++ ", [" ++ ", ".intercalate (bytes.map toString) ++ "])")
  else none

/-- The thread in a log line: its name, or its number if it has none. -/
def Thread.display (t : Thread) : String := t.name.getD ("ThreadId(" ++ toString t.id ++ ")")

/-! ## The journal -/

/-- A call of one of a sink's hooks. -/
inductive Hook where
  | init
  /-- The hook that makes an object of a record. -/
  | record (id : RecordId)
  /-- The hook that is handed a batch. -/
  | batch (objects : List String)
  | shutdown
deriving DecidableEq, Repr

/-- Something that happened. -/
inductive Entry where
  /-- A slot began to pass a record to its handler. -/
  | delivered (slot : SlotId) (record : RecordId)
  /-- A slot began to tell its handler that the end is near. -/
  | dying (slot : SlotId)
  /-- A scripted handler was called with a record. -/
  | handled (name : String) (level : Level) (message ns : String) (cause : Option String)
  /-- A scripted handler was told that the end is near. -/
  | died (name : String)
  /-- A hook of an engine's sink was called. -/
  | hook (engine : EngineId) (hook : Hook)
  /-- The call with the last batch is over; if it failed, that has been counted. -/
  | batchOver (engine : EngineId) (error : Option AspectError)
  /-- The call of the shutdown hook has returned. -/
  | closed (engine : EngineId)
  /-- The call of the shutdown hook has ended with a panic. -/
  | crashed (engine : EngineId)
  /-- An engine, started without a failure, takes records from a router through a slot. -/
  | activated (engine : EngineId) (router : RouterId) (slot : SlotId)
  /-- An engine takes no more records. -/
  | deactivated (engine : EngineId) (why : Ending)
  /-- An engine that failed too often is about to log its last record. -/
  | disabled (engine : EngineId) (errors : Nat) (error : AspectError)
  /-- An object joined an engine's queue. -/
  | queued (engine : EngineId) (object : String)
  /-- Objects left an engine's queue without being handed over. -/
  | discarded (engine : EngineId) (objects : List String)
  /-- A router let a log call through. -/
  | logged (router : RouterId) (call : LogCall)
  /-- Slots were taken out of a group by hand. -/
  | withdrawn (slots : List SlotId)
  /-- A router that is shut down let its default handlers go. -/
  | cleared (router : RouterId) (slots : List SlotId)
  /-- A script took a step and got an answer. -/
  | acted (name word : String) (answer : Answer)
  /-- Several threads begin to log at once; the order of the entries up to the end means nothing. -/
  | parallelBegins
  /-- Several threads have logged at once. -/
  | parallelEnds

/-! ## The state -/

/-- The names under which steps know the objects. -/
structure Names where
  routers : List (String × RouterId) := []
  handlers : List (String × HandlerRef) := []
  engines : List (String × EngineId) := []
  records : List (String × RecordId) := []
  groups : List (String × GroupId) := []
  streams : List (String × StreamId) := []
  routes : List (String × Destination) := []

/-- A list of names with one of them given to another object. -/
def Names.bind {α : Type} (name : String) (object : α) (names : List (String × α)) :
    List (String × α) :=
  names.filter (fun entry => entry.1 != name) ++ [(name, object)]

/-- The objects that records pass on their way, and who can reach them. -/
structure Assembly where
  engines : List Engine := []
  /-- The slots; they are numbered from one. -/
  slots : List Slot := []
  groups : List (List SlotId) := []
  routers : List Router := []
  /-- The router of the whole program. -/
  global : Option RouterId := none
  /-- The routers that running calls hold on to. -/
  inUse : List RouterId := []
  names : Names := {}

namespace Assembly

/-- The slot with a number. -/
def slot? (a : Assembly) : SlotId → Option Slot
  | 0 => none
  | n + 1 => a.slots[n]?

/-- Whether somebody can still reach a router: by name, as the global router, or from a running
call. -/
def isAlive (a : Assembly) (r : RouterId) : Bool :=
  a.names.routers.any (fun entry => entry.2 == r) || a.global == some r || a.inUse.contains r

/-- Whether a lock is still in some slot. -/
def lockAlive (a : Assembly) (lock : LockId) : Bool := a.slots.any fun slot => slot.lock == lock

end Assembly

/-- An entry of the journal, and the assembly at the time it was made. -/
structure Moment where
  entry : Entry
  assembly : Assembly

/-- The state of a logging system. -/
structure System extends Assembly where
  records : Array Record := #[]
  handlers : List Handler := []
  streams : List StreamSink := []
  media : Media := .empty
  /-- The locks of handlers in shared slots that no router made. -/
  locks : SerialLocks HandlerRef := .empty
  /-- The number of locks made so far. -/
  lockCount : Nat := 0
  /-- The locks that are held. -/
  held : List LockId := []
  /-- The namespace of the logging machinery, whose frames are trimmed from captured stacks. -/
  machinery : String
  /-- The number of frames of the machinery, found on the first captured stack. -/
  overhead : Option Nat := none
  /-- The stack that a capture sees. -/
  callStack : List Frame
  /-- The time at which records are made. -/
  clock : Instant
  /-- The running thread. -/
  thread : Thread := ⟨1, some "main"⟩
  threadCount : Nat := 1
  /-- What happened, the latest entry first. -/
  journal : List Moment := []

namespace System

/-- The state with one more entry in the journal. -/
def noted (s : System) (entry : Entry) : System :=
  { s with journal := ⟨entry, s.toAssembly⟩ :: s.journal }

/-- The moments at which something happened, in order. -/
def moments (s : System) : List Moment := s.journal.reverse

/-- What happened, in order. -/
def history (s : System) : List Entry := s.moments.map Moment.entry

/-- What happened since an earlier state, in order. -/
def historySince (before now : System) : List Entry :=
  (now.journal.take (now.journal.length - before.journal.length)).reverse.map Moment.entry

end System

end NamespaceLogging
