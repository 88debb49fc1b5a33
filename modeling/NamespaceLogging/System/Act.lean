import NamespaceLogging.System.History

/-!
# Acts

An act changes the state of the system and gives a value, or stops.  What was changed before the
stop stays changed.

## Main definitions

* `Stop`: why an act does not come to its end.
* `Act`: an act.
* `Act.on`: what an act does in a state.
* `Act.contain`: turns a panic into a value.
* `Act.isOver`: whether an act came to its end, if only by a panic.
* `Act.after`: changes the state when an act is over.
* `Reentry`: the calls that scripts make back into the system.

## Implementation notes

Calls nest without a bound known in advance, and a queue may be refilled while it is emptied.
Operations are therefore given the calls that they may make back into the system, and
the number of rounds for their loops; only `Reentry` is built up by recursion.
-/

set_option autoImplicit false

namespace NamespaceLogging

/-- Why an act does not come to its end. -/
inductive Stop where
  | panicked (payload : Payload)
  /-- The act waits for something that cannot happen any more. -/
  | stuck
  /-- Calls nest deeper, or a loop runs longer, than was allowed. -/
  | exhausted
  /-- An object is missing. -/
  | missing (what : String)
deriving DecidableEq, Repr

/-- An act on a logging system. -/
abbrev Act (α : Type) := ExceptT Stop (StateM System) α

namespace Act

variable {α : Type}

/-- What an act gives in a state, and the state afterwards. -/
def on (act : Act α) (s : System) : Except Stop α × System := act.run.run s

/-- Does the act; a panic becomes a value. -/
def contain (act : Act α) : Act (Except Payload α) := ExceptT.mk do
  match ← act.run with
  | .ok a => return .ok (.ok a)
  | .error (.panicked payload) => return .ok (.error payload)
  | .error stop => return .error stop

/-- Whether an act came to its end, with a value or by a panic.  One that waits for ever, or was cut
off, did not. -/
def isOver : Except Stop α → Bool
  | .ok _ | .error (.panicked _) => true
  | .error _ => false

/-- Does the act, and changes the state when it is over. -/
def after (act : Act α) (change : System → System) : Act α := ExceptT.mk do
  let result ← act.run
  if isOver result then modify change
  return result

/-- The value, or a panic with the words of the fault. -/
def orPanic : Except RenderFault α → Act α
  | .ok a => pure a
  | .error fault => throw (.panicked (.text fault.text))

/-- The value, or a stop that says what is missing. -/
def require (what : String) : Option α → Act α
  | some a => pure a
  | none => throw (.missing what)

end Act

/-- The calls that operations may make back into the system. -/
structure Reentry where
  /-- The number of rounds of a loop. -/
  rounds : Nat
  /-- Calls a handler with a record. -/
  handle : HandlerRef → RecordId → Act Unit
  /-- Takes a step. -/
  perform : Step → Act Answer

/-- No calls at all. -/
def Reentry.none : Reentry where
  rounds := 0
  handle _ _ := throw .exhausted
  perform _ := throw .exhausted

namespace System

/-! ## Objects -/

/-- A record. -/
def record (id : RecordId) : Act Record := do Act.require "record" (← get).records[id]?

/-- A handler. -/
def handler (id : HandlerId) : Act Handler := do Act.require "handler" (← get).handlers[id]?

/-- An engine. -/
def engine (id : EngineId) : Act Engine := do Act.require "engine" (← get).engines[id]?

/-- A slot. -/
def slot (id : SlotId) : Act Slot := do Act.require "slot" ((← get).slot? id)

/-- The members of a group. -/
def group (id : GroupId) : Act (List SlotId) := do Act.require "group" (← get).groups[id]?

/-- A router. -/
def router (id : RouterId) : Act Router := do Act.require "router" (← get).routers[id]?

/-- A stream sink that stands alone. -/
def stream (id : StreamId) : Act StreamSink := do Act.require "stream" (← get).streams[id]?

/-- Changes a record. -/
def updateRecord (id : RecordId) (change : Record → Record) : Act Unit :=
  modify fun s => { s with records := s.records.modify id change }

/-- Renders the message of a record. -/
def renderMessage (id : RecordId) : Act Record := do
  let r ← Act.orPanic (← record id).render
  updateRecord id fun _ => r
  return r

/-- Changes a handler. -/
def updateHandler (id : HandlerId) (change : Handler → Handler) : Act Unit :=
  modify fun s => { s with handlers := s.handlers.modify id change }

/-- Changes an engine. -/
def updateEngine (id : EngineId) (change : Engine → Engine) : Act Unit :=
  modify fun s => { s with engines := s.engines.modify id change }

/-- Changes a group. -/
def updateGroup (id : GroupId) (change : List SlotId → List SlotId) : Act Unit :=
  modify fun s => { s with groups := s.groups.modify id change }

/-- Changes a router. -/
def updateRouter (id : RouterId) (change : Router → Router) : Act Unit :=
  modify fun s => { s with routers := s.routers.modify id change }

/-- Changes a stream sink that stands alone. -/
def updateStream (id : StreamId) (change : StreamSink → StreamSink) : Act Unit :=
  modify fun s => { s with streams := s.streams.modify id change }

/-- Changes what was written. -/
def setMedia (media : Media) : Act Unit := modify fun s => { s with media := media }

/-- Changes the names. -/
def updateNames (change : Names → Names) : Act Unit :=
  modify fun s => { s with names := change s.names }

/-- Writes an entry into the journal. -/
def note (entry : Entry) : Act Unit := modify fun s => s.noted entry

/-! ## New objects -/

/-- A new record. -/
def newRecord (r : Record) : Act RecordId :=
  modifyGet fun s => (s.records.size, { s with records := s.records.push r })

/-- A new handler. -/
def newHandler (h : Handler) : Act HandlerId :=
  modifyGet fun s => (s.handlers.length, { s with handlers := s.handlers ++ [h] })

/-- A new engine. -/
def newEngine (e : Engine) : Act EngineId :=
  modifyGet fun s => (s.engines.length, { s with engines := s.engines ++ [e] })

/-- A new group without members. -/
def newGroup : Act GroupId :=
  modifyGet fun s => (s.groups.length, { s with groups := s.groups ++ [[]] })

/-- A new stream sink. -/
def newStream (sink : StreamSink) : Act StreamId :=
  modifyGet fun s => (s.streams.length, { s with streams := s.streams ++ [sink] })

/-- A new slot, and its number. -/
def newSlot (slot : Slot) : Act SlotId :=
  modifyGet fun s => (s.slots.length + 1, { s with slots := s.slots ++ [slot] })

/-- A number for a new lock. -/
def newLock : Act LockId :=
  modifyGet fun s => (s.lockCount, { s with lockCount := s.lockCount + 1 })

/-- A new router with its group of default handlers. -/
def newRouter (filter : LevelSet) : Act RouterId := do
  let defaults ← newGroup
  modifyGet fun s =>
    (s.routers.length,
      { s with
        routers := s.routers ++
          [{ filter := some filter
             capture := false
             shutDown := false
             registry := .empty
             locks := .empty
             defaults := defaults
             aspects := [] }] })

/-! ## Locks, threads and routers in use -/

/-- Does the act while holding a lock.  Whoever waits for a lock that is held waits for ever. -/
def holding {α : Type} (lock : LockId) (act : Act α) : Act α := do
  if (← get).held.contains lock then throw .stuck
  modify fun s => { s with held := lock :: s.held }
  act.after fun s => { s with held := s.held.erase lock }

/-- Does the act while keeping a router alive. -/
def keeping {α : Type} (r : RouterId) (act : Act α) : Act α := do
  modify fun s => { s with inUse := r :: s.inUse }
  act.after fun s => { s with inUse := s.inUse.erase r }

/-- Does the act on a new thread, which may have a name. -/
def onThread {α : Type} (name : Option String) (act : Act α) : Act α := do
  if let some fault := name.bind Thread.nameFault? then throw (.panicked (.text fault))
  let before := (← get).thread
  modify fun s =>
    { s with thread := ⟨s.threadCount + 1, name⟩, threadCount := s.threadCount + 1 }
  act.after fun s => { s with thread := before }

end System

end NamespaceLogging
