import NamespaceLogging.System.Routing

/-!
# Engines at work

An engine queues an object for each record it takes.  The calling thread then tries to hand the
queue over, as a batch; only one thread at a time can do that.  A batch that fails is counted, and
at the threshold the engine shuts itself down: it leaves its router, closes its sink, drops what is
queued and logs one last record.

## Main definitions

* `System.drain`: hands the queue over once.
* `System.tryDrain`, `System.flush`: drain once if nobody does, or until the queue is empty.
* `System.takeRecord`: an engine as a handler.
* `System.initEngine`, `System.stopEngine`: the beginning and the end of an engine.
-/

set_option autoImplicit false

namespace NamespaceLogging

namespace System

/-! ## Hooks -/

/-- Makes the moves of a script until one fails. -/
def runScript (calls : Reentry) (name : String) : List (Move Step) → Act (Except AspectError Unit)
  | [] => return .ok ()
  | .panic payload :: _ => throw (.panicked payload)
  | .fail error :: _ => return .error error
  | .take word step :: moves => do
    let answer ← calls.perform step
    note (.acted name word answer)
    runScript calls name moves

/-- What the init hook of an engine's sink does. -/
def runInit (calls : Reentry) (e : EngineId) : Act (Except AspectError Unit) := do
  let x ← engine e
  match x.sink with
  | .scripted behaviour =>
    updateEngine e fun x => { x with calls.init := x.calls.init + 1 }
    runScript calls behaviour.name (behaviour.onInit x.calls.init)
  | .stream sink =>
    let (result, sink, media) := sink.start (← get).media
    setMedia media
    updateEngine e (Engine.withStream sink)
    return result

/-- What an engine's sink does with a batch. -/
def runBatch (calls : Reentry) (e : EngineId) (batch : List String) :
    Act (Except AspectError Unit) := do
  let x ← engine e
  match x.sink with
  | .scripted behaviour =>
    updateEngine e fun x => { x with calls.batch := x.calls.batch + 1 }
    runScript calls behaviour.name (behaviour.onBatch x.calls.batch batch)
  | .stream sink =>
    let (result, sink, media) := sink.process batch (← get).media
    setMedia media
    updateEngine e (Engine.withStream sink)
    return result

/-- What the shutdown hook of an engine's sink does. -/
def runShutdown (calls : Reentry) (e : EngineId) : Act Unit := do
  let x ← engine e
  match x.sink with
  | .scripted behaviour =>
    updateEngine e fun x => { x with calls.shutdown := x.calls.shutdown + 1 }
    let _ ← runScript calls behaviour.name (behaviour.onShutdown x.calls.shutdown)
  | .stream sink =>
    let (sink, media) := sink.stop (← get).media
    setMedia media
    updateEngine e (Engine.withStream sink)

/-- The object that an engine's sink makes of a record. -/
def runRecord (calls : Reentry) (e : EngineId) (id : RecordId) : Act (Option String) := do
  let x ← engine e
  let r ← record id
  match x.sink with
  | .scripted behaviour =>
    if r.level < behaviour.least then return none
    let r ← renderMessage id
    updateEngine e fun x => { x with calls.record := x.calls.record + 1 }
    let _ ← runScript calls behaviour.name (behaviour.onRecord x.calls.record r.message)
    return behaviour.object? x.calls.record r.message
  | .stream sink =>
    match ← Act.orPanic (sink.line? r) with
    | none => return none
    | some (line, r) =>
      updateRecord id fun _ => r
      return some line

/-! ## The end of an engine -/

/-- Closes the engine: nothing is handed over any more, and the shutdown hook runs. -/
def close (calls : Reentry) (e : EngineId) : Act Unit := do
  updateEngine e Engine.close
  note (.hook e .shutdown)
  match ← Act.contain (runShutdown calls e) with
  | .ok () => note (.closed e)
  | .error payload =>
    note (.crashed e)
    throw (.panicked payload)

/-- Shuts an active engine down: it leaves its router.  The result says whether it was active. -/
def deactivate (e : EngineId) (why : Ending) : Act Bool := do
  let x ← engine e
  if x.starting then throw .stuck
  if x.state != .active then return false
  let s ← get
  updateEngine e Engine.deactivate
  note (.deactivated e why)
  match x.router, x.slot with
  | some r, some id => if s.isAlive r then detach r id
  | _, _ => pure ()
  return true

/-- Drops what is queued. -/
def discardQueue (e : EngineId) : Act Unit := do
  let x ← engine e
  updateEngine e Engine.takeAll
  note (.discarded e x.queue)

/-- The last record of an engine that shut itself down.  Its call stands in the engine's own code, at a
source position that the build fills in; here that is left unknown. -/
def lastRecord (name : String) (errors : Nat) (error : AspectError) : LogCall where
  level := .fatal
  site := { CallSite.unknown with namespaceName := "logroute::aspect" }
  template := "aspect %s shut down after %d errors processing log objects"
  args := [.text name, .uint (UInt64.ofNat errors)]
  cause := some ((Cause.ofMessage error.message).withTypeName "AspectError")

/-- Does the act with the router, if there is one; meanwhile the router stays alive. -/
def withRouter (r : Option RouterId) (act : Act Unit) : Act Unit :=
  match r with
  | some r => keeping r act
  | none => act

/-- Shuts an engine down that failed too often, and says so through a router. -/
def retire (calls : Reentry) (e : EngineId) (through : Option RouterId) (name : String)
    (errors : Nat) (error : AspectError) : Act Unit := do
  if ← deactivate e .failing then
    close calls e
    discardQueue e
    note (.disabled e errors error)
    match through with
    | some r => log calls r (lastRecord name errors error)
    | none => pure ()

/-- Shuts an engine down that failed too often; its router stays alive meanwhile. -/
def disable (calls : Reentry) (e : EngineId) (errors : Nat) (error : AspectError) : Act Unit := do
  let x ← engine e
  let s ← get
  let r := x.router.filter s.isAlive
  withRouter r (retire calls e r x.sink.name errors error)

/-- Counts a failed batch. -/
def countFailure (calls : Reentry) (e : EngineId) (error : AspectError) : Act Unit := do
  updateEngine e Engine.countFailure
  note (.batchOver e (some error))
  let x ← engine e
  if x.threshold ≤ x.errors && x.state == .active then disable calls e x.errors error

/-! ## Draining -/

/-- Why a batch failed, if it did: the hook said so, or it panicked. -/
def failure? : Except Payload (Except AspectError Unit) → Option AspectError
  | .ok (.ok ()) => none
  | .ok (.error error) => some error
  | .error payload => some (.processing payload.message)

/-- What follows the call with a batch. -/
def endBatch (calls : Reentry) (e : EngineId) : Option AspectError → Act Unit
  | none => note (.batchOver e none)
  | some error => countFailure calls e error

/-- Hands the queue over as a batch, or drops it if the engine is closed.  The result is the number
of objects that were taken. -/
def drain (calls : Reentry) (e : EngineId) : Act Nat := do
  let x ← engine e
  if x.closed then
    discardQueue e
    return x.queue.length
  else if x.queue.isEmpty then return 0
  else
    updateEngine e Engine.takeAll
    note (.hook e (.batch x.queue))
    endBatch calls e (failure? (← Act.contain (runBatch calls e x.queue)))
    return x.queue.length

/-- Drains until nothing is left, or the rounds are used up. -/
def drainAll (calls : Reentry) (e : EngineId) : Nat → Act Unit
  | 0 => throw .exhausted
  | rounds + 1 => do
    if (← drain calls e) = 0 then return
    drainAll calls e rounds

/-- Does the act as the thread that drains. -/
def asDrainer {α : Type} (e : EngineId) (act : Act α) : Act α := do
  let s ← get
  updateEngine e (Engine.beginDrain s.thread.id)
  act.after fun s => { s with engines := s.engines.modify e Engine.endDrain }

/-- Does the act as the thread that drains.  If this thread does so already, it does the other act;
if another thread does, it waits for ever, since that thread is waiting for this one. -/
def whenDraining (e : EngineId) (act already : Act Unit) : Act Unit := do
  match (← engine e).drainer with
  | none => asDrainer e act
  | some thread => if thread == (← get).thread.id then already else throw .stuck

/-- Drains once, unless somebody does.  The result says whether it did. -/
def tryDrain (calls : Reentry) (e : EngineId) : Act Bool := do
  match (← engine e).drainer with
  | some _ => return false
  | none =>
    let _ ← asDrainer e (drain calls e)
    return true

/-- Drains until the queue is empty.  Inside the engine's own drain it does nothing. -/
def flush (calls : Reentry) (e : EngineId) : Act Unit :=
  whenDraining e (drainAll calls e calls.rounds) (pure ())

/-- Queues the object of a record, and tries to drain. -/
def takeRecord (calls : Reentry) (e : EngineId) (id : RecordId) : Act Unit := do
  if (← engine e).state == .active then
    note (.hook e (.record id))
    match ← runRecord calls e id with
    | none => pure ()
    | some object =>
      updateEngine e (Engine.push object)
      note (.queued e object)
      let _ ← tryDrain calls e

/-! ## Beginning and end -/

/-- Calls the init hook of an engine's sink. -/
def startEngine (calls : Reentry) (e : EngineId) : Act (Except AspectError Unit) := do
  updateEngine e Engine.beginInit
  note (.hook e .init)
  (runInit calls e).after fun s => { s with engines := s.engines.modify e Engine.endInit }

/-- Attaches an engine to a router, in a new slot among its default handlers. -/
def attachEngine (e : EngineId) (r : RouterId) : Act Unit := do
  let id ← addDefault r (.engine e)
  updateRouter r fun x => { x with aspects := x.aspects ++ [(id, e)] }
  updateEngine e (Engine.attach r id)
  note (.activated e r id)

/-- Starts an engine and attaches it to a router.  An active engine stays as it is; one that was
shut down cannot be started again. -/
def initEngine (calls : Reentry) (e : EngineId) (r : RouterId) : Act (Except AspectError Unit) := do
  let x ← engine e
  if x.starting then throw .stuck
  match x.state with
  | .active => return .ok ()
  | .shutDown => return .error .shutDown
  | .uninitialized =>
    match ← startEngine calls e with
    | .error error => return .error error
    | .ok () =>
      attachEngine e r
      return .ok ()

/-- Shuts an engine down: it leaves its router, hands over what is queued, and closes.  Inside the
engine's own drain it does not hand anything over. -/
def stopEngine (calls : Reentry) (e : EngineId) : Act Unit := do
  if ← deactivate e .asked then
    whenDraining e (do drainAll calls e calls.rounds; close calls e) (close calls e)

end System

end NamespaceLogging
