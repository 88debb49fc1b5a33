import NamespaceLogging.Config.Document
import NamespaceLogging.Session.Event
import NamespaceLogging.System.Lifecycle

/-!
# Taking steps

What each step does to the logging system, and its answer.

## Main definitions

* `System.perform`: takes a step.
* `Reentry.upTo`: the calls that operations may make back into the system, nested to some depth.
* `System.run`: takes a step, with a bound that no ordinary program comes near.

## Implementation notes

A step that names an object which does not exist stops with `Stop.missing`.
-/

set_option autoImplicit false

namespace NamespaceLogging

namespace System

/-! ## Names -/

/-- The object with a name. -/
def named {α : Type} (names : Names → List (String × α)) (name : String) : Act α := do
  Act.require name ((names (← get).names).lookup name)

/-- The name of a router; a question mark if it has lost its name. -/
def routerName (r : RouterId) : Act String := do
  match (← get).names.routers.find? fun entry => entry.2 == r with
  | some entry => return entry.1
  | none => return "?"

/-- The name of a router, if there is a router. -/
def routerName? : Option RouterId → Act Answer
  | some r => return .text (← routerName r)
  | none => return .nothing

/-- Gives a name to a handler. -/
def nameHandler (name : String) (h : HandlerRef) : Act Unit :=
  updateNames fun n => { n with handlers := Names.bind name h n.handlers }

/-- Does the act with the router of a name, which stays alive meanwhile. -/
def withNamed (name : String) (act : RouterId → Act Answer) : Act Answer := do
  let r ← named Names.routers name
  keeping r (act r)

/-- The kept records of a handler with a name. -/
def withMemory (name : String) (act : HandlerId → Act Answer) : Act Answer := do
  match ← named Names.handlers name with
  | .plain h => act h
  | .engine _ => throw (.missing name)

/-- The record of some content. -/
def recordOf (content : RecordContent) : Act RecordId :=
  makeRecord content.toLogCall content.stack

/-- The record that a step is about. -/
def recordFor : RecordArgument → Act RecordId
  | .named name => named Names.records name
  | .content content => recordOf content

/-- Goes on with a value, or answers with the problem. -/
def orProblem {α : Type} (value : Except ConfigError α) (act : α → Act Answer) : Act Answer :=
  match value with
  | .ok a => act a
  | .error e => return .problem e

/-! ## Steps by what they are about -/

/-- A step on a router. -/
def performRouter (calls : Reentry) (r : RouterId) : RouterStep → Act Answer
  | .log call => do
    log calls r call
    return .nothing
  | .dispatch argument => do
    dispatch calls r (← recordFor argument)
    return .nothing
  | .logLazily call => return .count (← logLazily calls r call)
  | .isEnabled level => return .flag (← isEnabled r level)
  | .filter => return .levels (← levelFilter r)
  | .setFilter filter => orProblem filter fun set => do
    setFilter r set
    return .done
  | .setCapture on => do
    updateRouter r fun x => { x with capture := on }
    return .nothing
  | .register ns name => do
    return .orProblem .count (← register r ns (← named Names.handlers name))
  | .unregister ns => return .count? (← unregister r ns)
  | .addDefault name => return .count (← addDefault r (← named Names.handlers name))
  | .removeDefault id => return .flag (← removeDefault r id)
  | .resolve ns keep => do
    let destination ← resolve r ns
    if let some name := keep then
      updateNames fun n => { n with routes := Names.bind name destination n.routes }
    match destination with
    | .slot id => return .count id
    | .group _ => return .nothing
  | .registrations => return .registrations (← router r).registry.registrations
  | .cached => return .count (← router r).registry.cachedRoutes
  | .clearRegistry => return .ids ((← clearRegistry r).mergeSort (· ≤ ·))
  | .aspects => do
    let engines ← (← router r).aspects.mapM fun entry => engine entry.2
    return .statuses (engines.map Engine.status)
  | .control index action => do
    match (← router r).aspects[index]? with
    | none => return .nothing
    | some entry =>
      match action with
      | .flush => flush calls entry.2
      | .shutdown => stopEngine calls entry.2
      return .status (← engine entry.2).status
  | .shutdown => do
    shutdown calls r
    return .nothing
  | .isShutDown => return .flag (← router r).shutDown
  | .install => do
    let before := (← get).global
    modify fun s => { s with global := some r }
    routerName? before

/-- A new handler. -/
def makeHandler (name : String) : HandlerPlan Step → Act Answer
  | .memory => do
    nameHandler name (.plain (← newHandler (.memory [])))
    return .done
  | .stderr layout => orProblem layout fun layout => do
    nameHandler name (.plain (← newHandler (.stderr layout)))
    return .done
  | .scripted behaviour => do
    nameHandler name (.plain (← newHandler (.scripted behaviour 0 0)))
    return .done
  | .gate filter group routerName => orProblem filter fun set => do
    let next ← match group with
      | some group => named Names.groups group
      | none => do pure (← router (← named Names.routers routerName)).defaults
    nameHandler name (.plain (← newHandler (.gate set next)))
    return .text set.display

/-- A step on a handler. -/
def performHandler (calls : Reentry) (name : String) : HandlerStep → Act Answer
  | .drain => withMemory name fun h => return .text (← drainMemory h)
  | .size => withMemory name fun h => return .size (← memoryRecords h).length
  | .records => withMemory name fun h => return .records (← inspectMemory h)
  | .stacks => withMemory name fun h => do
    return .stacks ((← inspectMemory h).map fun (rendered, r) =>
      (rendered, r.message, !r.stack.isEmpty))
  | .handle argument => do
    let h ← named Names.handlers name
    calls.handle h (← recordFor argument)
    return .nothing
  | .die => do
    prepareToDie calls (← named Names.handlers name)
    return .nothing
  | .serializes => return .flag (← serializes (← named Names.handlers name))

/-- A step on a slot. -/
def performSlot (calls : Reentry) (id : SlotId) : SlotStep → Act Answer
  | .invoke argument => do
    invoke calls id (← recordFor argument)
    return .nothing
  | .die => do
    dieSlot calls id
    return .nothing
  | .holds name => return .flag ((← slot id).handler == (← named Names.handlers name))

/-- A step on a group. -/
def performGroup (calls : Reentry) (g : GroupId) : GroupStep → Act Answer
  | .add name shared => do
    let h ← named Names.handlers name
    let id ← if shared then do
        let (id, locks) ← sharedSlot (← get).locks h
        modify fun s => { s with locks := locks }
        pure id
      else ownSlot h
    updateGroup g fun members => members ++ [id]
    return .count id
  | .remove id => return .flag (← withdraw g id)
  | .dispatch argument => do
    dispatchGroup calls g (← recordFor argument)
    return .nothing
  | .clear => return .ids (← withdrawAll g)
  | .members => return .members (← group g)

/-- A new engine. -/
def makeEngine (name : String) (threshold : Nat) (plan : SinkPlan Step) : Act Answer :=
  let make (sink : Sink) : Act Answer := do
    let e ← newEngine (.make sink (.ofNat threshold))
    nameHandler name (.engine e)
    updateNames fun n => { n with engines := Names.bind name e n.engines }
    return .done
  match plan with
  | .scripted behaviour => make (.scripted behaviour)
  | .stream target layout filter =>
    orProblem layout fun layout => orProblem filter fun set =>
      make (.stream (.make target layout set))

/-- A step on an engine. -/
def performEngine (calls : Reentry) (e : EngineId) : EngineStep → Act Answer
  | .init name => withNamed name fun r => return .doneOr (← initEngine calls e r)
  | .stop => do
    stopEngine calls e
    return .nothing
  | .flush => do
    flush calls e
    return .nothing
  | .tryDrain => return .flag (← tryDrain calls e)
  | .report => return .report (← engine e).report
  | .debugText => return .text (← engine e).debugText

/-- A step on a stream sink that stands alone. -/
def performStream (name : String) : StreamStep → Act Answer
  | .make target layout filter =>
    orProblem layout fun layout => orProblem filter fun set => do
      let id ← newStream (.make target layout set)
      updateNames fun n => { n with streams := Names.bind name id n.streams }
      return .done
  | .start => do
    let id ← named Names.streams name
    let (result, sink, media) := (← stream id).start (← get).media
    setMedia media
    updateStream id fun _ => sink
    return .doneOr result
  | .process batch => do
    let id ← named Names.streams name
    let (result, sink, media) := (← stream id).process batch (← get).media
    setMedia media
    updateStream id fun _ => sink
    return .doneOr result
  | .line argument => do
    let sink ← stream (← named Names.streams name)
    let id ← recordFor argument
    let r ← record id
    match ← Act.orPanic (sink.line? r) with
    | none => return .line none r.isRendered
    | some (line, r) =>
      updateRecord id fun _ => r
      return .line (some line) r.isRendered
  | .stop => do
    let id ← named Names.streams name
    let (sink, media) := (← stream id).stop (← get).media
    setMedia media
    updateStream id fun _ => sink
    return .nothing
  | .info => do
    let sink ← stream (← named Names.streams name)
    return .stream sink.name sink.target sink.debugText

/-- A step on files. -/
def performFile : FileStep → Act Answer
  | .read path => return .text? ((← get).media.read path).toOption
  | .write path text => do
    let (result, media) := (← get).media.write path text
    setMedia media
    return .flag result.toBool
  | .load path => do
    match (← get).media.read path with
    | .error e => return .problem (.io e)
    | .ok text => return .orProblem .settings (Document.read text >>= Configuration.validate)

/-- A step on the global router. -/
def performGlobal (calls : Reentry) : GlobalStep → Act Answer
  | .current => do routerName? (← get).global
  | .ifEnabled level => do
    match (← get).global with
    | some r => if ← isEnabled r level then routerName? (some r) else return .nothing
    | none => return .nothing
  | .take => do routerName? (← takeGlobal)
  | .shutdown => do
    match ← takeGlobal with
    | some r => keeping r (shutdown calls r)
    | none => pure ()
    return .nothing
  | .logLazily call => do
    match (← get).global with
    | some r => keeping r do return .count (← logLazily calls r call)
    | none => return .count 0

/-! ## Logging from many threads -/

/-- Logs numbered records to a namespace. -/
def logNumbered (calls : Reentry) (r : RouterId) (ns : String) (sender : Nat) :
    List Nat → Act Unit
  | [] => return
  | n :: numbers => do
    log calls r
      { level := .info
        site := { CallSite.unknown with namespaceName := ns }
        template := toString sender ++ "-" ++ toString n
        args := []
        cause := none }
    logNumbered calls r ns sender numbers

/-- Logs numbered records to each namespace, on a thread for each. -/
def logFromThreads (calls : Reentry) (r : RouterId) (each : Nat) : Nat → List String → Act Unit
  | _, [] => return
  | sender, ns :: spaces => do
    onThread none (logNumbered calls r ns sender (List.range each))
    logFromThreads calls r each (sender + 1) spaces

/-- Sender and number of a numbered record. -/
def sender? (message : String) : Option (Nat × Nat) := do
  let (sender, number) ← Text.splitFirst? ['-'] message.toList
  return (← (String.ofList sender).toNat?, ← (String.ofList number).toNat?)

/-- Whether numbers grow. -/
def ascending : List Nat → Bool
  | a :: b :: rest => a < b && ascending (b :: rest)
  | _ => true

/-- The tally of the messages that an object received from a number of threads. -/
def tally (name : String) (threads : Nat) (maxInside : Option Nat) (messages : List String) :
    Tally :=
  let pairs := messages.filterMap sender?
  let numbers (sender : Nat) := (pairs.filter (·.1 == sender)).map Prod.snd
  let senders := (List.range threads).filter fun t => !(numbers t).isEmpty
  { name := name
    count := pairs.length
    perThread := senders.map fun t => (t, (numbers t).length)
    inOrder := senders.all fun t => ascending (numbers t)
    maxInside := maxInside }

/-- The messages that a scripted handler received, by the journal. -/
def handledMessages (name : String) (entries : List Entry) : List String :=
  entries.filterMap fun
    | .handled handler _ message _ _ => if handler == name then some message else none
    | _ => none

/-- The tally of a handler, if it received anything; a handler that keeps records always has one.
`before` is the number of records that each handler kept before. -/
def tallyOf (threads : Nat) (entries : List Entry) (before : HandlerId → Nat) (name : String)
    (h : HandlerRef) : Act (List Tally) := do
  let received (t : Tally) : List Tally := if t.count = 0 then [] else [t]
  match h with
  | .engine e =>
    match (← engine e).sink with
    | .scripted _ => return received (tally name threads none (History.batches e entries).flatten)
    | .stream _ => return []
  | .plain id =>
    match ← handler id with
    | .scripted behaviour _ _ =>
      return received (tally name threads (if behaviour.serialized then some 1 else none)
        (handledMessages behaviour.name entries))
    | .memory kept =>
      let records ← (kept.reverse.drop (before id)).mapM renderMessage
      return [tally name threads none (records.map Record.message)]
    | _ => return []

/-- The number of records that a handler keeps. -/
def keptCount (handlers : List Handler) (id : HandlerId) : Nat :=
  match handlers[id]? with
  | some (.memory kept) => kept.length
  | _ => 0

/-- The fault of whoever counts what was received, and finds that an object did something else. -/
def miscount : Payload := .text "nothing but receipts can be counted"

/-- Logs from several threads at once, flushes every engine, and counts.  Only receipts can be counted:
it panics if an object did anything else meanwhile. -/
def performParallel (calls : Reentry) (r : RouterId) (spaces : List String) (each : Nat) :
    Act Answer := do
  let before ← get
  note .parallelBegins
  let logging := do
    logFromThreads calls r each 0 spaces
    before.names.engines.forM fun entry => flush calls entry.2
  logging.after fun s => s.noted .parallelEnds
  let now ← get
  let entries := before.historySince now
  if (entries.filterMap (Entry.event? now)).all Event.isReceipt then
    let tallies ← before.names.handlers.mapM fun entry =>
      tallyOf spaces.length entries (keptCount before.handlers) entry.1 entry.2
    return .tallies tallies.flatten
  else throw (.panicked miscount)

/-! ## All steps -/

/-- Takes a step. -/
def perform (calls : Reentry) : Step → Act Answer
  | .makeRouter name filter => orProblem filter fun set => do
    let r ← newRouter set
    updateNames fun n => { n with routers := Names.bind name r n.routers }
    return .done
  | .configure name config => orProblem config fun c => do
    orProblem (← configure calls c) fun r => do
      updateNames fun n => { n with routers := Names.bind name r n.routers }
      return .done
  | .dropRouter name => do
    let known := ((← get).names.routers.lookup name).isSome
    updateNames fun n => { n with routers := n.routers.filter fun entry => entry.1 != name }
    return .flag known
  | .onRouter name step => withNamed name fun r => performRouter calls r step
  | .dispatchRoute name argument => do
    dispatchTo calls (← named Names.routes name) (← recordFor argument)
    return .nothing
  | .makeHandler name plan => makeHandler name plan
  | .onHandler name step => performHandler calls name step
  | .makeRecord name content => do
    let id ← recordOf content
    updateNames fun n => { n with records := Names.bind name id n.records }
    return .done
  | .isRendered argument => do return .flag (← record (← recordFor argument)).isRendered
  | .onSlot id step => performSlot calls id step
  | .makeGroup name => do
    let g ← newGroup
    updateNames fun n => { n with groups := Names.bind name g n.groups }
    return .done
  | .onGroup (some group) _ step => do performGroup calls (← named Names.groups group) step
  | .onGroup none name step => withNamed name fun r => do
    performGroup calls (← router r).defaults step
  | .makeEngine name threshold plan => makeEngine name threshold plan
  | .onEngine name step => do performEngine calls (← named Names.engines name) step
  | .onStream name step => performStream name step
  | .onFile step => performFile step
  | .onGlobal step => performGlobal calls step
  | .thread name steps => onThread name do return .answers (← steps.mapM calls.perform)
  | .parallel name spaces each => withNamed name fun r => performParallel calls r spaces each

end System

/-! ## Nesting -/

/-- The calls that operations may make back into the system, nested to a depth; loops may run as
many rounds.  The calls of the next depth are only made up when they are needed. -/
def Reentry.upTo : Nat → Reentry
  | 0 => .none
  | depth + 1 =>
    { rounds := depth + 1
      handle := fun h id => System.handle (upTo depth) h id
      perform := fun step => System.perform (upTo depth) step }

/-- The depth of nesting, and the number of rounds, that programs are allowed. -/
def System.depth : Nat := Nat.pow 2 40

/-- Takes a step with a depth of nesting that no program comes near. -/
def System.run (step : Step) : Act Answer := System.perform (.upTo System.depth) step

end NamespaceLogging
