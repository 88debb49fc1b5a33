import NamespaceLogging.System.Dispatch

/-!
# Routers

A log call goes through the filter of its router; what is let through becomes a record, which is
routed by the namespace of its call site.

## Main definitions

* `System.isEnabled`, `System.levelFilter`, `System.setFilter`: the filter of a router.
* `System.resolve`: where a namespace leads.
* `System.register`, `System.unregister`, `System.clearRegistry`: the registrations.
* `System.addDefault`, `System.removeDefault`: the default handlers.
* `System.dispatch`: routes a record.
* `System.log`: a log call.
-/

set_option autoImplicit false

namespace NamespaceLogging

namespace System

/-! ## The filter -/

/-- Whether a level is let through. -/
def isEnabled (r : RouterId) (level : Level) : Act Bool := do
  return (← router r).filter.any fun set => set.contains level

/-- The levels that are let through, as they are shown: always with `Level.fatal`. -/
def levelFilter (r : RouterId) : Act LevelSet := do
  return (← router r).filter.getD .onlyFatal

/-- Changes the filter, unless the router was shut down. -/
def setFilter (r : RouterId) (filter : LevelSet) : Act Unit := do
  if !(← router r).shutDown then updateRouter r fun x => { x with filter := some filter }

/-! ## Registrations and default handlers -/

/-- Where a namespace leads.  The router remembers it. -/
def resolve (r : RouterId) (ns : String) : Act Destination := do
  let x ← router r
  let (route, registry) := x.registry.resolve ns
  updateRouter r fun x => { x with registry := registry }
  match route with
  | .slot id => return .slot id
  | .defaults => return .group x.defaults

/-- Registers a handler for a namespace and all below it. -/
def register (r : RouterId) (ns : String) (h : HandlerRef) : Act (Except ConfigError SlotId) := do
  if Registry.accepts ns then
    let id ← slotFor r h
    match (← router r).registry.register ns id with
    | .ok registry =>
      updateRouter r fun x => { x with registry := registry }
      return .ok id
    | .error e => return .error e
  else return .error (.emptyNamespace ns)

/-- Takes back the registration for exactly this namespace. -/
def unregister (r : RouterId) (ns : String) : Act (Option SlotId) := do
  let (id, registry) := (← router r).registry.unregister ns
  updateRouter r fun x => { x with registry := registry }
  return id

/-- Takes back all registrations. -/
def clearRegistry (r : RouterId) : Act (List SlotId) := do
  let (ids, registry) := (← router r).registry.clear
  updateRouter r fun x => { x with registry := registry }
  return ids

/-- Adds a default handler. -/
def addDefault (r : RouterId) (h : HandlerRef) : Act SlotId := do
  let id ← slotFor r h
  updateGroup (← router r).defaults fun members => members ++ [id]
  return id

/-- Removes a default handler. -/
def removeDefault (r : RouterId) (id : SlotId) : Act Bool := do
  withdraw (← router r).defaults id

/-- Takes an engine out of the default handlers and the attached engines. -/
def detach (r : RouterId) (id : SlotId) : Act Unit := do
  let _ ← removeMember (← router r).defaults id
  updateRouter r fun x => { x with aspects := x.aspects.filter fun entry => entry.1 != id }

/-! ## Log calls -/

/-- Routes a record. -/
def dispatch (calls : Reentry) (r : RouterId) (id : RecordId) : Act Unit := do
  dispatchTo calls (← resolve r (← record id).namespaceName) id

/-- The call stack without the frames of the machinery. -/
def captureStack : Act (List Frame) :=
  modifyGet fun s =>
    let (frames, overhead) := Backtrace.trimmed s.overhead s.callStack s.machinery
    (frames, { s with overhead := some overhead })

/-- A record of what a log call says, made here and now. -/
def makeRecord (call : LogCall) (stack : List Frame) : Act RecordId := do
  let s ← get
  let r := Record.make call.level call.template s.clock s.thread.display
  newRecord ((((r.withArgs call.args).withCause call.cause).withSite call.site).withStack stack)

/-- The record of a log call. -/
def capture (r : RouterId) (call : LogCall) : Act RecordId := do
  makeRecord call (← if (← router r).capture then captureStack else pure [])

/-- Makes a log call. -/
def log (calls : Reentry) (r : RouterId) (call : LogCall) : Act Unit := do
  if ← isEnabled r call.level then
    note (.logged r call)
    dispatch calls r (← capture r call)

/-- Makes a log call and counts the arguments and causes that were evaluated for it. -/
def logLazily (calls : Reentry) (r : RouterId) (call : LogCall) : Act Nat := do
  if ← isEnabled r call.level then
    log calls r call
    return call.args.length + (if call.cause.isSome then 1 else 0)
  else return 0

end System

end NamespaceLogging
