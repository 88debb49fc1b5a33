import NamespaceLogging.System.Draining

/-!
# Handlers at work

What every handler does with a record, and when it is told that the program is about to end.

## Main definitions

* `System.handle`: calls a handler with a record.
* `System.prepareToDie`: tells a handler that the end is near.
* `System.dieSlot`: tells the handler of a slot, under the slot's lock.
* `System.drainMemory`, `System.memoryRecords`: what a handler has kept.
-/

set_option autoImplicit false

namespace NamespaceLogging

namespace System

/-! ## Records -/

/-- Lays a record out. -/
def layOut (layout : Layout) (id : RecordId) : Act String := do
  let (line, r) ← Act.orPanic (layout.render (← record id))
  updateRecord id fun _ => r
  return line

/-- Writes a text to the standard error stream. -/
def writeError (text : String) : Act Unit := do
  setMedia ((← get).media.append .stderr text).2

/-! ## Calls -/

/-- Calls a handler that is no engine. -/
def handlePlain (calls : Reentry) (h : HandlerId) (id : RecordId) : Act Unit := do
  match ← handler h with
  | .memory kept => updateHandler h fun _ => .memory (id :: kept)
  | .stderr layout => writeError ((← layOut layout id) ++ "\n")
  | .gate filter next => if filter.contains (← record id).level then dispatchGroup calls next id
  | .scripted behaviour n deaths =>
    let r ← renderMessage id
    updateHandler h fun _ => .scripted behaviour (n + 1) deaths
    note (.handled behaviour.name r.level r.message r.namespaceName (r.cause.map Cause.display))
    let _ ← runScript calls behaviour.name (behaviour.onRecord n r.message)

/-- Calls a handler with a record. -/
def handle (calls : Reentry) (h : HandlerRef) (id : RecordId) : Act Unit :=
  match h with
  | .plain h => handlePlain calls h id
  | .engine e => takeRecord calls e id

/-- Tells a handler that the program is about to end: an engine flushes. -/
def prepareToDie (calls : Reentry) (h : HandlerRef) : Act Unit :=
  match h with
  | .engine e => flush calls e
  | .plain h => do
    match ← handler h with
    | .scripted behaviour n deaths =>
      updateHandler h fun _ => .scripted behaviour n (deaths + 1)
      note (.died behaviour.name)
      let _ ← runScript calls behaviour.name (behaviour.onDie deaths)
    | _ => pure ()

/-- Tells the handler of a slot that the program is about to end. -/
def dieSlot (calls : Reentry) (id : SlotId) : Act Unit := do
  let x ← slot id
  note (.dying id)
  holding x.lock (prepareToDie calls x.handler)

/-- Tells the handlers of slots, in order. -/
def dieAll (calls : Reentry) : List SlotId → Act Unit
  | [] => return
  | id :: ids => do
    dieSlot calls id
    dieAll calls ids

/-! ## Kept records -/

/-- The records that a handler keeps, in the order in which they came. -/
def memoryRecords (h : HandlerId) : Act (List RecordId) := do
  match ← handler h with
  | .memory kept => return kept.reverse
  | _ => throw (.missing "memory handler")

/-- The texts of all kept records, a line for each; nothing is kept any more. -/
def drainMemory (h : HandlerId) : Act String := do
  let records ← (← memoryRecords h).mapM renderMessage
  updateHandler h fun _ => .memory []
  return "\n".intercalate (records.map Record.display)

/-- The kept records, each with whether its message had been rendered when it was looked at. -/
def inspectMemory (h : HandlerId) : Act (List (Bool × Record)) := do
  (← memoryRecords h).mapM fun id => do
    let before ← record id
    return (before.isRendered, ← renderMessage id)

end System

end NamespaceLogging
