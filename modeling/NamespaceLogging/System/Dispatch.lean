import NamespaceLogging.System.Act

/-!
# Passing records on

A record reaches a handler through a slot.  The slot serializes the calls of a handler that asks for
it, and contains its panics, so that the logging thread carries on.

## Main definitions

* `System.sharedSlot`, `System.ownSlot`: new slots for a handler.
* `System.invoke`: passes a record to the handler of a slot.
* `System.dispatchGroup`: passes a record to all members that a group has at the beginning.
* `System.dispatchTo`: passes a record to its destination.
-/

set_option autoImplicit false

namespace NamespaceLogging

namespace System

/-! ## Slots -/

/-- Whether the calls of a handler have to be serialized. -/
def serializes (h : HandlerRef) : Act Bool :=
  match h with
  | .engine _ => return false
  | .plain id => do
    match ← handler id with
    | .gate _ _ => return false
    | .scripted behaviour _ _ => return behaviour.serialized
    | .memory _ | .stderr _ => return true

/-- A new slot for a handler with a lock of its own. -/
def ownSlot (h : HandlerRef) : Act SlotId := do newSlot ⟨h, ← newLock⟩

/-- A new slot for a handler, and the table of locks with the one that the slot uses. -/
def sharedSlot (locks : SerialLocks HandlerRef) (h : HandlerRef) :
    Act (SlotId × SerialLocks HandlerRef) := do
  let s ← get
  let (lock, locks) := locks.lockFor s.lockAlive (← newLock) h
  return (← newSlot ⟨h, lock⟩, locks)

/-- A new slot of a router for a handler. -/
def slotFor (r : RouterId) (h : HandlerRef) : Act SlotId := do
  let (id, locks) ← sharedSlot (← router r).locks h
  updateRouter r fun x => { x with locks := locks }
  return id

/-! ## Delivery -/

/-- Passes a record to the handler of a slot.  A panic of the handler ends here. -/
def invoke (calls : Reentry) (id : SlotId) (r : RecordId) : Act Unit := do
  let x ← slot id
  note (.delivered id r)
  let call := Act.contain (calls.handle x.handler r)
  let _ ← if ← serializes x.handler then holding x.lock call else call

/-- Passes a record to slots, in order. -/
def invokeAll (calls : Reentry) (r : RecordId) : List SlotId → Act Unit
  | [] => return
  | id :: ids => do
    invoke calls id r
    invokeAll calls r ids

/-- Passes a record to the members that a group has now, in order. -/
def dispatchGroup (calls : Reentry) (g : GroupId) (r : RecordId) : Act Unit := do
  invokeAll calls r (← group g)

/-- Passes a record to its destination. -/
def dispatchTo (calls : Reentry) (destination : Destination) (r : RecordId) : Act Unit :=
  match destination with
  | .slot id => invoke calls id r
  | .group id => dispatchGroup calls id r

/-! ## Groups -/

/-- Takes a slot out of a group.  The result says whether it was a member. -/
def removeMember (g : GroupId) (id : SlotId) : Act Bool := do
  let members ← group g
  updateGroup g fun _ => members.filter (· != id)
  return members.contains id

/-- Takes a slot out of a group from outside.  The result says whether it was a member. -/
def withdraw (g : GroupId) (id : SlotId) : Act Bool := do
  let known ← removeMember g id
  if known then note (.withdrawn [id])
  return known

/-- Takes all members out of a group. -/
def takeMembers (g : GroupId) : Act (List SlotId) := do
  let members ← group g
  updateGroup g fun _ => []
  return members

/-- Takes all members out of a group from outside. -/
def withdrawAll (g : GroupId) : Act (List SlotId) := do
  let members ← takeMembers g
  note (.withdrawn members)
  return members

end System

end NamespaceLogging
