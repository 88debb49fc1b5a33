/-!
# Serialization locks

Calls into a handler that asks for it are serialized by a lock.  The lock belongs to the instance of
the handler: however many slots an instance fills, they share one lock.  Instances are told apart by
their address, and an address may be used again once its last instance is gone; so the table
trusts an entry only while the lock in it is alive.

## Main definitions

* `SerialLocks`: the table of the locks handed out, by address.
* `SerialLocks.lockFor`: the lock of an instance.
-/

set_option autoImplicit false

namespace NamespaceLogging

/-- The number of a lock. -/
abbrev LockId := Nat

/-- The locks handed out so far, by the address of the instance. -/
structure SerialLocks (Address : Type) where
  entries : List (Address × LockId)
deriving DecidableEq, Repr

namespace SerialLocks

variable {Address : Type} [BEq Address]

/-- A table that has not handed out a lock. -/
def empty : SerialLocks Address := ⟨[]⟩

/-- The lock that the table knows for an address, if that lock is alive. -/
def known? (alive : LockId → Bool) (address : Address) (t : SerialLocks Address) : Option LockId :=
  (t.entries.lookup address).filter alive

/-- The table with a lock for an address; the dead entries go. -/
def enter (alive : LockId → Bool) (address : Address) (lock : LockId) (t : SerialLocks Address) :
    SerialLocks Address :=
  ⟨(address, lock) :: t.entries.filter fun entry => alive entry.2 && !(entry.1 == address)⟩

/-- The lock of the instance at an address: the one that is known, or else a fresh one. -/
def lockFor (alive : LockId → Bool) (fresh : LockId) (address : Address)
    (t : SerialLocks Address) : LockId × SerialLocks Address :=
  match t.known? alive address with
  | some lock => (lock, t)
  | none => (fresh, t.enter alive address fresh)

end SerialLocks

end NamespaceLogging
