import Mathlib.Data.List.Nodup
import NamespaceLogging.Proofs.Interleaving
import NamespaceLogging.System.Dispatch

/-!
# One lock for each instance

A table of locks tells the instances of handlers apart by their addresses.  An instance lives at its
address as long as somebody refers to it, be it a slot or anybody else; then its address may be given
to another one.  The table keeps no instance and no lock alive, and so its entries may be out of date.
All the same, two slots share their lock exactly if they share their handler.

## Main definitions

* `Memory`: who lives where, and who refers to what, with a table of locks.
* `Memory.Action`, `Memory.step`: what happens to handlers and slots, one action at a time.
* `Memory.Sound`: the entries that live slots rely on are in the table.

## Main results

* `Memory.lock_eq_iff`: two live slots have the same lock if and only if they have the same handler.
* `System.sharedSlot_step`: the slots that systems make are made in this way.

## Implementation notes

Memory is for instances what a system is not: in a system, no object ever goes, and so an instance is
its own address.  A slot that goes lets go of its handler first and of its lock later; in between,
the address may have been given away while the lock is still alive.
-/

set_option autoImplicit false

namespace NamespaceLogging

open Interleaving

/-- Handlers and slots at their addresses, with one table of locks. -/
structure Memory (Address : Type) where
  /-- The address of each instance that was ever made. -/
  places : List (HandlerRef × Address)
  /-- The instances that somebody refers to who is no slot, one entry for each reference. -/
  references : List HandlerRef
  /-- The live slots that were made with the table. -/
  slots : List Slot
  /-- The locks of slots that have let go of their handlers and are about to let go of the lock. -/
  parting : List LockId
  locks : SerialLocks Address
  /-- The number of locks made so far. -/
  lockCount : Nat

namespace Memory

variable {Address : Type} {m n : Memory Address} {h h' : HandlerRef} {a b : Address} {x y : Slot}
  {lock : LockId}

/-! ## Actions -/

/-- Nothing was made yet. -/
def empty : Memory Address := ⟨[], [], [], [], .empty, 0⟩

/-- Whether somebody refers to an instance. -/
def isAlive (m : Memory Address) (h : HandlerRef) : Bool :=
  m.references.contains h || m.slots.any fun x => x.handler == h

/-- A handler is alive just if somebody refers to it, or if it is in some slot. -/
lemma isAlive_iff : m.isAlive h = true ↔ h ∈ m.references ∨ ∃ x ∈ m.slots, x.handler = h := by
  simp [isAlive]

/-- Whether somebody holds on to a lock. -/
def lockAlive (m : Memory Address) (lock : LockId) : Bool :=
  (m.slots.any fun x => x.lock == lock) || m.parting.contains lock

/-- The lock of a slot that is there is alive. -/
lemma lockAlive_of_mem (hx : x ∈ m.slots) : m.lockAlive x.lock = true := by
  simp only [lockAlive, Bool.or_eq_true, List.any_eq_true]
  exact .inl ⟨x, hx, beq_self_eq_true _⟩

variable [DecidableEq Address]

/-- Whether nobody lives at an address. -/
def isFree (m : Memory Address) (a : Address) : Bool :=
  m.places.all fun place => place.2 != a || !m.isAlive place.1

/-- Something that happens to handlers and slots. -/
inductive Action (Address : Type) where
  /-- A new instance is made at a free address, for somebody who refers to it. -/
  | make (h : HandlerRef) (a : Address)
  /-- One more reference to a live instance. -/
  | share (h : HandlerRef)
  /-- Somebody lets go of an instance. -/
  | drop (h : HandlerRef)
  /-- A slot is made for an instance. -/
  | enter (h : HandlerRef)
  /-- A slot goes, and lets go of its handler. -/
  | leave (x : Slot)
  /-- A slot that has gone lets go of its lock. -/
  | unlock (lock : LockId)

/-- The memory with a new slot for the instance at an address. -/
def entered (m : Memory Address) (h : HandlerRef) (a : Address) : Memory Address :=
  let (lock, locks) := m.locks.lockFor m.lockAlive m.lockCount a
  { m with slots := m.slots ++ [⟨h, lock⟩], locks := locks, lockCount := m.lockCount + 1 }

/-- What an action does, if it can be taken. -/
def step (m : Memory Address) : Action Address → Option (Memory Address)
  | .make h a =>
    if m.places.lookup h = none ∧ m.isFree a then
      some { m with places := (h, a) :: m.places, references := h :: m.references }
    else none
  | .share h => if m.isAlive h then some { m with references := h :: m.references } else none
  | .drop h =>
    if h ∈ m.references then some { m with references := m.references.erase h } else none
  | .enter h =>
    match m.places.lookup h with
    | some a => if m.isAlive h then some (m.entered h a) else none
    | none => none
  | .leave x =>
    if x ∈ m.slots then
      some { m with slots := m.slots.erase x, parting := x.lock :: m.parting }
    else none
  | .unlock lock =>
    if lock ∈ m.parting then some { m with parting := m.parting.erase lock } else none

/-! ## What the table knows -/

omit [DecidableEq Address] in
/-- A place that is added for one handler does not change the places of others. -/
lemma lookup_of_ne {places : List (HandlerRef × Address)} (hne : h' ≠ h) :
    List.lookup h' ((h, a) :: places) = places.lookup h' := by
  rw [List.lookup_cons, beq_eq_false_iff_ne.mpr hne]

/-- An entry is found unless it is thrown out, since no earlier one stands in its way. -/
lemma lookup_filter {entries : List (Address × LockId)} {keep : Address × LockId → Bool}
    (hlookup : entries.lookup a = some lock) (hkeep : keep (a, lock) = true) :
    (entries.filter keep).lookup a = some lock := by
  obtain ⟨before, after, rfl, hbefore⟩ := List.lookup_eq_some_iff.mp hlookup
  rw [List.lookup_eq_some_iff]
  refine ⟨before.filter keep, after.filter keep, ?_, ?_⟩
  · simp [hkeep]
  · intro entry hentry
    exact hbefore entry (List.mem_of_mem_filter hentry)

/-- A lock that is found under an address stands in the table with that address. -/
lemma mem_of_lookup {entries : List (Address × LockId)} (hlookup : entries.lookup a = some lock) :
    (a, lock) ∈ entries := by
  obtain ⟨before, after, rfl, -⟩ := List.lookup_eq_some_iff.mp hlookup
  simp

/-- The table finds for every live slot its lock, at the address of its handler.  No two instances
that live are at one address, and no lock stands in the table twice. -/
structure Sound (m : Memory Address) : Prop where
  known : ∀ x ∈ m.slots, ∃ a, m.places.lookup x.handler = some a ∧
    m.locks.entries.lookup a = some x.lock
  apart : ∀ h h' a, m.isAlive h = true → m.isAlive h' = true → m.places.lookup h = some a →
    m.places.lookup h' = some a → h = h'
  once : (m.locks.entries.map Prod.snd).Nodup
  below : ∀ entry ∈ m.locks.entries, entry.2 < m.lockCount

/-- In an empty memory there is no slot whose lock could be wrong. -/
lemma sound_empty : (empty : Memory Address).Sound := by
  constructor <;> simp [empty, SerialLocks.empty]

namespace Sound

variable (hm : m.Sound)

include hm

/-- Fewer references and fewer slots leave everything in order. -/
lemma shrink (hplaces : n.places = m.places) (hlocks : n.locks = m.locks)
    (hcount : n.lockCount = m.lockCount) (hslots : n.slots ⊆ m.slots)
    (halive : ∀ h, n.isAlive h = true → m.isAlive h = true) : n.Sound where
  known x hx := by
    rw [hplaces, hlocks]
    exact hm.known x (hslots hx)
  apart h h' a hh hh' := by
    rw [hplaces]
    exact hm.apart h h' a (halive h hh) (halive h' hh')
  once := by
    rw [hlocks]
    exact hm.once
  below := by
    rw [hlocks, hcount]
    exact hm.below

/-- A new instance comes to an address at which nobody lives. -/
lemma make (hnew : m.places.lookup h = none) (hfree : m.isFree a = true) :
    { m with places := (h, a) :: m.places, references := h :: m.references : Memory Address }.Sound where
  known x hx := by
    obtain ⟨b, hplace, hlock⟩ := hm.known x hx
    have hne : x.handler ≠ h := by
      intro heq
      simp [heq, hnew] at hplace
    exact ⟨b, (lookup_of_ne hne).trans hplace, hlock⟩
  apart := by
    -- whoever else lives at the address of the new instance would have lived there before
    have hnobody : ∀ h', h' ≠ h → m.isAlive h' = true → m.places.lookup h' ≠ some a := by
      intro h' hne halive hplace
      have hmem : (h', a) ∈ m.places := by
        obtain ⟨before, after, heq, -⟩ := List.lookup_eq_some_iff.mp hplace
        simp [heq]
      have hgone := List.all_eq_true.mp hfree (h', a) hmem
      simp [halive] at hgone
    have hbefore : ∀ h', h' ≠ h → isAlive { m with
        places := (h, a) :: m.places, references := h :: m.references } h' = true →
        m.isAlive h' = true := by
      intro h' hne halive
      rw [isAlive_iff] at halive ⊢
      simpa [hne] using halive
    intro h₁ h₂ b halive₁ halive₂ hplace₁ hplace₂
    by_cases heq₁ : h₁ = h
    · by_cases heq₂ : h₂ = h
      · rw [heq₁, heq₂]
      · obtain rfl : a = b := by simpa [heq₁] using hplace₁
        rw [lookup_of_ne heq₂] at hplace₂
        exact absurd hplace₂ (hnobody h₂ heq₂ (hbefore h₂ heq₂ halive₂))
    · by_cases heq₂ : h₂ = h
      · obtain rfl : a = b := by simpa [heq₂] using hplace₂
        rw [lookup_of_ne heq₁] at hplace₁
        exact absurd hplace₁ (hnobody h₁ heq₁ (hbefore h₁ heq₁ halive₁))
      · rw [lookup_of_ne heq₁] at hplace₁
        rw [lookup_of_ne heq₂] at hplace₂
        exact hm.apart h₁ h₂ b (hbefore h₁ heq₁ halive₁) (hbefore h₂ heq₂ halive₂) hplace₁ hplace₂
  once := hm.once
  below := hm.below

/-- The table knows the lock of an instance that has a slot. -/
lemma known_of_slot (hx : x ∈ m.slots) (hplace : m.places.lookup x.handler = some a) :
    m.locks.known? m.lockAlive a = some x.lock := by
  obtain ⟨b, hb, hlock⟩ := hm.known x hx
  obtain rfl : a = b := Option.some.inj (hplace.symm.trans hb)
  simp [SerialLocks.known?, hlock, lockAlive_of_mem hx]

/-- **A new slot** gets the lock of its instance.  The table throws out what is dead, but then the
instance had no slot, and no slot's entry is lost. -/
lemma entered (hplace : m.places.lookup h = some a) (halive : m.isAlive h = true) :
    (m.entered h a).Sound := by
  have hsame : ∀ h', (m.entered h a).isAlive h' = true → m.isAlive h' = true := by
    intro h' hh'
    rw [isAlive_iff] at hh'
    obtain hh' | ⟨x, hx, rfl⟩ := hh'
    · exact isAlive_iff.mpr (.inl hh')
    · rcases List.mem_append.mp hx with hx | hx
      · exact isAlive_iff.mpr (.inr ⟨x, hx, rfl⟩)
      · obtain rfl := List.mem_singleton.mp hx
        exact halive
  have hapart : ∀ h₁ h₂ b, (m.entered h a).isAlive h₁ = true → (m.entered h a).isAlive h₂ = true →
      m.places.lookup h₁ = some b → m.places.lookup h₂ = some b → h₁ = h₂ :=
    fun h₁ h₂ b h₁alive h₂alive => hm.apart h₁ h₂ b (hsame h₁ h₁alive) (hsame h₂ h₂alive)
  cases hknown : m.locks.known? m.lockAlive a with
  | some lock =>
    have hentered : m.entered h a =
        { m with slots := m.slots ++ [⟨h, lock⟩], lockCount := m.lockCount + 1 } := by
      simp [Memory.entered, SerialLocks.lockFor, hknown]
    have hlookup : m.locks.entries.lookup a = some lock :=
      (Option.filter_eq_some_iff.mp hknown).1
    rw [hentered] at hapart ⊢
    refine ⟨?_, hapart, hm.once, ?_⟩
    · intro x hx
      rcases List.mem_append.mp hx with hx | hx
      · exact hm.known x hx
      · obtain rfl := List.mem_singleton.mp hx
        exact ⟨a, hplace, hlookup⟩
    · intro entry hentry
      exact Nat.lt_succ_of_lt (hm.below entry hentry)
  | none =>
    have hentered : m.entered h a =
        { m with
          slots := m.slots ++ [⟨h, m.lockCount⟩]
          locks := m.locks.enter m.lockAlive a m.lockCount
          lockCount := m.lockCount + 1 } := by
      simp [Memory.entered, SerialLocks.lockFor, hknown]
    rw [hentered] at hapart ⊢
    refine ⟨?_, hapart, ?_, ?_⟩
    · intro x hx
      rcases List.mem_append.mp hx with hold | hnew
      · obtain ⟨b, hb, hlock⟩ := hm.known x hold
        have hne : b ≠ a := by
          intro heq
          rw [heq] at hb
          simp [hm.known_of_slot hold hb] at hknown
        refine ⟨b, hb, ?_⟩
        simp only [SerialLocks.enter, List.lookup_cons, beq_eq_false_iff_ne.mpr hne]
        exact lookup_filter hlock (by simp [lockAlive_of_mem hold, hne])
      · obtain rfl := List.mem_singleton.mp hnew
        exact ⟨a, hplace, by simp [SerialLocks.enter]⟩
    · simp only [SerialLocks.enter, List.map_cons, List.nodup_cons]
      constructor
      · intro hmem
        obtain ⟨entry, hentry, heq⟩ := List.mem_map.mp hmem
        exact absurd heq (Nat.ne_of_lt (hm.below entry (List.mem_of_mem_filter hentry)))
      · exact hm.once.sublist (List.filter_sublist.map Prod.snd)
    · intro entry hentry
      rcases List.mem_cons.mp hentry with rfl | hentry
      · exact Nat.lt_succ_self _
      · exact Nat.lt_succ_of_lt (hm.below entry (List.mem_of_mem_filter hentry))

/-- **Whatever happens, the table stays sound.** -/
lemma step {action : Action Address} (hstep : m.step action = some n) : n.Sound := by
  cases action with
  | make h a =>
    simp only [Memory.step, Option.ite_none_right_eq_some, Option.some.injEq] at hstep
    obtain ⟨⟨hnew, hfree⟩, rfl⟩ := hstep
    exact hm.make hnew hfree
  | share h =>
    simp only [Memory.step, Option.ite_none_right_eq_some, Option.some.injEq] at hstep
    obtain ⟨halive, rfl⟩ := hstep
    refine hm.shrink rfl rfl rfl (List.Subset.refl _) fun h' hh' => ?_
    rw [isAlive_iff] at hh' ⊢
    rcases hh' with hh' | hh'
    · rcases List.mem_cons.mp hh' with rfl | hh'
      · exact isAlive_iff.mp halive
      · exact .inl hh'
    · exact .inr hh'
  | drop h =>
    simp only [Memory.step, Option.ite_none_right_eq_some, Option.some.injEq] at hstep
    obtain ⟨-, rfl⟩ := hstep
    refine hm.shrink rfl rfl rfl (List.Subset.refl _) fun h' hh' => ?_
    rw [isAlive_iff] at hh' ⊢
    exact hh'.imp_left List.mem_of_mem_erase
  | enter h =>
    simp only [Memory.step] at hstep
    split at hstep
    · rename_i a hplace
      simp only [Option.ite_none_right_eq_some, Option.some.injEq] at hstep
      obtain ⟨halive, rfl⟩ := hstep
      exact hm.entered hplace halive
    · simp at hstep
  | leave x =>
    simp only [Memory.step, Option.ite_none_right_eq_some, Option.some.injEq] at hstep
    obtain ⟨-, rfl⟩ := hstep
    refine hm.shrink rfl rfl rfl List.erase_subset fun h' hh' => ?_
    rw [isAlive_iff] at hh' ⊢
    obtain hh' | ⟨y, hy, rfl⟩ := hh'
    · exact .inl hh'
    · exact .inr ⟨y, List.mem_of_mem_erase hy, rfl⟩
  | unlock lock =>
    simp only [Memory.step, Option.ite_none_right_eq_some, Option.some.injEq] at hstep
    obtain ⟨-, rfl⟩ := hstep
    exact hm.shrink rfl rfl rfl (List.Subset.refl _) fun h' hh' => hh'

/-- Slots share their lock if they share their handler, and only then. -/
lemma lock_iff (hx : x ∈ m.slots) (hy : y ∈ m.slots) : x.lock = y.lock ↔ x.handler = y.handler := by
  obtain ⟨a, hplace, hlock⟩ := hm.known x hx
  obtain ⟨b, hplace', hlock'⟩ := hm.known y hy
  constructor
  · intro heq
    have hentry : (a, x.lock) = (b, y.lock) :=
      List.inj_on_of_nodup_map hm.once (mem_of_lookup hlock) (mem_of_lookup hlock') heq
    obtain rfl : a = b := (Prod.mk.inj hentry).1
    exact hm.apart _ _ a (isAlive_iff.mpr (.inr ⟨x, hx, rfl⟩)) (isAlive_iff.mpr (.inr ⟨y, hy, rfl⟩))
      hplace hplace'
  · intro heq
    rw [heq, hplace'] at hplace
    obtain rfl : b = a := Option.some.inj hplace
    exact Option.some.inj (hlock.symm.trans hlock')

end Sound

/-- **One lock for each instance.**  However handlers and slots come and go, and whichever addresses
are used again, two live slots have the same lock if and only if they have the same handler.

**Proof sketch.** A slot keeps its handler alive, and so no other instance can come to its address; it
keeps its lock alive, and so the table does not throw the entry out under that address.  Every lock
that the table takes in is new. -/
theorem lock_eq_iff {actions : List (Action Address)} (hrun : run step empty actions = some m)
    (hx : x ∈ m.slots) (hy : y ∈ m.slots) : x.lock = y.lock ↔ x.handler = y.handler := by
  have hm : m.Sound := run_keeps hrun sound_empty fun u v a _ hu hstep => hu.step hstep
  exact hm.lock_iff hx hy

/-- The first two instances fill slots, and both are gone in the end; the address of the first one is
used again while its lock is still alive, and its entry is dead when the third one comes. -/
def reuse : List (Action Nat) :=
  [.make (.plain 0) 0, .enter (.plain 0), .make (.plain 1) 1, .enter (.plain 1), .drop (.plain 0),
    .leave ⟨.plain 0, 0⟩, .make (.plain 2) 0, .enter (.plain 2), .unlock 0, .enter (.plain 2),
    .drop (.plain 1), .leave ⟨.plain 1, 1⟩, .unlock 1, .make (.engine 0) 1, .enter (.engine 0),
    .enter (.engine 0)]

/-- Slots of different instances, of which one is at an address that was used before. -/
theorem lock_eq_iff_of_reuse : ∃ m, run step empty reuse = some m ∧
    ⟨.plain 2, 0⟩ ∈ m.slots ∧ ⟨.engine 0, 4⟩ ∈ m.slots ∧ ((0 : LockId) = 4 ↔ HandlerRef.plain 2 = .engine 0) := by
  obtain ⟨m, hm⟩ := Option.isSome_iff_exists.mp
    (by decide +kernel : (run step (empty : Memory Nat) reuse).isSome = true)
  have hslots : (run step (empty : Memory Nat) reuse).map Memory.slots =
      some [⟨.plain 2, 0⟩, ⟨.plain 2, 0⟩, ⟨.engine 0, 4⟩, ⟨.engine 0, 4⟩] := by decide +kernel
  rw [hm, Option.map_some, Option.some.injEq] at hslots
  have hx : (⟨.plain 2, 0⟩ : Slot) ∈ m.slots := by simp [hslots]
  have hy : (⟨.engine 0, 4⟩ : Slot) ∈ m.slots := by simp [hslots]
  exact ⟨m, hm, hx, hy, lock_eq_iff hm hx hy⟩

end Memory

namespace System

variable {s : System} {h : HandlerRef} {locks : SerialLocks HandlerRef}

/-- All handlers that were ever made. -/
def instances (s : System) : List HandlerRef :=
  (List.range s.handlers.length).map .plain ++ (List.range s.engines.length).map .engine

/-- The slots of a system with one of its tables, in a memory where every instance is its own address
and somebody always refers to it. -/
def memory (s : System) (locks : SerialLocks HandlerRef) : Memory HandlerRef where
  places := s.instances.map fun h => (h, h)
  references := s.instances
  slots := s.slots
  parting := []
  locks := locks
  lockCount := s.lockCount

/-- **The slots that systems make** are made in the same way: a new slot of a router, or of a group
that shares its locks, is what `Memory.Action.enter` makes. -/
theorem sharedSlot_step (hmem : h ∈ s.instances) :
    ∃ locks' t, (sharedSlot locks h).on s = (.ok (s.slots.length + 1, locks'), t) ∧
      Memory.step (s.memory locks) (.enter h) = some (t.memory locks') := by
  have hlookup : (s.memory locks).places.lookup h = some h := List.lookup_graph (fun h => h) hmem
  have halive : (s.memory locks).isAlive h = true := Memory.isAlive_iff.mpr (.inl hmem)
  have hlock : (s.memory locks).lockAlive = s.lockAlive := by
    funext lock
    simp [Memory.lockAlive, memory, Assembly.lockAlive]
  refine ⟨_, _, rfl, ?_⟩
  simp only [Memory.step, hlookup, halive, if_true, Memory.entered, hlock]
  rfl

end System

end NamespaceLogging
