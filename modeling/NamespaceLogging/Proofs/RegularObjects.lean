import NamespaceLogging.Proofs.Regular
import NamespaceLogging.System.Lifecycle

/-!
# Regular acts on objects

Reading and changing objects other than engines, making new ones, passing records on, and what
routers do without an engine.

## Main results

* `System.regular_note`, `System.regular_updateRouter`, `System.regular_newRouter`: single acts.
* `System.regular_invoke`, `System.regular_dispatchTo`: a record is passed on.
* `System.regular_log`: a log call.
-/

set_option autoImplicit false

namespace NamespaceLogging

open Act

namespace System

variable {s t : System}

/-! ## What no engine notices -/

/-- A change of anything but engines, slots, groups, routers and the journal. -/
lemma quiet_of_eq (hengines : t.engines = s.engines) (hslots : t.slots = s.slots)
    (hgroups : t.groups = s.groups) (hrouters : t.routers = s.routers)
    (hjournal : t.journal = s.journal) : Quiet s t where
  engines := hengines
  journal := hjournal
  slots := hslots ▸ List.prefix_rfl
  groups := ⟨0, by simp [hgroups]⟩
  routerCount := by rw [hrouters]
  routers r y z hy hz := by
    rw [hrouters] at hz
    obtain rfl : y = z := Option.some.inj (hy.symm.trans hz)
    exact ⟨rfl, rfl, rfl, fun h => h⟩

/-- Two stretches of time in which nothing happened that matters to engines make one. -/
lemma Quiet.trans {u : System} (hst : Quiet s t) (htu : Quiet t u) : Quiet s u where
  engines := htu.engines.trans hst.engines
  journal := htu.journal.trans hst.journal
  slots := hst.slots.trans htu.slots
  groups := by
    obtain ⟨m, hm⟩ := hst.groups
    obtain ⟨n, hn⟩ := htu.groups
    exact ⟨m + n, by rw [hn, hm, List.append_assoc, List.replicate_append_replicate]⟩
  routerCount := htu.routerCount.trans hst.routerCount
  routers r y w hy hw := by
    obtain ⟨z, hz, hyz⟩ := hst.neutral.router_forth hy
    have hzw := htu.routers r z w hz hw
    exact ⟨hzw.defaults.trans hyz.defaults, hzw.aspects.trans hyz.aspects,
      hzw.shutDown.trans hyz.shutDown, hzw.filter ∘ hyz.filter⟩

/-- A router may be changed quietly, as long as it keeps its group, its engines, its mark and a filter. -/
lemma quiet_onRouter {f : Router → Router} (r : RouterId) (hf : ∀ y : Router, y.Keeps (f y)) :
    Quiet s (s.onRouter r f) where
  engines := rfl
  journal := rfl
  slots := List.prefix_rfl
  groups := ⟨0, by simp [onRouter]⟩
  routerCount := List.length_modify ..
  routers r' y z hy hz := by
    rw [onRouter, List.getElem?_modify, hy, Option.map_eq_map, Option.map_some,
      Option.some.injEq] at hz
    rw [← hz]
    split
    · exact hf y
    · exact ⟨rfl, rfl, rfl, fun h => h⟩

/-- An act that makes a quiet change and returns nothing is regular. -/
lemma regular_modify {f : System → System} (hf : ∀ s, Quiet s (f s)) :
    (modify f : Act Unit).Regular :=
  fun s => regularAt_of_quiet (hf s)

/-- An act that makes a quiet change and returns a result is regular. -/
lemma regular_modifyGet {α : Type} {f : System → α × System} (hf : ∀ s, Quiet s (f s).2) :
    (modifyGet f : Act α).Regular :=
  fun s => regularAt_of_quiet (hf s)

/-! ## Single acts -/

/-- Looking a record up only reads the state. -/
lemma regular_record (id : RecordId) : (record id).Regular :=
  regular_get fun s => regular_require _ _ s

/-- Looking a handler up only reads the state. -/
lemma regular_handler (id : HandlerId) : (handler id).Regular :=
  regular_get fun s => regular_require _ _ s

/-- Looking an engine up only reads the state. -/
lemma regular_engine (id : EngineId) : (engine id).Regular :=
  regular_get fun s => regular_require _ _ s

/-- Looking a slot up only reads the state. -/
lemma regular_slot (id : SlotId) : (slot id).Regular :=
  regular_get fun s => regular_require _ _ s

/-- Looking the members of a group up only reads the state. -/
lemma regular_group (id : GroupId) : (group id).Regular :=
  regular_get fun s => regular_require _ _ s

/-- Looking a router up only reads the state. -/
lemma regular_router (id : RouterId) : (router id).Regular :=
  regular_get fun s => regular_require _ _ s

/-- Looking up a stream sink that belongs to no engine only reads the state. -/
lemma regular_stream (id : StreamId) : (stream id).Regular :=
  regular_get fun s => regular_require _ _ s

/-- Changing a record is a quiet change: no engine depends on it. -/
lemma regular_updateRecord (id : RecordId) (change : Record → Record) :
    (updateRecord id change).Regular :=
  regular_modify fun _ => quiet_of_eq rfl rfl rfl rfl rfl

/-- Changing a handler that is no engine is a quiet change. -/
lemma regular_updateHandler (id : HandlerId) (change : Handler → Handler) :
    (updateHandler id change).Regular :=
  regular_modify fun _ => quiet_of_eq rfl rfl rfl rfl rfl

/-- Changing a stream sink that belongs to no engine is a quiet change. -/
lemma regular_updateStream (id : StreamId) (change : StreamSink → StreamSink) :
    (updateStream id change).Regular :=
  regular_modify fun _ => quiet_of_eq rfl rfl rfl rfl rfl

/-- What is written to files and to the standard streams is no matter to engines. -/
lemma regular_setMedia (media : Media) : (setMedia media).Regular :=
  regular_modify fun _ => quiet_of_eq rfl rfl rfl rfl rfl

/-- Names are no matter to engines. -/
lemma regular_updateNames (change : Names → Names) : (updateNames change).Regular :=
  regular_modify fun _ => quiet_of_eq rfl rfl rfl rfl rfl

/-- A router is changed quietly if it keeps its group, its engines, its mark and a filter. -/
lemma regular_updateRouter {change : Router → Router} (r : RouterId)
    (hchange : ∀ y : Router, y.Keeps (change y)) : (updateRouter r change).Regular :=
  regular_modify fun _ => quiet_onRouter r hchange

/-- An entry about no engine. -/
lemma regular_note {entry : Entry} (habout : entry.engine? = none) : (note entry).Regular :=
  fun s _ => ⟨.single (.noted s entry habout), fun _ => balanced_noted habout⟩

/-- Rendering a message changes the record alone, and panics if the message cannot be written. -/
lemma regular_renderMessage (id : RecordId) : (renderMessage id).Regular := by
  refine (regular_record id).bind fun r => ?_
  refine (regular_orPanic _).bind fun r => ?_
  exact (regular_updateRecord _ _).bind fun _ => regular_pure _

/-! ## New objects -/

/-- A new record is put behind the others, which is a quiet change. -/
lemma regular_newRecord (r : Record) : (newRecord r).Regular :=
  regular_modifyGet fun _ => quiet_of_eq rfl rfl rfl rfl rfl

/-- A new handler is put behind the others, which is a quiet change. -/
lemma regular_newHandler (h : Handler) : (newHandler h).Regular :=
  regular_modifyGet fun _ => quiet_of_eq rfl rfl rfl rfl rfl

/-- A new stream sink is put behind the others, which is a quiet change. -/
lemma regular_newStream (sink : StreamSink) : (newStream sink).Regular :=
  regular_modifyGet fun _ => quiet_of_eq rfl rfl rfl rfl rfl

/-- Counting one more lock is a quiet change. -/
lemma regular_newLock : newLock.Regular :=
  regular_modifyGet fun _ => quiet_of_eq rfl rfl rfl rfl rfl

/-- A new group is put behind the others without any member, which is a quiet change. -/
lemma regular_newGroup : newGroup.Regular :=
  regular_modifyGet fun _ =>
    { engines := rfl, journal := rfl, slots := List.prefix_rfl, groups := ⟨1, rfl⟩
      routerCount := rfl
      routers := fun r y z hy hz => by
        obtain rfl : y = z := Option.some.inj (hy.symm.trans hz)
        exact ⟨rfl, rfl, rfl, fun h => h⟩ }

/-- A new slot is put behind the others, so that these keep their numbers. -/
lemma quiet_newSlot (slot : Slot) : Quiet s { s with slots := s.slots ++ [slot] } where
  engines := rfl
  journal := rfl
  slots := List.prefix_append _ _
  groups := ⟨0, by simp⟩
  routerCount := rfl
  routers r y z hy hz := by
    obtain rfl : y = z := Option.some.inj (hy.symm.trans hz)
    exact ⟨rfl, rfl, rfl, fun h => h⟩

/-- Making a new slot is regular: no group has it as a member yet. -/
lemma regular_newSlot (slot : Slot) : (newSlot slot).Regular :=
  regular_modifyGet fun _ => quiet_newSlot slot

/-- A new engine is put behind the others, and nothing was written down about it. -/
lemma regular_newEngine (sink : Sink) (threshold : UInt32) :
    (newEngine (.make sink threshold)).Regular :=
  fun s hsound => ⟨.single (.made s sink threshold), fun _ => balanced_made hsound sink threshold⟩

/-- A new router is put behind the others, with a group of its own. -/
lemma regular_newRouter (filter : LevelSet) : (newRouter filter).Regular :=
  fun s _ => ⟨.single (.founded s filter), fun _ => balanced_founded filter⟩

/-! ## Locks, threads and routers in use -/

/-- What is regular is so while a lock is held; it stalls if the lock is held already. -/
lemma regular_holding {α : Type} {act : Act α} (lock : LockId) (hact : act.Regular) :
    (holding lock act).Regular := by
  refine regular_get fun s => ?_
  split
  · refine RegularAt.bind (regular_throw _ s) fun a t hon => ?_
    simp at hon
  · refine RegularAt.bind (regular_modify (fun s => ?_) s) fun _ t _ => (hact.after_quiet fun s => ?_) t
    · exact quiet_of_eq rfl rfl rfl rfl rfl
    · exact quiet_of_eq rfl rfl rfl rfl rfl

/-- What is regular is so while a router is kept alive by the call. -/
lemma regular_keeping {α : Type} {act : Act α} (r : RouterId) (hact : act.Regular) :
    (keeping r act).Regular := by
  refine Regular.bind (regular_modify fun s => ?_) fun _ => hact.after_quiet fun s => ?_
  · exact quiet_of_eq rfl rfl rfl rfl rfl
  · exact quiet_of_eq rfl rfl rfl rfl rfl

/-- What is regular is so on a thread of its own; a name that no thread can have makes it panic at
once. -/
lemma regular_onThread {α : Type} {act : Act α} (name : Option String) (hact : act.Regular) :
    (onThread name act).Regular := by
  intro s
  unfold onThread
  split
  · refine RegularAt.bind (regular_throw _ s) fun a t hon => ?_
    simp at hon
  · refine regularAt_get ?_
    refine RegularAt.bind (regular_modify (fun s => ?_) s) fun _ t _ => (hact.after_quiet fun s => ?_) t
    · exact quiet_of_eq rfl rfl rfl rfl rfl
    · exact quiet_of_eq rfl rfl rfl rfl rfl

/-! ## Slots -/

/-- Asking whether the calls of a handler are serialized only reads the state. -/
lemma regular_serializes (h : HandlerRef) : (serializes h).Regular := by
  cases h with
  | engine e => exact regular_pure _
  | plain id =>
    refine (regular_handler id).bind fun x => ?_
    cases x <;> exact regular_pure _

/-- A slot that shares the lock of its handler is made with at most one new lock. -/
lemma regular_sharedSlot (locks : SerialLocks HandlerRef) (h : HandlerRef) :
    (sharedSlot locks h).Regular := by
  refine regular_get fun s => RegularAt.bind (regular_newLock s) fun lock t _ => ?_
  exact ((regular_newSlot _).bind fun _ => regular_pure _) t

/-- The table of locks is no engine's business. -/
lemma keeps_locks (locks : SerialLocks HandlerRef) (y : Router) :
    y.Keeps { y with locks := locks } :=
  ⟨rfl, rfl, rfl, fun h => h⟩

/-- A slot for a handler is made, and its router remembers the lock. -/
lemma regular_slotFor (r : RouterId) (h : HandlerRef) : (slotFor r h).Regular := by
  refine (regular_router r).bind fun y => (regular_sharedSlot _ h).bind fun slot => ?_
  exact (regular_updateRouter r (keeps_locks slot.2)).bind fun _ => regular_pure _

/-! ## Delivery -/

section Delivery

variable {calls : Reentry} (hcalls : calls.Regular)

include hcalls

/-- **A slot passes a record on.** -/
lemma regular_invoke (id : SlotId) (r : RecordId) : (invoke calls id r).Regular := by
  refine (regular_slot id).bind fun x => (regular_note rfl).bind fun _ => ?_
  have hcall := (hcalls.handle x.handler r).contain
  refine (regular_serializes x.handler).bind fun serial => ?_
  split
  · exact (regular_holding x.lock hcall).bind fun _ => regular_pure _
  · exact hcall.bind fun _ => regular_pure _

/-- Slots are handed a record one after the other.  The induction is on the slots. -/
lemma regular_invokeAll (r : RecordId) : ∀ ids, (invokeAll calls r ids).Regular
  | [] => regular_pure _
  | id :: ids => (regular_invoke hcalls id r).bind fun _ => regular_invokeAll r ids

/-- The members of a group, as it stands when the call begins, are handed a record. -/
lemma regular_dispatchGroup (g : GroupId) (r : RecordId) : (dispatchGroup calls g r).Regular :=
  (regular_group g).bind fun ids => regular_invokeAll hcalls r ids

/-- A record goes to one slot or to the members of a group. -/
lemma regular_dispatchTo (destination : Destination) (r : RecordId) :
    (dispatchTo calls destination r).Regular := by
  cases destination with
  | slot id => exact regular_invoke hcalls id r
  | group id => exact regular_dispatchGroup hcalls id r

end Delivery

/-! ## Groups -/

/-- Looking the members of a group up returns them, or stops if there is no such group. -/
lemma on_group (g : GroupId) : (group g).on s =
    match s.groups[g]? with
    | some members => (.ok members, s)
    | none => (.error (.missing "group"), s) := by
  simp only [group, on_bind, on_get]
  cases s.groups[g]? <;> rfl

/-- Looking a router up returns it, or stops if there is no such router. -/
lemma on_router (r : RouterId) : (router r).on s =
    match s.routers[r]? with
    | some y => (.ok y, s)
    | none => (.error (.missing "router"), s) := by
  simp only [router, on_bind, on_get]
  cases s.routers[r]? <;> rfl

/-- Two changes of a group that agree on its members. -/
lemma onGroup_congr {g : GroupId} {members : List SlotId} {f f' : List SlotId → List SlotId}
    (hmembers : s.groups[g]? = some members) (heq : f members = f' members) :
    s.onGroup g f = s.onGroup g f' := by
  have hgroups : s.groups.modify g f = s.groups.modify g f' := by
    refine List.ext_getElem? fun i => ?_
    rw [List.getElem?_modify, List.getElem?_modify]
    by_cases hi : g = i
    · subst hi
      simp [hmembers, heq]
    · simp [hi]
  simp [onGroup, hgroups]

/-- Slots are taken out of a group by hand. -/
lemma evolves_withdrawn {g : GroupId} {members : List SlotId} (keep : SlotId → Bool)
    (gone : List SlotId) (hmembers : s.groups[g]? = some members)
    (hall : ∀ id ∈ members, keep id = false → id ∈ gone) :
    s.Evolves ((s.onGroup g fun _ => members.filter keep).noted (.withdrawn gone)) := by
  have heq : s.onGroup g (fun _ => members.filter keep) =
      s.onGroup g fun members => members.filter keep := onGroup_congr hmembers rfl
  rw [heq]
  refine .single (.withdrawn s g keep gone fun members' h => ?_)
  obtain rfl : members = members' := Option.some.inj (hmembers.symm.trans h)
  exact hall

/-- Removing a member leaves all others in their order, and returns whether it was there. -/
lemma on_removeMember {g : GroupId} {members : List SlotId} (id : SlotId)
    (hmembers : s.groups[g]? = some members) : (removeMember g id).on s =
      (.ok (members.contains id), s.onGroup g fun _ => members.filter fun i => i != id) := by
  simp only [removeMember, on_bind, on_group, hmembers]
  rfl

/-- Taking out a slot that is no member changes nothing. -/
lemma onGroup_filter_of_not_mem {g : GroupId} {members : List SlotId} {id : SlotId}
    (hmembers : s.groups[g]? = some members) (hmem : id ∉ members) :
    s.onGroup g (fun _ => members.filter fun i => i != id) = s := by
  have hfilter : members.filter (fun i => i != id) = members := by
    refine List.filter_eq_self.mpr fun i hi => ?_
    simpa using fun h : i = id => hmem (h ▸ hi)
  have heq : s.onGroup g (fun _ => members.filter fun i => i != id) =
      s.onGroup g fun members => members := onGroup_congr hmembers hfilter
  rw [heq, onGroup]
  have hid : s.groups.modify g (fun members => members) = s.groups := List.modify_id _ _
  rw [hid]

/-- A slot is taken out of a group by hand, and that is written down. -/
lemma regular_withdraw (g : GroupId) (id : SlotId) : (withdraw g id).Regular := by
  intro s hsound
  cases hmembers : s.groups[g]? with
  | none =>
    have hon : (removeMember g id).on s = (.error (.missing "group"), s) := by
      simp only [removeMember, on_bind, on_group, hmembers]
    rw [withdraw, on_bind_of_error hon]
    exact ⟨.refl, fun _ => .refl s⟩
  | some members =>
    rw [withdraw, on_bind_of_ok (on_removeMember id hmembers)]
    by_cases hmem : id ∈ members
    · simp only [List.contains_iff_mem.mpr hmem, if_true]
      exact ⟨evolves_withdrawn (fun i => i != id) [id] hmembers (by simp),
        fun _ => balanced_onGroup_noted (.withdrawn [id]) rfl g _⟩
    · rw [onGroup_filter_of_not_mem hmembers hmem]
      have hcontains : members.contains id = false := by simpa using hmem
      simp only [hcontains]
      exact ⟨.refl, fun _ => .refl s⟩

/-- Taking all members returns them and leaves the group empty. -/
lemma on_takeMembers {g : GroupId} {members : List SlotId} (hmembers : s.groups[g]? = some members) :
    (takeMembers g).on s = (.ok members, s.onGroup g fun _ => []) := by
  simp only [takeMembers, on_bind, on_group, hmembers]
  rfl

/-- No members are taken from a group that does not exist, and nothing is changed. -/
lemma on_takeMembers_of_none {g : GroupId} (hmembers : s.groups[g]? = none) :
    (takeMembers g).on s = (.error (.missing "group"), s) := by
  simp only [takeMembers, on_bind, on_group, hmembers]

/-- All slots are taken out of a group by hand, and that is written down. -/
lemma regular_withdrawAll (g : GroupId) : (withdrawAll g).Regular := by
  intro s hsound
  cases hmembers : s.groups[g]? with
  | none =>
    rw [withdrawAll, on_bind_of_error (on_takeMembers_of_none hmembers)]
    exact ⟨.refl, fun _ => .refl s⟩
  | some members =>
    rw [withdrawAll, on_bind_of_ok (on_takeMembers hmembers)]
    have hevolves := evolves_withdrawn (fun _ => false) members hmembers fun id hid _ => hid
    have hnone : members.filter (fun _ => false) = [] := by simp
    rw [hnone] at hevolves
    exact ⟨hevolves, fun _ => balanced_onGroup_noted (.withdrawn members) rfl g _⟩

/-! ## Routers -/

/-- Asking a router whether a level is let through only reads the state. -/
lemma regular_isEnabled (r : RouterId) (level : Level) : (isEnabled r level).Regular :=
  (regular_router r).bind fun _ => regular_pure _

/-- Asking a router for its filter only reads the state. -/
lemma regular_levelFilter (r : RouterId) : (levelFilter r).Regular :=
  (regular_router r).bind fun _ => regular_pure _

/-- A router gets another filter, unless it is shut down; its group and its engines stay. -/
lemma regular_setFilter (r : RouterId) (filter : LevelSet) : (setFilter r filter).Regular := by
  refine (regular_router r).bind fun y => ?_
  split
  · exact regular_updateRouter r fun y => ⟨rfl, rfl, rfl, fun _ => rfl⟩
  · exact regular_pure _

/-- The registrations are no engine's business. -/
lemma keeps_registry (registry : Registry) (y : Router) : y.Keeps { y with registry := registry } :=
  ⟨rfl, rfl, rfl, fun h => h⟩

/-- Resolving a namespace changes nothing but the routes that the router keeps. -/
lemma regular_resolve (r : RouterId) (ns : String) : (resolve r ns).Regular := by
  refine (regular_router r).bind fun y => ?_
  refine (regular_updateRouter r (keeps_registry _)).bind fun _ => ?_
  split <;> exact regular_pure _

/-- Registering a handler changes nothing of a router but its registrations and its locks. -/
lemma regular_register (r : RouterId) (ns : String) (h : HandlerRef) :
    (register r ns h).Regular := by
  unfold register
  split
  · refine (regular_slotFor r h).bind fun id => (regular_router r).bind fun y => ?_
    split
    · exact (regular_updateRouter r (keeps_registry _)).bind fun _ => regular_pure _
    · exact regular_pure _
  · exact regular_pure _

/-- Taking a registration back changes nothing of a router but its registrations. -/
lemma regular_unregister (r : RouterId) (ns : String) : (unregister r ns).Regular :=
  (regular_router r).bind fun _ =>
    (regular_updateRouter r (keeps_registry _)).bind fun _ => regular_pure _

/-- Clearing the registrations of a router changes nothing else of it. -/
lemma regular_clearRegistry (r : RouterId) : (clearRegistry r).Regular :=
  (regular_router r).bind fun _ =>
    (regular_updateRouter r (keeps_registry _)).bind fun _ => regular_pure _

/-- A default handler is taken out by hand, as from any other group. -/
lemma regular_removeDefault (r : RouterId) (id : SlotId) : (removeDefault r id).Regular :=
  (regular_router r).bind fun y => regular_withdraw y.defaults id

/-- The state with one more lock, in which a router has another table of locks. -/
def relocked (s : System) (r : RouterId) (locks : SerialLocks HandlerRef) : System :=
  { s with lockCount := s.lockCount + 1 }.onRouter r fun y => { y with locks := locks }

/-- The locks that a router remembers are no matter to engines. -/
lemma quiet_relocked (r : RouterId) (locks : SerialLocks HandlerRef) : Quiet s (s.relocked r locks) :=
  (quiet_of_eq rfl rfl rfl rfl rfl : Quiet s { s with lockCount := s.lockCount + 1 }).trans
    (quiet_onRouter r (keeps_locks locks))

/-- A router that remembers other locks is the same in everything else. -/
lemma router_relocked {r : RouterId} {y : Router} (hy : s.routers[r]? = some y)
    (locks : SerialLocks HandlerRef) :
    (s.relocked r locks).routers[r]? = some { y with locks := locks } :=
  router_onRouter (s := { s with lockCount := s.lockCount + 1 }) hy _

/-- A router makes a slot for a handler once the slot has a lock. -/
lemma on_slotFor {r : RouterId} {y : Router} (h : HandlerRef) (hy : s.routers[r]? = some y) :
    ∃ lock locks, y.locks.lockFor s.lockAlive s.lockCount h = (lock, locks) ∧ (slotFor r h).on s =
      (.ok (s.slots.length + 1), { s.relocked r locks with slots := s.slots ++ [⟨h, lock⟩] }) := by
  obtain ⟨lock, locks, hlock⟩ : ∃ lock locks,
      y.locks.lockFor s.lockAlive s.lockCount h = (lock, locks) := ⟨_, _, rfl⟩
  refine ⟨lock, locks, hlock, ?_⟩
  simp only [slotFor, sharedSlot, newLock, newSlot, updateRouter, on_bind, on_router, hy, on_get,
    on_modifyGet, on_modify, on_pure, hlock]
  rfl

/-- A handler is added to the default handlers in a new slot. -/
lemma on_addDefault {r : RouterId} {y : Router} (h : HandlerRef) (hy : s.routers[r]? = some y) :
    ∃ lock locks, y.locks.lockFor s.lockAlive s.lockCount h = (lock, locks) ∧ (addDefault r h).on s =
      (.ok (s.slots.length + 1), (s.relocked r locks).enlisted y.defaults ⟨h, lock⟩) := by
  obtain ⟨lock, locks, hlock, hslot⟩ := on_slotFor h hy
  have hz : ({ s.relocked r locks with slots := s.slots ++ [⟨h, lock⟩] } : System).routers[r]? =
      some { y with locks := locks } := router_relocked hy locks
  refine ⟨lock, locks, hlock, ?_⟩
  rw [addDefault, on_bind_of_ok hslot]
  simp only [on_bind, on_router, hz, updateGroup, on_modify, on_pure]
  rfl

/-- No default handler is added to a router that does not exist, and nothing is changed. -/
lemma on_addDefault_of_none {r : RouterId} (h : HandlerRef) (hy : s.routers[r]? = none) :
    (addDefault r h).on s = (.error (.missing "router"), s) := by
  simp only [addDefault, slotFor, on_bind, on_router, hy]

/-- An act that puts a new slot into a group, and does nothing else that matters. -/
lemma regularAt_enlisted {α : Type} {act : Act α} (g : GroupId) (slot : Slot) (hquiet : Quiet s t)
    (hon : (act.on s).2 = t.enlisted g slot) : act.RegularAt s := by
  intro _
  rw [hon]
  have hstep : s.Evolves t := .single (.quiet hquiet)
  have hstep' : t.Evolves (t.enlisted g slot) := .single (.enlisted t g slot)
  exact ⟨hstep.trans hstep', fun _ =>
    hquiet.balanced.trans hstep.lasts hstep'.lasts (balanced_enlisted g slot)⟩

/-- A slot for a handler joins the default handlers of a router. -/
lemma regular_addDefault (r : RouterId) (h : HandlerRef) : (addDefault r h).Regular := by
  intro s
  cases hy : s.routers[r]? with
  | none => exact regularAt_of_eq (by rw [on_addDefault_of_none h hy])
  | some y =>
    obtain ⟨lock, locks, -, hon⟩ := on_addDefault h hy
    exact regularAt_enlisted y.defaults ⟨h, lock⟩ (quiet_relocked r locks) (by rw [hon])

/-- A handler joins a group in a slot with a lock of its own. -/
lemma regular_addOwn (g : GroupId) (h : HandlerRef) :
    (do
      let id ← ownSlot h
      updateGroup g fun members => members ++ [id]
      return .count id : Act Answer).Regular := by
  intro s
  have hquiet : Quiet s { s with lockCount := s.lockCount + 1 } := quiet_of_eq rfl rfl rfl rfl rfl
  exact regularAt_enlisted g ⟨h, s.lockCount⟩ hquiet rfl

/-- A handler joins a group in a slot with the lock of its instance. -/
lemma regular_addShared (g : GroupId) (h : HandlerRef) :
    (do
      let (id, locks) ← sharedSlot (← get).locks h
      modify fun s => { s with locks := locks }
      updateGroup g fun members => members ++ [id]
      return .count id : Act Answer).Regular := by
  intro s
  obtain ⟨lock, locks, hlock⟩ : ∃ lock locks,
      s.locks.lockFor s.lockAlive s.lockCount h = (lock, locks) := ⟨_, _, rfl⟩
  have hquiet : Quiet s { s with lockCount := s.lockCount + 1, locks := locks } :=
    quiet_of_eq rfl rfl rfl rfl rfl
  refine regularAt_enlisted g ⟨h, lock⟩ hquiet ?_
  simp only [sharedSlot, newLock, newSlot, updateGroup, on_bind, on_get, on_modifyGet, on_modify,
    on_pure, hlock]
  rfl

/-! ## Log calls -/

/-- Taking a stack only remembers how many frames belong to the machinery. -/
lemma regular_captureStack : captureStack.Regular :=
  regular_modifyGet fun _ => quiet_of_eq rfl rfl rfl rfl rfl

/-- Making the record of a log call reads the clock and the thread, and puts the record behind the
others. -/
lemma regular_makeRecord (call : LogCall) (stack : List Frame) : (makeRecord call stack).Regular :=
  regular_get fun s => regular_newRecord _ s

/-- The record of a log call is made with a stack or without one, as its router wants it. -/
lemma regular_capture (r : RouterId) (call : LogCall) : (capture r call).Regular := by
  refine (regular_router r).bind fun y => ?_
  split
  · exact regular_captureStack.bind fun _ => regular_makeRecord call _
  · exact (regular_pure _).bind fun _ => regular_makeRecord call _

section Calls

variable {calls : Reentry} (hcalls : calls.Regular)

include hcalls

/-- A record is passed on to where its namespace is resolved to. -/
lemma regular_dispatch (r : RouterId) (id : RecordId) : (dispatch calls r id).Regular :=
  (regular_record id).bind fun _ => (regular_resolve r _).bind fun destination =>
    regular_dispatchTo hcalls destination id

/-- **A log call.** -/
lemma regular_log (r : RouterId) (call : LogCall) : (log calls r call).Regular := by
  refine (regular_isEnabled r call.level).bind fun enabled => ?_
  split
  · exact (regular_note rfl).bind fun _ => (regular_capture r call).bind fun id =>
      regular_dispatch hcalls r id
  · exact regular_pure _

/-- A log call that makes its record only when the level is let through is regular. -/
lemma regular_logLazily (r : RouterId) (call : LogCall) : (logLazily calls r call).Regular := by
  refine (regular_isEnabled r call.level).bind fun enabled => ?_
  split
  · exact (regular_log hcalls r call).bind fun _ => regular_pure _
  · exact regular_pure _

end Calls

end System

end NamespaceLogging
