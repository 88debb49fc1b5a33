import NamespaceLogging.Proofs.Editing
import NamespaceLogging.Proofs.Gates

/-!
# Routers that edit

New slots, groups and registrations, records that are passed on, and log calls: all of them make one
edit after the other.

## Main results

* `System.gives_addDefault`, `System.gives_register`: a new slot has one place.
* `System.edits_invoke`, `System.edits_dispatchTo`: a record is passed on.
* `System.edits_log`: a log call.
-/

set_option autoImplicit false

namespace NamespaceLogging

open Act

/-! ## Routers that go on -/

namespace Router

/-- A router that has resolved a namespace is the same but for the routes that it keeps. -/
lemma follows_resolve (y : Router) (ns : String) :
    y.Follows { y with registry := (y.registry.resolve ns).2 } where
  defaults := rfl
  down h := h
  dark h := h
  entries := Registry.entries_resolve y.registry ns ▸ List.Sublist.refl _
  aspects := List.Sublist.refl _
  coherent := fun ⟨spaces, h⟩ => ⟨ns :: spaces, h.resolve ns⟩

/-- A router that takes a registration back. -/
lemma follows_unregister (y : Router) (ns : String) :
    y.Follows { y with registry := (y.registry.unregister ns).2 } where
  defaults := rfl
  down h := h
  dark h := h
  entries := List.filter_sublist
  aspects := List.Sublist.refl _
  coherent _ := ⟨[], Registry.coherent_of_nil rfl⟩

/-- A router that takes all registrations back. -/
lemma follows_clear (y : Router) : y.Follows { y with registry := y.registry.clear.2 } where
  defaults := rfl
  down h := h
  dark h := h
  entries := List.nil_sublist _
  aspects := List.Sublist.refl _
  coherent _ := ⟨[], Registry.coherent_of_nil rfl⟩

/-- A router that goes dark for good. -/
lemma follows_shut (y : Router) : y.Follows y.shut where
  defaults := rfl
  down _ := rfl
  dark _ _ := rfl
  entries := List.Sublist.refl _
  aspects := List.nil_sublist _
  coherent h := h

end Router

namespace System

variable {α β : Type} {secret : RecordId → Prop} {s t u : System} {r : RouterId} {g : GroupId}

/-! ## New slots -/

/-- A router learns of one more lock. -/
lemma edited_relocked {y : Router} (hy : s.routers[r]? = some y) (locks : SerialLocks HandlerRef) :
    s.Edited secret (s.relocked r locks) := by
  set t : System := { s with lockCount := s.lockCount + 1 }
  have hlock : s.Edited secret t :=
    .single (.beside (beside_of_eq rfl rfl rfl rfl rfl rfl rfl rfl rfl))
  exact hlock.tail (.routed (s := t) _ hy (Router.follows_of_same rfl rfl rfl rfl (.refl _)))

/-- A default handler that is known may be added to a router: its slot is new. -/
lemma gives_addDefault {h : HandlerRef} (hknown : s.Knows h) :
    (addDefault r h).Gives secret s fun _ _ => True := by
  cases hy : s.routers[r]? with
  | none =>
    exact gives_of_error (on_addDefault_of_none h hy) (.refl s) rfl
  | some y =>
    obtain ⟨lock, locks, -, hon⟩ := on_addDefault h hy
    exact gives_of_ok hon ((edited_relocked hy locks).tail (.enlisted _ _ hknown)) rfl trivial

/-- A handler that is known may be registered with a router: its slot is new. -/
lemma gives_register (ns : String) {h : HandlerRef} (hknown : s.Knows h) :
    (register r ns h).Gives secret s fun _ _ => True := by
  cases haccepts : Registry.accepts ns with
  | false =>
    have hon : (register r ns h).on s = (.ok (.error (.emptyNamespace ns)), s) := by
      simp [register, haccepts]
    exact gives_of_ok hon (.refl s) rfl trivial
  | true =>
    cases hy : s.routers[r]? with
    | none =>
      have hslot : (slotFor r h).on s = (.error (.missing "router"), s) := by
        simp only [slotFor, on_bind, on_router, hy]
      have hon : (register r ns h).on s = (.error (.missing "router"), s) := by
        rw [register, if_pos haccepts, on_bind_of_error hslot]
      exact gives_of_error hon (.refl s) rfl
    | some y =>
      obtain ⟨lock, locks, -, hon⟩ := on_register h hy haccepts
      have hedited : s.Edited secret ((s.relocked r locks).enrolled r
          (Namespace.normalize ns.toList) ⟨h, lock⟩) :=
        (edited_relocked hy locks).tail (.enrolled _ _ _ hknown)
      have hrouter : (s.relocked r locks).routers[r]? = some { y with locks := locks } :=
        router_relocked hy locks
      have hstate : (s.relocked r locks).enrolled r (Namespace.normalize ns.toList) ⟨h, lock⟩ =
          s.equipped r { y with
            locks := locks
            registry := ⟨Registry.insert (Namespace.normalize ns.toList) (s.slots.length + 1)
              y.registry.entries, []⟩ } [] [⟨h, lock⟩] (s.lockCount + 1) := by
        rw [System.enrolled, onRouter_eq (s := { s.relocked r locks with
          slots := (s.relocked r locks).slots ++ [⟨h, lock⟩] }) hrouter, relocked_eq hy]
        simp [equipped]
      rw [hstate] at hedited
      exact gives_of_ok hon hedited rfl trivial

/-- A handler joins a group in a slot with a lock of its own. -/
lemma gives_addOwn {h : HandlerRef} (hknown : s.Knows h) :
    (do
      let id ← ownSlot h
      updateGroup g fun members => members ++ [id]
      return .count id : Act Answer).Gives secret s fun _ _ => True := by
  set t : System := { s with lockCount := s.lockCount + 1 }
  have hlock : s.Edited secret t :=
    .single (.beside (beside_of_eq rfl rfl rfl rfl rfl rfl rfl rfl rfl))
  exact gives_of_ok (t := t.enlisted g ⟨h, s.lockCount⟩) rfl (hlock.tail (.enlisted t g hknown)) rfl
    trivial

/-- A handler joins a group in a slot with the lock of its instance. -/
lemma gives_addShared {h : HandlerRef} (hknown : s.Knows h) :
    (do
      let (id, locks) ← sharedSlot (← get).locks h
      modify fun s => { s with locks := locks }
      updateGroup g fun members => members ++ [id]
      return .count id : Act Answer).Gives secret s fun _ _ => True := by
  obtain ⟨lock, locks, hlock⟩ : ∃ lock locks,
      s.locks.lockFor s.lockAlive s.lockCount h = (lock, locks) := ⟨_, _, rfl⟩
  set t : System := { s with lockCount := s.lockCount + 1, locks := locks }
  have hedited : s.Edited secret t :=
    .single (.beside (beside_of_eq rfl rfl rfl rfl rfl rfl rfl rfl rfl))
  refine gives_of_ok (a := .count (s.slots.length + 1)) (t := t.enlisted g ⟨h, lock⟩) ?_
    (hedited.tail (.enlisted t g hknown)) rfl trivial
  simp only [sharedSlot, newLock, newSlot, updateGroup, on_bind, on_get, on_modifyGet, on_modify,
    on_pure, hlock]
  rfl

/-- Asking whether the calls of a handler are serialized makes no edit. -/
lemma edits_serializes (h : HandlerRef) : (serializes h).Edits secret := by
  cases h with
  | engine e => exact edits_pure _
  | plain id =>
    refine fun s => gives_handler fun x _ => ?_
    cases x <;> exact gives_pure trivial

/-! ## Groups -/

/-- Some members are taken out of a group that was looked at. -/
lemma gives_expel {members : List SlotId} (hmembers : s.groups[g]? = some members)
    (keep : SlotId → Bool) :
    (updateGroup g fun _ => members.filter keep).Gives secret s fun _ _ => True := by
  have hsame : s.onGroup g (fun _ => members.filter keep) =
      s.onGroup g fun members => members.filter keep := onGroup_congr hmembers rfl
  have hedited : s.Edited secret (s.onGroup g fun _ => members.filter keep) := by
    rw [hsame]
    exact .single (.expelled s g keep)
  exact gives_modify hedited rfl trivial

/-- Taking a slot out of a group is an edit: all others stay. -/
lemma edits_removeMember (g : GroupId) (id : SlotId) : (removeMember g id).Edits secret :=
  fun _ => gives_group fun _ hmembers =>
    (gives_expel hmembers _).bind fun _ _ _ _ => gives_pure trivial

/-- Taking a slot out of a group by hand, and writing it down, edits. -/
lemma edits_withdraw (g : GroupId) (id : SlotId) : (withdraw g id).Edits secret := by
  refine (edits_removeMember g id).bind fun known => ?_
  cases known with
  | true => exact (edits_note_other (by simp)).bind fun _ => edits_pure _
  | false => exact edits_pure _

/-- Taking all slots out of a group is an edit. -/
lemma edits_takeMembers (g : GroupId) : (takeMembers g).Edits secret := by
  refine fun s => gives_group fun members hmembers => ?_
  have hexpel : (updateGroup g fun _ => members.filter fun _ => false).Gives secret s
      fun _ _ => True := gives_expel hmembers fun _ => false
  rw [List.filter_eq_nil_iff.mpr (by simp)] at hexpel
  exact hexpel.bind fun _ _ _ _ => gives_pure trivial

/-- Taking all slots out of a group by hand, and writing it down, edits. -/
lemma edits_withdrawAll (g : GroupId) : (withdrawAll g).Edits secret :=
  (edits_takeMembers g).bind fun _ => (edits_note_other (by simp)).bind fun _ => edits_pure _

/-! ## Routers -/

/-- Asking a router whether a level is let through makes no edit. -/
lemma edits_isEnabled (r : RouterId) (level : Level) : (isEnabled r level).Edits secret :=
  fun _ => gives_router fun _ _ => gives_pure trivial

/-- Asking a router for its filter makes no edit. -/
lemma edits_levelFilter (r : RouterId) : (levelFilter r).Edits secret :=
  fun _ => gives_router fun _ _ => gives_pure trivial

/-- A router that was shut down is not lit again. -/
lemma edits_setFilter (r : RouterId) (filter : LevelSet) : (setFilter r filter).Edits secret := by
  refine fun s => gives_router fun y hy => ?_
  cases hup : y.shutDown with
  | true => exact gives_pure trivial
  | false =>
    refine gives_updateRouter hy ⟨⟨rfl, fun h => h, fun _ hdown => ?_⟩, .refl _, .refl _, fun h => h⟩
    rw [hup] at hdown
    simp at hdown

/-- Resolving a namespace edits: the router remembers the route. -/
lemma edits_resolve (r : RouterId) (ns : String) : (resolve r ns).Edits secret := by
  refine fun s => gives_router fun y hy => ?_
  refine Gives.bind (gives_updateRouter hy (y.follows_resolve ns)) fun _ t _ _ => ?_
  split <;> exact gives_pure trivial

/-- Taking a registration back edits: no slot becomes registered by it. -/
lemma edits_unregister (r : RouterId) (ns : String) : (unregister r ns).Edits secret :=
  fun _ => gives_router fun y hy =>
    Gives.bind (gives_updateRouter hy (y.follows_unregister ns)) fun _ _ _ _ => gives_pure trivial

/-- Clearing the registrations of a router edits: no slot is registered afterwards. -/
lemma edits_clearRegistry (r : RouterId) : (clearRegistry r).Edits secret :=
  fun _ => gives_router fun y hy =>
    Gives.bind (gives_updateRouter hy y.follows_clear) fun _ _ _ _ => gives_pure trivial

/-- Taking a default handler out of a router edits. -/
lemma edits_removeDefault (r : RouterId) (id : SlotId) : (removeDefault r id).Edits secret :=
  fun s => gives_router fun y _ => edits_withdraw y.defaults id s

/-- Detaching an engine's slot from its router edits. -/
lemma edits_detach (r : RouterId) (id : SlotId) : (detach r id).Edits secret := by
  refine fun s => gives_router fun y _ => Gives.bind (edits_removeMember y.defaults id s) fun _ t _ _ => ?_
  refine edits_updateRouter (fun y => ?_) t
  exact Router.follows_of_same rfl rfl rfl rfl List.filter_sublist

/-- The record of a log call is not secret. -/
lemma gives_capture (r : RouterId) (call : LogCall) :
    (capture r call).Gives secret s fun id t => id < t.records.size ∧ ¬ secret id := by
  refine gives_router fun y _ => ?_
  cases y.capture with
  | true => exact Gives.bind (edits_captureStack s) fun stack t _ _ => gives_makeRecord call stack
  | false => exact Gives.bind (edits_pure [] s) fun stack t _ _ => gives_makeRecord call stack

/-! ## Delivery -/

section Delivery

variable {calls : Reentry} (hcalls : calls.Edits secret) {k : RecordId} (hopen : ¬ secret k)

include hcalls hopen

/-- **A slot passes a record on.** -/
lemma edits_invoke (id : SlotId) : (invoke calls id k).Edits secret := by
  have hdelivered : (note (.delivered id k)).Edits secret :=
    edits_note fun i k' heq => by
      cases heq
      exact hopen
  refine fun s => gives_slot fun x _ => (hdelivered.bind fun _ => ?_) s
  have hcall := (hcalls.handle x.handler k hopen).contain
  refine (edits_serializes x.handler).bind fun serial => ?_
  cases serial with
  | true => exact (edits_holding x.lock hcall).bind fun _ => edits_pure _
  | false => exact hcall.bind fun _ => edits_pure _

/-- Handing slots a record that is not secret, one after the other, edits.  The induction is on the
slots. -/
lemma edits_invokeAll : ∀ ids, (invokeAll calls k ids).Edits secret
  | [] => edits_pure _
  | id :: ids => (edits_invoke hcalls hopen id).bind fun _ => edits_invokeAll ids

/-- Handing the members of a group a record that is not secret edits. -/
lemma edits_dispatchGroup (g : GroupId) : (dispatchGroup calls g k).Edits secret :=
  fun s => gives_group fun ids _ => edits_invokeAll hcalls hopen ids s

/-- Passing a record that is not secret to its destination edits. -/
lemma edits_dispatchTo (destination : Destination) : (dispatchTo calls destination k).Edits secret := by
  cases destination with
  | slot id => exact edits_invoke hcalls hopen id
  | group id => exact edits_dispatchGroup hcalls hopen id

/-- Passing a record that is not secret on by its namespace edits. -/
lemma edits_dispatch (r : RouterId) : (dispatch calls r k).Edits secret :=
  fun s => gives_record fun _ _ => ((edits_resolve r _).bind fun destination =>
    edits_dispatchTo hcalls hopen destination) s

end Delivery

section Calls

variable {calls : Reentry} (hcalls : calls.Edits secret)

include hcalls

/-- **A log call.** -/
lemma edits_log (r : RouterId) (call : LogCall) : (log calls r call).Edits secret := by
  refine (edits_isEnabled r call.level).bind fun enabled => ?_
  cases enabled with
  | true =>
    refine (edits_note_other (by simp)).bind fun _ s => Gives.bind (gives_capture r call) ?_
    exact fun id t _ h => edits_dispatch hcalls h.2 r t
  | false => exact edits_pure _

/-- A log call that makes its record only when the level is let through edits: nobody keeps a new
record secret. -/
lemma edits_logLazily (r : RouterId) (call : LogCall) : (logLazily calls r call).Edits secret := by
  refine (edits_isEnabled r call.level).bind fun enabled => ?_
  cases enabled with
  | true => exact (edits_log hcalls r call).bind fun _ => edits_pure _
  | false => exact edits_pure _

end Calls

end System

end NamespaceLogging
