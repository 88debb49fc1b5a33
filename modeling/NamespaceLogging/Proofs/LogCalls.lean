import NamespaceLogging.Proofs.Programs

/-!
# What log calls do

A log call that its router lets through becomes a record, and the record goes where the namespace of
the call leads.  This module says in equations what that does to the system, up to the point where a
handler is called.

## Main definitions

* `System.snapshot`: the record that a log call makes.
* `System.admitted`: the state in which that record is passed on.
* `System.gate?`: the gate in a slot.
* `System.receipts`: which slots were given which record, but for gates.

## Main results

* `System.on_log_of_enabled`: a log call passes its record on, once.
* `System.on_invoke_gate`: a gate passes a record on, or stops it.
-/

set_option autoImplicit false

namespace NamespaceLogging

open Act

/-- Where a route leads that was found by a router with these default handlers. -/
def Route.destination (defaults : GroupId) : Route → Destination
  | .slot id => .slot id
  | .defaults => .group defaults

namespace System

/-! ## Records -/

/-- The record that a log call makes, with the call stack if the router wants it. -/
def snapshot (s : System) (capture : Bool) (call : LogCall) : Record :=
  ((((Record.make call.level call.template s.clock s.thread.display).withArgs call.args).withCause
    call.cause).withSite call.site).withStack
      (if capture then (Backtrace.trimmed s.overhead s.callStack s.machinery).1 else [])

/-- The state after the record of a log call was made. -/
def captured (s : System) (capture : Bool) (call : LogCall) : System :=
  { s with
    records := s.records.push (s.snapshot capture call)
    overhead :=
      if capture then some (Backtrace.trimmed s.overhead s.callStack s.machinery).2
      else s.overhead }

/-- The state in which the record of a log call is passed on: the router, which is `y`, has found the
route. -/
def admitted (s : System) (r : RouterId) (y : Router) (call : LogCall) : System :=
  ((s.noted (.logged r call)).captured y.capture call).onRouter r fun z =>
    { z with registry := (y.registry.resolve call.site.namespaceName).2 }

variable {s t : System} {r : RouterId} {y : Router} {calls : Reentry} {call : LogCall}

/-- The record of a log call has the level of the call. -/
@[simp]
lemma level_snapshot (capture : Bool) (call : LogCall) :
    (s.snapshot capture call).level = call.level := rfl

/-- The record of a log call that was let through is the last one. -/
lemma record_admitted (r : RouterId) (y : Router) (call : LogCall) :
    (s.admitted r y call).records[s.records.size]? = some (s.snapshot y.capture call) :=
  Array.getElem?_push_size ..

/-- Looking up a record that is there returns it and changes nothing. -/
lemma on_record {id : RecordId} {rec : Record} (h : s.records[id]? = some rec) :
    (record id).on s = (.ok rec, s) := by
  rw [record, on_bind_of_ok on_get, on_require, h]

/-- Looking up a router that is there returns it and changes nothing. -/
lemma on_router_of_some (hy : s.routers[r]? = some y) : (router r).on s = (.ok y, s) := by
  rw [on_router, hy]

/-- Making the record of a log call returns its number, which is the next one. -/
lemma on_capture (call : LogCall) (hy : s.routers[r]? = some y) :
    (capture r call).on s = (.ok s.records.size, s.captured y.capture call) := by
  rw [capture, on_bind_of_ok (on_router_of_some hy)]
  cases hcapture : y.capture with
  | false => rfl
  | true => rfl

/-- Resolving a namespace returns where it leads, and the router remembers the route. -/
lemma on_resolve (ns : String) (hy : s.routers[r]? = some y) : (resolve r ns).on s =
    (.ok ((y.registry.resolve ns).1.destination y.defaults),
      s.onRouter r fun z => { z with registry := (y.registry.resolve ns).2 }) := by
  rw [resolve, on_bind_of_ok (on_router_of_some hy)]
  rcases hroute : y.registry.resolve ns with ⟨id | _, registry⟩ <;> rfl

/-- **A log call passes its record on**, to where its namespace leads. -/
lemma on_log_of_enabled (calls : Reentry) (hy : s.routers[r]? = some y)
    (henabled : (y.filter.any fun set => set.contains call.level) = true) :
    (log calls r call).on s =
      (dispatchTo calls
        ((y.registry.resolve call.site.namespaceName).1.destination y.defaults)
        s.records.size).on (s.admitted r y call) := by
  set u := (s.noted (.logged r call)).captured y.capture call
  have hcapture : (capture r call).on (s.noted (.logged r call)) = (.ok s.records.size, u) :=
    on_capture call hy
  have hrecord : (record s.records.size).on u = (.ok (s.snapshot y.capture call), u) :=
    on_record (Array.getElem?_push_size ..)
  have hresolve : (resolve r call.site.namespaceName).on u = _ := on_resolve _ hy
  rw [on_log calls call hy, if_pos henabled, on_bind_of_ok hcapture, dispatch, on_bind_of_ok hrecord]
  exact on_bind_of_ok hresolve _

/-- A log call that the router does not let through does nothing. -/
lemma on_log_of_disabled (calls : Reentry) (hy : s.routers[r]? = some y)
    (hdisabled : (y.filter.any fun set => set.contains call.level) = false) :
    (log calls r call).on s = (.ok (), s) := by
  rw [on_log calls call hy, if_neg (by simp [hdisabled])]

/-! ## Slots -/

/-- Looking up a slot that is there returns it and changes nothing. -/
lemma on_slot {id : SlotId} {x : Slot} (h : s.slot? id = some x) : (slot id).on s = (.ok x, s) := by
  rw [slot, on_bind_of_ok on_get, on_require, h]

/-- Looking up a handler that is there returns it and changes nothing. -/
lemma on_handler {h : HandlerId} {x : Handler} (hx : s.handlers[h]? = some x) :
    (handler h).on s = (.ok x, s) := by
  rw [handler, on_bind_of_ok on_get, on_require, hx]

/-- An act that is over returns when its panics are contained, with its value or with what it
panicked with. -/
lemma on_contain_of_over {α : Type} {act : Act α} {result : Except Stop α}
    (h : act.on s = (result, t)) (hover : isOver result = true) :
    ∃ value, act.contain.on s = (.ok value, t) := by
  rw [on_contain, h]
  rcases result with (payload | _ | _ | _) | value
  · exact ⟨_, rfl⟩
  · simp [isOver] at hover
  · simp [isOver] at hover
  · simp [isOver] at hover
  · exact ⟨_, rfl⟩

/-- A slot with a handler whose calls are not serialized. -/
lemma on_invoke (calls : Reentry) {id : SlotId} {rec : RecordId} {x : Slot} {result : Except Stop Unit}
    (hslot : s.slot? id = some x)
    (hserial : (serializes x.handler).on (s.noted (.delivered id rec)) =
      (.ok false, s.noted (.delivered id rec)))
    (hhandle : (calls.handle x.handler rec).on (s.noted (.delivered id rec)) = (result, t))
    (hover : isOver result = true) : (invoke calls id rec).on s = (.ok (), t) := by
  obtain ⟨value, hcontain⟩ := on_contain_of_over hhandle hover
  rw [invoke, on_bind_of_ok (on_slot hslot), on_bind_of_ok (on_note _), on_bind_of_ok hserial]
  simp only [Bool.false_eq_true, if_false]
  rw [on_bind_of_ok hcontain]
  rfl

/-- A lock that nobody holds is held until the act is over. -/
lemma on_holding_of_free {α : Type} {act : Act α} {result : Except Stop α} {lock : LockId}
    (hfree : lock ∉ s.held) (hact : act.on { s with held := lock :: s.held } = (result, t)) :
    (holding lock act).on s =
      (result, if isOver result then { t with held := t.held.erase lock } else t) := by
  have hnone : s.held.contains lock = false := by simpa using hfree
  rw [holding, on_bind_of_ok on_get]
  simp only [hnone, Bool.false_eq_true, if_false]
  rw [on_bind_of_ok (on_modify _), on_after, hact]

/-- A lock is let go again when the act is over. -/
lemma on_holding {α : Type} {act : Act α} {result : Except Stop α} {lock : LockId}
    (hfree : lock ∉ s.held) (hact : act.on { s with held := lock :: s.held } = (result, t))
    (hover : isOver result = true) :
    (holding lock act).on s = (result, { t with held := t.held.erase lock }) := by
  rw [on_holding_of_free hfree hact, if_pos hover]

/-- A router that is kept alive is let go again when the act is over. -/
lemma on_keeping {α : Type} {act : Act α} {result : Except Stop α}
    (hact : act.on { s with inUse := r :: s.inUse } = (result, t)) (hover : isOver result = true) :
    (keeping r act).on s = (result, { t with inUse := t.inUse.erase r }) := by
  rw [keeping, on_bind_of_ok (on_modify _), on_after]
  simp only [hact, hover, if_true]

/-- A slot with a handler whose calls are serialized by the lock of the slot. -/
lemma on_invoke_serialized (calls : Reentry) {id : SlotId} {rec : RecordId} {x : Slot}
    {result : Except Stop Unit} (hslot : s.slot? id = some x)
    (hserial : (serializes x.handler).on (s.noted (.delivered id rec)) =
      (.ok true, s.noted (.delivered id rec)))
    (hfree : x.lock ∉ s.held)
    (hhandle : (calls.handle x.handler rec).on
      { s.noted (.delivered id rec) with held := x.lock :: s.held } = (result, t))
    (hover : isOver result = true) :
    (invoke calls id rec).on s = (.ok (), { t with held := t.held.erase x.lock }) := by
  obtain ⟨value, hcontain⟩ := on_contain_of_over hhandle hover
  have hholding := on_holding (s := s.noted (.delivered id rec)) hfree hcontain rfl
  rw [invoke, on_bind_of_ok (on_slot hslot), on_bind_of_ok (on_note _), on_bind_of_ok hserial]
  simp only [if_true]
  rw [on_bind_of_ok hholding]
  rfl

/-! ## Gates -/

/-- The levels that the gate in a slot lets through, if there is a gate. -/
def gate? (s : System) (id : SlotId) : Option LevelSet :=
  match (s.slot? id).map Slot.handler with
  | some (.plain h) =>
    match s.handlers[h]? with
    | some (.gate filter _) => some filter
    | _ => none
  | _ => none

/-- Which slots were given which record, but for gates. -/
def receipts (s : System) (entries : List Entry) : List (SlotId × RecordId) :=
  entries.filterMap fun
    | .delivered id rec => if (s.gate? id).isSome then none else some (id, rec)
    | _ => none

/-- In a slot stands a gate before a group. -/
def Gated (s : System) (id : SlotId) (filter : LevelSet) (g : GroupId) : Prop :=
  ∃ h lock, s.slot? id = some ⟨.plain h, lock⟩ ∧ s.handlers[h]? = some (.gate filter g)

variable {id : SlotId} {filter : LevelSet} {g : GroupId} {rec : RecordId} {record' : Record}

/-- The levels that a gate lets through are found by its slot. -/
lemma Gated.gate? (h : s.Gated id filter g) : s.gate? id = some filter := by
  obtain ⟨h, lock, hslot, hhandler⟩ := h
  simp [System.gate?, hslot, hhandler]

/-- What slots were given by some entries and by more of them adds up, in order. -/
@[simp]
lemma receipts_append (entries entries' : List Entry) :
    s.receipts (entries ++ entries') = s.receipts entries ++ s.receipts entries' :=
  List.filterMap_append

/-- **A gate passes a record on to its group**, or stops it; whatever happens behind it comes to its
end. -/
lemma on_invoke_gate {depth : Nat} (hgate : s.Gated id filter g) (hrec : s.records[rec]? = some record')
    (hbehind : filter.contains record'.level = true →
      (dispatchGroup (.upTo depth) g rec).on (s.noted (.delivered id rec)) = (.ok (), t))
    (hstopped : filter.contains record'.level = false → t = s.noted (.delivered id rec)) :
    (invoke (.upTo (depth + 1)) id rec).on s = (.ok (), t) := by
  obtain ⟨h, lock, hslot, hhandler⟩ := hgate
  set u := s.noted (.delivered id rec)
  have hhandler' : (handler h).on u = (.ok (.gate filter g), u) := on_handler hhandler
  have hserial : (serializes (.plain h)).on u = (.ok false, u) := on_bind_of_ok hhandler' _
  have hrecord : (record rec).on u = (.ok record', u) := on_record hrec
  have hhandle : ((Reentry.upTo (depth + 1)).handle (.plain h) rec).on u = (.ok (), t) := by
    change (handlePlain (.upTo depth) h rec).on u = _
    rw [handlePlain, on_bind_of_ok hhandler']
    simp only
    rw [on_bind_of_ok hrecord]
    cases hpass : filter.contains record'.level with
    | true => exact hbehind hpass
    | false =>
      rw [hstopped hpass]
      rfl
  exact on_invoke (.upTo (depth + 1)) hslot hserial hhandle rfl

end System

end NamespaceLogging
