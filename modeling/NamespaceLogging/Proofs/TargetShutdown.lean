import NamespaceLogging.Proofs.LastFlush
import NamespaceLogging.Proofs.TargetLines

/-!
# The end of a router with a target

When a router is shut down, its engine is stopped and its handlers are told of the end.  Nothing waits
by then, so that nothing more is written; and no log call is let through afterwards.

## Main definitions

* `System.Idles`: nothing happened but what is in the journal.
* `System.Spent`: a slot whose handler has nothing left to do.

## Main results

* `System.on_dieAll_of_spent`: telling such slots of the end.
* `System.Writing.shutdown`: a router at work is shut down without writing anything.
-/

set_option autoImplicit false

namespace NamespaceLogging

open Act Namespace

namespace System

variable {s t u : System} {r : RouterId} {y z : Router} {st : Settings} {d id : SlotId} {e : EngineId}
  {x : Engine} {sink : StreamSink} {outlet : Outlet} {calls : Reentry} {lock : LockId}

/-! ## Slots with nothing left to do -/

/-- Nothing happened but what was written into the journal. -/
structure Idles (s t : System) : Prop where
  aside : s.Aside t
  engines : t.engines = s.engines
  media : t.media = s.media

/-- A system in which nothing happens idles. -/
lemma Idles.refl (s : System) : s.Idles s := ⟨.refl s, rfl, rfl⟩

/-- A system that idles for some time and then for some more idles all the time. -/
lemma Idles.trans (hst : s.Idles t) (htu : t.Idles u) : s.Idles u :=
  ⟨hst.aside.trans htu.aside, htu.engines.trans hst.engines, htu.media.trans hst.media⟩

/-- A system idles when an entry is noted by which no slot is given a record. -/
lemma idles_noted {entry : Entry} (h : s.receipts [entry] = []) : s.Idles (s.noted entry) :=
  ⟨aside_noted h, rfl, rfl⟩

/-- A lock was held meanwhile. -/
lemma Idles.of_holding (h : Idles { s with held := lock :: s.held } t) :
    s.Idles { t with held := t.held.erase lock } where
  aside := {
    handlers := h.aside.handlers
    slots := h.aside.slots
    groups := h.aside.groups
    routers := h.aside.routers
    held := by
      have hheld : t.held = lock :: s.held := h.aside.held
      simp [hheld]
    lockCount := h.aside.lockCount
    alive := h.aside.alive
    reaches := h.aside.reaches }
  engines := h.engines
  media := h.media

/-- The handler in a slot is a gate, or an engine that has closed and for which nothing waits. -/
inductive Spent (s : System) (id : SlotId) : Prop
  | gate {filter : LevelSet} {g : GroupId} (gated : s.Gated id filter g)
  | engine {e : EngineId} {lock : LockId} {x : Engine} (slot : s.slot? id = some ⟨.engine e, lock⟩)
      (engine : s.engines[e]? = some x) (closed : x.closed = true) (queue : x.queue = [])
      (drainer : x.drainer = none)

/-- Whether a slot is spent depends on handlers, slots and engines alone. -/
lemma Spent.of_same (h : s.Spent id) (hhandlers : t.handlers = s.handlers) (hslots : t.slots = s.slots)
    (hengines : t.engines = s.engines) : t.Spent id := by
  cases h with
  | gate gated => exact .gate (gated.extend (hhandlers ▸ List.prefix_rfl) (hslots ▸ List.prefix_rfl))
  | engine slot engine closed queue drainer =>
    exact .engine ((slot?_congr hslots id).trans slot) (hengines ▸ engine) closed queue drainer

/-- An engine that has closed drops what waits. -/
lemma on_drain_of_closed (calls : Reentry) (hx : s.engines[e]? = some x) (hclosed : x.closed = true) :
    (drain calls e).on s =
      (.ok x.queue.length, (s.onEngine e Engine.takeAll).noted (.discarded e x.queue)) := by
  rw [drain, on_bind_of_ok (on_engine_of_some hx)]
  simp only [hclosed, if_true]
  rw [on_bind_of_ok (on_discardQueue hx)]
  rfl

/-- A drain that finds nothing is the last one. -/
lemma on_drainAll_of_zero (rounds : Nat) (h : (drain calls e).on s = (.ok 0, t)) :
    (drainAll calls e (rounds + 1)).on s = (.ok (), t) := by
  rw [drainAll, on_bind_of_ok h]
  rfl

/-- Changing an engine into what it is changes nothing. -/
lemma engines_onEngine_of_eq {f : Engine → Engine} (hx : s.engines[e]? = some x) (hf : f x = x) :
    (s.onEngine e f).engines = s.engines := by
  refine List.ext_getElem? fun i => ?_
  by_cases hi : e = i
  · subst hi
    rw [engines_onEngine_self hx, hf, hx]
  · exact engines_onEngine_of_ne hi

/-- Flushing an engine that has closed and for which nothing waits. -/
lemma on_flush_of_spent (depth : Nat) (hx : s.engines[e]? = some x) (hclosed : x.closed = true)
    (hqueue : x.queue = []) (hdrainer : x.drainer = none) :
    ∃ t, (flush (.upTo (depth + 1)) e).on s = (.ok (), t) ∧ s.Idles t := by
  set u := s.onEngine e (Engine.beginDrain s.thread.id)
  set v := (u.onEngine e Engine.takeAll).noted (.discarded e [])
  have hdrain : (drain (.upTo (depth + 1)) e).on u = (.ok 0, v) := by
    have h := on_drain_of_closed (.upTo (depth + 1)) (s := u) (engines_onEngine_self hx) hclosed
    simpa [Engine.beginDrain, hqueue] using h
  have hflush : (flush (.upTo (depth + 1)) e).on s = (.ok (), v.onEngine e Engine.endDrain) := by
    rw [flush, whenDraining, on_bind_of_ok (on_engine_of_some hx)]
    simp only [hdrainer]
    exact on_asDrainer (on_drainAll_of_zero depth hdrain)
  refine ⟨_, hflush, ?_, ?_, rfl⟩
  · have hu : s.Aside u := aside_onEngine e _
    exact hu.trans ((aside_onEngine e _).trans ((aside_noted rfl).trans (aside_onEngine e _)))
  · have hsame : (x.beginDrain s.thread.id).takeAll.endDrain = x := by
      obtain ⟨sink, threshold, state, queue, drainer⟩ := x
      cases hqueue
      cases hdrainer
      rfl
    rw [← engines_onEngine_of_eq (f := Engine.endDrain ∘ Engine.takeAll ∘ Engine.beginDrain s.thread.id)
      hx hsame]
    simp [v, u, onEngine, noted, List.modify_modify_eq]

/-- **Telling a slot of the end** whose handler has nothing left to do. -/
lemma Spent.on_dieSlot (depth : Nat) (h : s.Spent id) (hfree : s.held = []) :
    ∃ t, (dieSlot (.upTo (depth + 1)) id).on s = (.ok (), t) ∧ s.Idles t := by
  set u := s.noted (.dying id)
  have hu : s.Idles u := idles_noted rfl
  have hdie : ∀ (handler : HandlerRef) (lock : LockId) (t : System),
      s.slot? id = some ⟨handler, lock⟩ →
      (prepareToDie (.upTo (depth + 1)) handler).on { u with held := lock :: u.held } = (.ok (), t) →
      Idles { u with held := lock :: u.held } t →
      ∃ t, (dieSlot (.upTo (depth + 1)) id).on s = (.ok (), t) ∧ s.Idles t := by
    intro handler lock t hslot hprepare hidles
    have hnotHeld : lock ∉ u.held := by
      change lock ∉ s.held
      simp [hfree]
    refine ⟨_, ?_, hu.trans hidles.of_holding⟩
    rw [dieSlot, on_bind_of_ok (on_slot hslot), on_bind_of_ok (on_note _)]
    exact on_holding hnotHeld hprepare rfl
  cases h with
  | gate gated =>
    obtain ⟨h, lock, hslot, hhandler⟩ := gated
    set v : System := { u with held := lock :: u.held }
    have hhandler' : (handler h).on v = (.ok _, v) := on_handler hhandler
    refine hdie _ lock _ hslot ?_ (.refl _)
    rw [prepareToDie, on_bind_of_ok hhandler']
    rfl
  | @engine e lock x hslot hx hclosed hqueue hdrainer =>
    obtain ⟨t, hflush, hidles⟩ := on_flush_of_spent (s := { u with held := lock :: u.held }) depth hx
      hclosed hqueue hdrainer
    exact hdie _ lock t hslot hflush hidles

/-- **Telling slots of the end** whose handlers have nothing left to do.

**Proof sketch.** Induction on the slots.  What is done for one of them leaves the others as they are. -/
lemma on_dieAll_of_spent (depth : Nat) : ∀ {ids : List SlotId} {s : System},
    (∀ id ∈ ids, s.Spent id) → s.held = [] →
      ∃ t, (dieAll (.upTo (depth + 1)) ids).on s = (.ok (), t) ∧ s.Idles t
  | [], s, _, _ => ⟨s, rfl, .refl s⟩
  | id :: ids, s, hspent, hfree => by
    obtain ⟨u, hfirst, hsu⟩ := (hspent id List.mem_cons_self).on_dieSlot depth hfree
    have hspent' : ∀ id ∈ ids, u.Spent id := fun id' hmem =>
      (hspent id' (List.mem_cons_of_mem _ hmem)).of_same hsu.aside.handlers hsu.aside.slots hsu.engines
    obtain ⟨t, hrest, hut⟩ := on_dieAll_of_spent depth hspent' (hsu.aside.held.trans hfree)
    refine ⟨t, ?_, hsu.trans hut⟩
    rw [dieAll, on_bind_of_ok hfirst]
    exact hrest

/-! ## Shutting down -/

/-- **Stopping an engine** whose target was opened and for which nothing waits: it leaves its router
and closes, and nothing is written. -/
lemma on_stopEngine_of_opened (depth : Nat) (hx : s.engines[e]? = some (servingEngine st sink r d))
    (hsink : sink.Opened st outlet) (hy : s.routers[r]? = some y)
    (hdefaults : y.defaults < s.groups.length) :
    ∃ t x, (stopEngine (.upTo (depth + 1)) e).on s = (.ok (), t) ∧
      (s.left e (servingEngine st sink r d) .asked).Aside t ∧ t.media = s.media ∧
      t.engines[e]? = some x ∧ x.closed = true ∧ x.queue = [] ∧ x.drainer = none := by
  set w := servingEngine st sink r d
  set s₁ := s.left e w .asked
  have hdeactivate : (deactivate e .asked).on s = (.ok true, s₁) := by
    refine on_deactivate .asked hx rfl rfl fun r' hr' => ?_
    obtain rfl : r = r' := Option.some.inj hr'
    exact ⟨y, hy, hdefaults⟩
  set s₂ := s₁.onEngine e (Engine.beginDrain s₁.thread.id)
  have hx₂ := engines_onEngine_self (f := Engine.beginDrain s₁.thread.id) (engine_left hx .asked)
  have hdrain : (drainAll (.upTo (depth + 1)) e (depth + 1)).on s₂ = (.ok (), s₂) :=
    on_drainAll_of_zero depth (on_drain_of_nil _ hx₂ rfl rfl)
  have hstream : (w.deactivate.beginDrain s₁.thread.id).sink = .stream sink := rfl
  obtain ⟨s₃, hclose, haside, hmedia, hx₃⟩ :=
    on_close_of_stream (s := s₂) (.upTo (depth + 1)) hx₂ hstream
  have hlast : (do drainAll (.upTo (depth + 1)) e (Reentry.upTo (depth + 1)).rounds
                   close (.upTo (depth + 1)) e : Act Unit).on s₂ = (.ok (), s₃) :=
    (on_bind_of_ok hdrain _).trans hclose
  refine ⟨s₃.onEngine e Engine.endDrain, _, ?_, ?_, ?_, engines_onEngine_self hx₃, rfl, rfl, rfl⟩
  · rw [on_stopEngine_of_left _ hx rfl hdeactivate]
    exact on_asDrainer hlast
  · have hbegin : s₁.Aside s₂ := aside_onEngine e _
    exact hbegin.trans (haside.trans (aside_onEngine e _))
  · change s₃.media = s.media
    rw [hmedia, StreamSink.stop_of_make hsink.writer]
    rfl

/-- Clearing the registrations of a router returns their slots, and leaves none registered. -/
lemma on_clearRegistry (hy : s.routers[r]? = some y) : (clearRegistry r).on s =
    (.ok y.registry.clear.1,
      s.onRouter r fun z => { z with registry := y.registry.clear.2 }) := by
  rw [clearRegistry, on_bind_of_ok (on_router_of_some hy)]
  rfl

/-- The shutdown of a router that was up goes on when the router is dark. -/
lemma on_shutdown_of_up (hy : s.routers[r]? = some y) (hup : y.shutDown = false) :
    (shutdown calls r).on s = (do
      stopAll calls y.aspects
      let members ← takeMembers y.defaults
      note (.cleared r members)
      dieAll calls members
      dieAll calls (← clearRegistry r) : Act Unit).on (s.onRouter r Router.shut) := by
  rw [shutdown, on_bind_of_ok (on_router_of_some hy)]
  simp only [hup, Bool.not_false, if_true]
  exact on_bind_of_ok (on_modify _) _

/-- The shutdown of a router, up to the point where the registered handlers are told. -/
lemma on_shutdown {members : List SlotId} (hy : s.routers[r]? = some y)
    (hrunning : y.shutDown = false)
    (hstop : (stopAll calls y.aspects).on (s.onRouter r Router.shut) = (.ok (), t))
    (hmembers : t.groups[y.defaults]? = some members)
    (hdie : (dieAll calls members).on
      ((t.onGroup y.defaults fun _ => []).noted (.cleared r members)) = (.ok (), u))
    (hz : u.routers[r]? = some z) : (shutdown calls r).on s =
      (dieAll calls z.registry.clear.1).on
        (u.onRouter r fun z' => { z' with registry := z.registry.clear.2 }) := by
  rw [on_shutdown_of_up hy hrunning, on_bind_of_ok hstop, on_bind_of_ok (on_takeMembers hmembers),
    on_bind_of_ok (on_note _), on_bind_of_ok hdie, on_bind_of_ok (on_clearRegistry hz)]

/-- **A router at work is shut down** without writing anything, and lets no log call through any more.

**Proof sketch.** The engine, for which nothing waits, is stopped.  Those who are told of the end are
the engine, if it is still a default handler, and the gates; none of them has anything left to do. -/
lemma Writing.shutdown (h : s.Writing r st sink outlet d e y) (depth : Nat) :
    ∃ t z, (shutdown (.upTo (depth + 1)) r).on s = (.ok (), t) ∧ t.media = s.media ∧
      t.routers[r]? = some z ∧ z.filter = none := by
  set s₁ := s.onRouter r Router.shut
  have hy : s₁.routers[r]? = some y.shut := router_onRouter h.arranged.router _
  obtain ⟨lock, hslot⟩ := h.slot
  obtain ⟨s₂, x, hstop, haside, hmedia, hx, hclosed, hqueue, hdrainer⟩ :=
    on_stopEngine_of_opened (s := s₁) depth h.engine h.opened hy
      (List.getElem?_eq_some_iff.mp h.members).1
  have hstopAll : (stopAll (.upTo (depth + 1)) y.aspects).on s₁ = (.ok (), s₂) := by
    rw [h.aspects, stopAll, on_bind_of_ok hstop]
    rfl
  have hpassage : Passage r s₁ s₂ [] := (passage_left hy rfl rfl .asked).after haside
  obtain ⟨z, hz, hyz⟩ := hpassage.router _ hy
  -- the default handlers are told: the engine, if it is still there
  obtain ⟨members, hmembers, honly⟩ :=
    members_left (e := e) (x := servingEngine st sink r d) hy rfl rfl .asked h.members
  rw [← haside.groups] at hmembers
  set s₃ := (s₂.onGroup y.defaults fun _ => []).noted (.cleared r members)
  have hspent : ∀ id ∈ members, s₃.Spent id := by
    intro id hmem
    obtain rfl := honly id hmem
    exact .engine ((slot?_congr (s := s) hpassage.slots id).trans hslot) hx hclosed hqueue hdrainer
  obtain ⟨s₄, hdefaults, hidles⟩ := on_dieAll_of_spent depth hspent (hpassage.held.trans h.free)
  have hz₄ : s₄.routers[r]? = some z := hidles.aside.routers ▸ hz
  -- the gates are told
  set s₅ := s₄.onRouter r fun z' => { z' with registry := z.registry.clear.2 }
  have hhandlers : s₅.handlers = s.handlers := hidles.aside.handlers.trans hpassage.handlers
  have hslots : s₅.slots = s.slots := hidles.aside.slots.trans hpassage.slots
  have hgates : ∀ id ∈ z.registry.clear.1, s₅.Spent id := by
    intro id hmem
    obtain ⟨entry, hentry, rfl⟩ := List.mem_map.mp hmem
    obtain ⟨level, hgated⟩ := h.arranged.guards.gates entry (hyz.entries ▸ hentry)
    exact .gate (hgated.extend (hhandlers ▸ List.prefix_rfl) (hslots ▸ List.prefix_rfl))
  obtain ⟨s₆, hregistered, hidles'⟩ := on_dieAll_of_spent depth hgates
    (hidles.aside.held.trans (hpassage.held.trans h.free))
  refine ⟨s₆, { z with registry := z.registry.clear.2 }, ?_, ?_, ?_, hyz.filter⟩
  · rw [on_shutdown h.arranged.router h.running hstopAll hmembers hdefaults hz₄]
    exact hregistered
  · rw [hidles'.media]
    exact hidles.media.trans hmedia
  · rw [hidles'.aside.routers]
    exact router_onRouter hz₄ _

end System

end NamespaceLogging
