import NamespaceLogging.Proofs.RouterShutdown

/-!
# Hooks that panic at the end

A panic of a handler that is given a record ends in its slot, and a batch that panics has failed.  When
a router is shut down, or an engine fails once too often, nobody contains a panic.  The first hook that
panics cuts the teardown short: what comes before it has been done, and what comes after it is never
done, since the router is dark by then and the engine has ended.

## Main definitions

* `System.Crashes`, `System.Chokes`: a shutdown hook panics, or a handler that is told of the end.
* `System.CutShort`: how far the shutdown of a router came when a hook panicked.
* `System.ShutdownEnds`: the ways in which the shutdown of a router ends.
* `System.LastFailure`: the ways in which the last failure of an engine ends.

## Main results

* `System.shutdown_of_panicked`: a shutdown that panics was cut short by one of the hooks.
* `System.lastFailure_of_countFailure`: whether the end of an engine is announced, and its queue dropped,
  depends on how its shutdown hook ends.
* `System.Passed.panics_uncontained`: both.
-/

set_option autoImplicit false

namespace NamespaceLogging

open Act History

namespace System

variable {s t u v p : System} {r : RouterId} {y z : Router} {e : EngineId} {x : Engine} {id : SlotId}
  {calls : Reentry} {payload : Payload} {error : AspectError}

/-! ## Where a hook panics -/

/-- The shutdown hook of the engine panics, and nothing is written down after that. -/
def Crashes (calls : Reentry) (e : EngineId) (payload : Payload) (t : System) : Prop :=
  ∃ w v : System, (runShutdown calls e).on (w.closing e) = (.error (.panicked payload), v) ∧
    t.history = v.history ++ [.crashed e]

/-- The handler in the slot panics when it is told of the end, under its lock. -/
def Chokes (calls : Reentry) (id : SlotId) (payload : Payload) (s t : System) : Prop :=
  ∃ x u, s.slot? id = some x ∧ x.lock ∉ s.held ∧
    (prepareToDie calls x.handler).on { s.noted (.dying id) with held := x.lock :: s.held } =
      (.error (.panicked payload), u) ∧
    t = { u with held := u.held.erase x.lock }

/-- The shutdown of the router `r`, which was `y` in the state `s`, is cut short by a hook that panics,
and the panic leaves the state `t` behind. -/
inductive CutShort (calls : Reentry) (r : RouterId) (y : Router) (s : System) (payload : Payload)
    (t : System) : Prop
  /-- The shutdown hook of an engine panics.  That engine is flushed and closed, and the ones before it
  have ended; those after it have no turn, no handler is told, and the routes are not dropped. -/
  | stopping {u : System} {before after : List EngineId} {e : EngineId} {x : Engine}
      (attached : y.aspects.map Prod.snd = before ++ e :: after)
      (stops : Stops calls (s.onRouter r Router.shut) before u)
      (engine : u.engines[e]? = some x) (active : x.state = .active)
      (call : (stopEngine calls e).on u = (.error (.panicked payload), t))
      (flushed : Flushed e u x t) (crashes : Crashes calls e payload t)
  /-- A default handler panics.  All engines have ended; the default handlers after it are not told, nor
  are those that are registered, and the routes are not dropped. -/
  | telling {u v : System} {before after : List SlotId} {id : SlotId}
      (stops : Stops calls (s.onRouter r Router.shut) (y.aspects.map Prod.snd) u)
      (group : u.groups[y.defaults]? = some (before ++ id :: after))
      (tells : Tells calls (u.dismissed r y (before ++ id :: after)) before v)
      (chokes : Chokes calls id payload v t)
  /-- A registered handler panics.  The routes were dropped before; those after it are not told. -/
  | tellingRegistered {u v w : System} {members before after : List SlotId} {id : SlotId} {z : Router}
      (stops : Stops calls (s.onRouter r Router.shut) (y.aspects.map Prod.snd) u)
      (group : u.groups[y.defaults]? = some members)
      (tells : Tells calls (u.dismissed r y members) members v)
      (router : v.routers[r]? = some z)
      (registry : z.registry.entries.map Prod.snd = before ++ id :: after)
      (tellsRegistered : Tells calls (v.unregistered r) before w)
      (chokes : Chokes calls id payload w t)

/-- How the shutdown of the router `r`, which was `y` in the state `s`, ends: it is complete, or is cut
short by a panic, or does not come to its end. -/
inductive ShutdownEnds (calls : Reentry) (r : RouterId) (y : Router) (s : System) :
    Except Stop Unit × System → Prop
  | complete {members registered : List SlotId} {u v t : System}
      (tornDown : TornDown calls r y members registered s u v t) : ShutdownEnds calls r y s (.ok (), t)
  | panicked {payload : Payload} {t : System} (cutShort : CutShort calls r y s payload t) :
      ShutdownEnds calls r y s (.error (.panicked payload), t)
  | endless {stop : Stop} {t : System} (endless : isOver (.error stop : Except Stop Unit) = false)
      (mishap : Mishap calls s stop t) : ShutdownEnds calls r y s (.error stop, t)

/-- The shutdown hook of an engine is called after its last batch has failed and the engine has left its
router.  The call ends with the result, in the state `v`. -/
def LastCall (calls : Reentry) (e : EngineId) (error : AspectError) (s : System)
    (result : Except Stop Unit) (v : System) : Prop :=
  ∃ w : System, w.history = s.history ++
      [.batchOver e (some error), .deactivated e .failing, .hook e .shutdown] ∧
    (runShutdown calls e).on w = (result, v)

/-- How the last failure of an engine, which was `x` in the state `s`, ends.  It depends on the shutdown
hook. -/
inductive LastFailure (calls : Reentry) (e : EngineId) (x : Engine) (error : AspectError) (s : System) :
    Except Stop Unit × System → Prop
  /-- The hook returns: the queue is dropped, and the end is announced, once; the router says so by a
  record, if it can be reached and was not shut down. -/
  | announced {result : Except Stop Unit} {v t : System} {z : Engine} {rest : List Entry}
      (call : LastCall calls e error s (.ok ()) v) (engine : v.engines[e]? = some z)
      (history : t.history = v.history ++
        ([.closed e, .discarded e z.queue, .disabled e (x.errors + 1) error] ++ rest))
      (record : ∀ r y, x.router = some r → s.isAlive r = true → v.routers[r]? = some y →
        y.shutDown = false → rest.head? = some (.logged r (lastRecord x.sink.name (x.errors + 1) error)))
      (once : announced e t.history = [(x.errors + 1, error)])
      (emptied : isOver result = true → ∃ y, t.engines[e]? = some y ∧ y.queue = []) :
      LastFailure calls e x error s (result, t)
  /-- The hook panics: the engine is closed, but what waited waits still, unless the hook itself has
  dropped it; the end is not announced. -/
  | silenced {payload : Payload} {v t : System}
      (call : LastCall calls e error s (.error (.panicked payload)) v)
      (history : t.history = v.history ++ [.crashed e])
      (engine : ∃ y, t.engines[e]? = some y ∧ y.state = .shutDown ∧ y.closed = true ∧
        discarded e t.history ++ y.queue = x.queue)
      (never : announced e t.history = []) : LastFailure calls e x error s (.error (.panicked payload), t)
  /-- The hook does not come to its end. -/
  | endless {stop : Stop} {t : System} (endless : isOver (.error stop : Except Stop Unit) = false)
      (call : LastCall calls e error s (.error stop) t) : LastFailure calls e x error s (.error stop, t)

/-! ## Stopping the engines -/

/-- A close that panics has called the shutdown hook, which panics. -/
lemma crashes_of_close (hclose : (close calls e).on s = (.error (.panicked payload), t)) :
    ∃ v, (runShutdown calls e).on (s.closing e) = (.error (.panicked payload), v) ∧
      t = v.noted (.crashed e) := by
  rw [on_close] at hclose
  rcases hook : (runShutdown calls e).on (s.closing e) with ⟨(payload' | _ | _ | _) | _, v⟩ <;>
    rw [hook] at hclose <;> cases hclose
  exact ⟨v, rfl, rfl⟩

/-- The last drain of an engine and its close can panic only in the shutdown hook.

**Proof sketch.** An engine that was told to stop does not retire, so that draining it does not panic. -/
lemma crashes_of_lastDrain (hcalls : calls.Regular) (hsound : s.Sound) (hx : s.engines[e]? = some x)
    (hactive : x.state = .active) (hdrainer : x.drainer = none) {rounds : Nat}
    (hon : (do drainAll calls e rounds; close calls e : Act Unit).on (s.stopping e x) =
      (.error (.panicked payload), t)) : Crashes calls e payload t := by
  have hworks := works_drainAll hcalls e rounds _ _ ((evolves_stopping hx hactive hdrainer).sound hsound)
    (engine_stopping hx) (by simp [Engine.beginDrain]) (idle_stopping hsound hx hdrainer)
  rcases hdrain : (drainAll calls e rounds).on (s.stopping e x) with ⟨stop | _, w⟩
  · rw [on_bind_of_error hdrain] at hon
    obtain ⟨rfl, rfl⟩ : stop = .panicked payload ∧ w = t := by simpa using hon
    rw [Leaves, hdrain] at hworks
    exact absurd rfl hworks.2.1
  · rw [on_bind_of_ok hdrain] at hon
    obtain ⟨v, hook, rfl⟩ := crashes_of_close hon
    exact ⟨w, v, hook, history_noted _⟩

section Stops

variable (rounds : Nat)

/-- **An engine whose stop panics** was active; it was flushed, and its shutdown hook panicked. -/
lemma stopEngine_of_panicked (hsound : s.Sound) (hx : s.engines[e]? = some x)
    (hbegun : x.state ≠ .uninitialized) (hdrainer : x.drainer = none)
    (hon : (stopEngine (.upTo (rounds + 2)) e).on s = (.error (.panicked payload), t)) :
    x.state = .active ∧ Flushed e s x t ∧ Crashes (.upTo (rounds + 2)) e payload t := by
  have hcalls := Reentry.regular_upTo (rounds + 2)
  have hrounds : (Reentry.upTo (rounds + 2)).rounds = rounds + 2 := rfl
  have hactive : x.state = .active := by
    cases hstate : x.state with
    | uninitialized => exact absurd hstate hbegun
    | active => rfl
    | shutDown => simp [on_stopEngine_of_shutDown _ hsound hx hstate] at hon
  rw [on_stopEngine _ hsound hx hactive hdrainer, hrounds] at hon
  rcases lastDrain_cases hcalls hsound hx hactive hdrainer rounds with
    ⟨end', v, hact, hover, hflushed⟩ | ⟨stop, v, hact, hhangs⟩
  · rw [on_asDrainer hact, if_pos hover] at hon
    obtain ⟨rfl, rfl⟩ := Prod.mk.inj hon
    obtain ⟨w, q, hook, hhistory⟩ := crashes_of_lastDrain hcalls hsound hx hactive hdrainer hact
    exact ⟨hactive, hflushed, w, q, hook, hhistory⟩
  · rw [on_asDrainer hact, if_neg (by simp [hhangs.endless])] at hon
    obtain ⟨rfl, rfl⟩ : stop = .panicked payload ∧ v = t := by simpa using hon
    exact absurd hhangs.endless (by simp [isOver])

/-- **If stopping the engines panics**, some had their turns before, and then one crashed.

**Proof sketch.** Induction on the engines: either the first one panics, or it has its turn and the panic
comes later. -/
lemma stopAll_of_panicked : ∀ (entries : List (SlotId × EngineId)) (s : System), s.Orderly →
    s.Undrained → (∀ entry ∈ entries, s.Begun entry.2) →
    (stopAll (.upTo (rounds + 2)) entries).on s = (.error (.panicked payload), t) →
      ∃ before e after u x, entries.map Prod.snd = before ++ e :: after ∧
        Stops (.upTo (rounds + 2)) s before u ∧ u.engines[e]? = some x ∧ x.state = .active ∧
        (stopEngine (.upTo (rounds + 2)) e).on u = (.error (.panicked payload), t) ∧
        Flushed e u x t ∧ Crashes (.upTo (rounds + 2)) e payload t
  | [], s, _, _, _, hon => by simp [stopAll] at hon
  | entry :: entries, s, hs, hundrained, hbegun, hon => by
    obtain ⟨x, hx, hstate⟩ := hbegun entry List.mem_cons_self
    have hdrainer := hundrained _ x hx
    rw [stopAll] at hon
    rcases stopEngine_cases rounds hs.sound hx hstate hdrainer with
      ⟨u, hfirst, hcase⟩ | ⟨stop, u, hfirst, -⟩
    · rw [on_bind_of_ok hfirst] at hon
      obtain ⟨hsu, hbalanced⟩ := hs.evolvesByEdits (regular_stopEngine (Reentry.regular_upTo _) entry.2)
        (edits_stopEngine (Reentry.edits_upTo _) entry.2) hfirst
      obtain ⟨before, e, after, w, x', hentries, hstops, hrest⟩ := stopAll_of_panicked entries u
        (hsu.orderly hs) (hundrained.balanced hbalanced) (fun entry' hmem =>
          (hbegun entry' (List.mem_cons_of_mem _ hmem)).lasts hsu.evolves.lasts) hon
      refine ⟨entry.2 :: before, e, after, w, x', by simp [hentries], ?_, hrest⟩
      rcases hcase with ⟨hactive, hflushed⟩ | ⟨hover, rfl⟩
      · exact .flushed hx hactive hfirst hflushed hstops
      · exact .passed hx hover hfirst hstops
    · rw [on_bind_of_error hfirst] at hon
      obtain ⟨rfl, rfl⟩ : stop = .panicked payload ∧ u = t := by simpa using hon
      obtain ⟨hactive, hflushed, hcrashes⟩ :=
        stopEngine_of_panicked rounds hs.sound hx hstate hdrainer hfirst
      exact ⟨[], entry.2, entries.map Prod.snd, s, x, rfl, .nil s, hx, hactive, hfirst, hflushed,
        hcrashes⟩

end Stops

/-! ## Telling the handlers -/

section Tells

variable (depth : Nat)

/-- If telling a slot of the end panics, it is the slot's handler that panics, under its lock. -/
lemma chokes_of_dieSlot (hslot : s.HasSlot id)
    (hon : (dieSlot (.upTo depth) id).on s = (.error (.panicked payload), t)) :
    Chokes (.upTo depth) id payload s t := by
  obtain ⟨x, hx⟩ := hslot.exists
  rw [dieSlot, on_bind_of_ok (on_slot hx), on_bind_of_ok (on_note _)] at hon
  by_cases hlock : x.lock ∈ s.held
  · have hheld : (s.noted (.dying id)).held.contains x.lock = true := List.contains_iff_mem.mpr hlock
    rw [holding, on_bind_of_ok on_get] at hon
    simp only [hheld, if_true] at hon
    rw [on_bind_of_error (on_throw _)] at hon
    simp at hon
  · rcases hdie : (prepareToDie (.upTo depth) x.handler).on
        { s.noted (.dying id) with held := x.lock :: s.held } with ⟨result, u⟩
    rw [on_holding_of_free (s := s.noted (.dying id)) hlock hdie] at hon
    obtain ⟨rfl, rfl⟩ := Prod.mk.inj hon
    exact ⟨x, u, hx, hlock, hdie, rfl⟩

/-- **If telling the handlers panics**, some were told before, and then one choked on it. -/
lemma dieAll_of_panicked : ∀ (ids : List SlotId) (s : System), s.Orderly → (∀ id ∈ ids, s.HasSlot id) →
    (dieAll (.upTo depth) ids).on s = (.error (.panicked payload), t) →
      ∃ before id after u, ids = before ++ id :: after ∧ Tells (.upTo depth) s before u ∧
        Chokes (.upTo depth) id payload u t
  | [], s, _, _, hon => by simp [dieAll] at hon
  | id :: ids, s, hs, hslots, hon => by
    have hslot := hslots id List.mem_cons_self
    rw [dieAll] at hon
    rcases dieSlot_cases depth hslot with ⟨x, u, hx, hfree, hdie, hfirst⟩ | ⟨stop, u, hfirst, -⟩
    · rw [on_bind_of_ok hfirst] at hon
      obtain ⟨hsu, -⟩ := hs.evolvesByEdits (regular_dieSlot (Reentry.regular_upTo depth) id)
        (edits_dieSlot (Reentry.edits_upTo depth) id) hfirst
      obtain ⟨before, id', after, w, rfl, htells, hchokes⟩ := dieAll_of_panicked ids _
        (hsu.orderly hs)
        (fun id' hmem => hsu.edited.upholds.hasSlot (hslots id' (List.mem_cons_of_mem _ hmem))) hon
      exact ⟨id :: before, id', after, w, rfl, .told hx hfree hdie htells, hchokes⟩
    · rw [on_bind_of_error hfirst] at hon
      obtain ⟨rfl, rfl⟩ : stop = .panicked payload ∧ u = t := by simpa using hon
      exact ⟨[], id, ids, s, rfl, .nil s, chokes_of_dieSlot depth hslot hfirst⟩

end Tells

/-! ## The whole shutdown -/

section Shutdown

variable (rounds : Nat) (hs : s.Orderly) (hy : s.routers[r]? = some y) (hup : y.shutDown = false)

include hs hy hup

/-- If the handlers are not all told, since one of them panics, all engines have ended. -/
lemma told_of_panicked {depth : Nat} (hu : Stopped (.upTo depth) r y s u)
    (hon : (shutdown (.upTo depth) r).on s = (.error (.panicked payload), t)) :
    CutShort (.upTo depth) r y s payload t := by
  obtain ⟨horderly, members, hmembers, huu, hslots⟩ := hu.dismissed hs hy hup
  rcases dieAll_cases depth members _ (huu.orderly horderly) hslots with
    ⟨v, hdie, htells⟩ | ⟨stop, v, hdie, -⟩
  · obtain ⟨huv, -⟩ := (huu.orderly horderly).evolvesByEdits
      (regular_dieAll (Reentry.regular_upTo depth) members)
      (edits_dieAll (Reentry.edits_upTo depth) members) hdie
    have hv := huv.orderly (huu.orderly horderly)
    obtain ⟨z, hz, -⟩ :=
      (hu.reached.trans (huu.trans huv)).edited.upholds.routers r _ (router_onRouter hy _)
    obtain ⟨hvv, hslots'⟩ := hv.unregistered hz
    have hdie' : (dieAll (.upTo depth) z.registry.clear.1).on (v.unregistered r) =
        (.error (.panicked payload), t) :=
      (on_shutdown hy hup hu.call hmembers hdie hz).symm.trans hon
    obtain ⟨before, id, after, w, hregistry, htells', hchokes⟩ :=
      dieAll_of_panicked depth z.registry.clear.1 _ (hvv.orderly hv) hslots' hdie'
    exact .tellingRegistered hu.stops hmembers htells hz hregistry htells' hchokes
  · rw [on_shutdown_of_up hy hup, on_bind_of_ok hu.call, on_bind_of_ok (on_takeMembers hmembers),
      on_bind_of_ok (on_note _)] at hon
    obtain ⟨rfl, rfl⟩ : stop = .panicked payload ∧ v = t := by
      simpa using (on_bind_of_error hdie _).symm.trans hon
    obtain ⟨before, id, after, w, rfl, htells, hchokes⟩ :=
      dieAll_of_panicked depth members _ (huu.orderly horderly) hslots hdie
    exact .telling hu.stops hmembers htells hchokes

/-- **A shutdown that panics** was cut short by one of the hooks. -/
lemma shutdown_of_panicked (hundrained : s.Undrained)
    (hon : (shutdown (.upTo (rounds + 2)) r).on s = (.error (.panicked payload), t)) :
    CutShort (.upTo (rounds + 2)) r y s payload t := by
  have hw := (evolvesByEdits_shut hy hup).orderly hs
  have hbegun := begun_of_listed hs hy hup
  rcases stopAll_cases rounds y.aspects _ hw hundrained hbegun with
    ⟨u, hstop, hstops⟩ | ⟨stop, u, hstop, -⟩
  · exact told_of_panicked hs hy hup (stopped_of_stops hs hy hup hstop hstops) hon
  · rw [on_shutdown_of_up hy hup] at hon
    obtain ⟨rfl, rfl⟩ : stop = .panicked payload ∧ u = t := by
      simpa using (on_bind_of_error hstop _).symm.trans hon
    obtain ⟨before, e, after, v, x, hattached, hstops, hx, hactive, hcall, hflushed, hcrashes⟩ :=
      stopAll_of_panicked rounds y.aspects _ hw hundrained hbegun hstop
    exact .stopping hattached hstops hx hactive hcall hflushed hcrashes

/-- **The ways in which a shutdown ends.** -/
lemma shutdown_ends (hundrained : s.Undrained) : ShutdownEnds (.upTo (rounds + 2)) r y s
    ((shutdown (.upTo (rounds + 2)) r).on s) := by
  rcases shutdown_cases rounds hs hy hup hundrained with
    ⟨members, registered, u, v, t, hon, htorn⟩ | ⟨stop, t, hon, hmishap⟩
  · exact hon ▸ .complete htorn
  · cases stop with
    | panicked payload =>
      have hcut := shutdown_of_panicked rounds hs hy hup hundrained hon
      exact hon ▸ .panicked hcut
    | _ => exact hon ▸ .endless rfl hmishap

end Shutdown

/-! ## The last failure of an engine -/

section Tripped

variable (hcalls : calls.Regular) (hsound : s.Sound) (hx : s.engines[e]? = some x)
  (hstate : x.state = .active) (hbusy : ¬ Idle e s.history) (hlimit : x.threshold ≤ x.errors + 1)
  (hquiet : Quiet ((s.onEngine e Engine.countFailure).noted (.batchOver e (some error))) v)

include hx hquiet

omit hx in
/-- What is written down when an engine fails once too often: its batch is over, it leaves its
router, and its shutdown hook begins. -/
lemma history_tripped : ((v.left e x.countFailure .failing).closing e).history = s.history ++
    [.batchOver e (some error), .deactivated e .failing, .hook e .shutdown] := by
  simp [history, moments_tripped hquiet]

include hcalls hsound hstate hbusy hlimit

omit hcalls in
/-- Nothing joins the queue of an engine that has left its router, and a closed engine hands nothing over:
whatever waited when the hook was called waits still, unless it was dropped meanwhile. -/
lemma waiting_of_hook (hevolves : ((v.left e x.countFailure .failing).closing e).Evolves p)
    (hbalanced : ((v.left e x.countFailure .failing).closing e).Balanced p) {z : Engine}
    (hz : p.engines[e]? = some z) : discarded e p.history ++ z.queue = x.queue := by
  have hw := engines_tripped hx hquiet
  have hsp := (evolves_tripped hx hstate hbusy hlimit hquiet).trans hevolves
  have hbefore : Engine.Conserved e s.history x := (hsound.lives.life hx).accounted
  have hafter : Engine.Conserved e p.history z := ((hsp.sound hsound).lives.life hz).accounted
  obtain ⟨z', hz', hxz⟩ := (hbalanced.each e).old _ hw
  have hpushed : pushed e p.history = pushed e s.history := by
    rw [hxz.unfed rfl, history_tripped hquiet]
    simp [pushed]
  have hbatches : batches e p.history = batches e s.history := by
    rw [hevolves.lasts.batches e _ hw rfl, history_tripped hquiet]
    simp [batches]
  have hsplit : (batches e s.history).flatten ++ (discarded e p.history ++ z.queue) =
      (batches e s.history).flatten ++ x.queue := by
    calc (batches e s.history).flatten ++ (discarded e p.history ++ z.queue)
        = pushed e p.history := by rw [hafter.split, hbatches, List.append_assoc]
      _ = pushed e s.history := hpushed
      _ = (batches e s.history).flatten ++ x.queue := by
        rw [hbefore.split, hbefore.kept (not_closed_of_active hsound hx hstate), List.append_nil]
  exact List.append_cancel_left hsplit

/-- If the shutdown hook returns, the queue is dropped and the end is announced. -/
lemma lastFailure_of_returned
    (hook : (runShutdown calls e).on ((v.left e x.countFailure .failing).closing e) = (.ok (), p))
    (hevolves : ((v.left e x.countFailure .failing).closing e).Evolves p)
    (hbalanced : ((v.left e x.countFailure .failing).closing e).Balanced p) :
    LastFailure calls e x error s
      ((retire calls e (x.router.filter s.isAlive) x.sink.name (x.errors + 1) error).on v) := by
  have hsp := (evolves_tripped hx hstate hbusy hlimit hquiet).trans hevolves
  have hp := hsp.sound hsound
  have hclose : (close calls e).on (v.left e x.countFailure .failing) =
      (.ok (), p.noted (.closed e)) := by
    rw [on_close, hook]
  obtain ⟨z, hz, honce, hclosing⟩ :=
    tripped_balanced hsound hx hstate hbusy hlimit hquiet hbalanced
  obtain ⟨herrors, -, hname⟩ := tripped_lasts hsound hx hstate hbusy hlimit hquiet hevolves hz
  obtain ⟨r, id, hactivated, hrouter, -⟩ := hsound.careers.place hx hstate
  have hzrouter : z.router = some r :=
    (hp.careers e z hz).router r id (hsp.lasts.mem_history hactivated)
  obtain ⟨through, rest, hregular, hretire, hthrough, hunheard⟩ :=
    on_retire_of_returned hsound hx hstate hbusy hlimit hquiet hcalls hevolves hclose hz hzrouter
  obtain ⟨hst, hdrains⟩ := drains_finished hsound hx hstate hbusy hlimit hquiet hevolves hbalanced hz
    honce hclosing hzrouter through hthrough hunheard
  have hfinished := history_finished (s := p) (e := e) (x := z) error through
  rw [herrors, hname] at hfinished
  obtain ⟨hafter, hover⟩ := hregular _ (hst.sound hsound)
  rw [hretire]
  rcases hon : rest.on (p.finished e z error through) with ⟨result, t⟩
  rw [hon] at hafter hover
  obtain ⟨new, hnew⟩ := hafter.lasts.history
  rw [hfinished, List.append_assoc, List.append_assoc] at hnew
  have ht := (hst.trans hafter).sound hsound
  refine .announced ⟨_, history_tripped hquiet, hook⟩ hz hnew ?_ ?_ fun hisOver => ?_
  · intro r' y hr' halive hy hup
    obtain rfl : r = r' := Option.some.inj (hrouter.symm.trans hr')
    cases hheard : through with
    | some r' => simp [hthrough r' hheard]
    | none =>
      rcases hunheard hheard with hgone | ⟨y', hy', hfilter⟩
      · simp [halive] at hgone
      · obtain rfl : y = y' := Option.some.inj (hy.symm.trans hy')
        simpa [hfilter] using hp.wired.filter r y hy hup
  · have hsplit : t.history = p.history ++ [.closed e, .discarded e z.queue] ++
        .disabled e (x.errors + 1) error :: _ := hnew.trans (List.append_assoc _ [_, _] _).symm
    exact (ht.lives e).ordered.announced hsplit
  · obtain ⟨-, y, hy, -, hdrained⟩ :=
      hdrains.balanced hst hafter (hst.sound hsound) (hover hisOver)
    refine ⟨y, hy, hdrained.tidy ⟨x.errors + 1, error, ?_⟩⟩
    simp [hnew]

/-- **The shutdown hook decides** what becomes of an engine that failed too often. -/
lemma lastFailure_of_retire : LastFailure calls e x error s
    ((retire calls e (x.router.filter s.isAlive) x.sink.name (x.errors + 1) error).on v) := by
  have htripped := evolves_tripped hx hstate hbusy hlimit hquiet
  have hdeactivate := on_deactivate_tripped hsound hx hstate hquiet
  have hclose := on_close (s := v.left e x.countFailure .failing) (e := e) calls
  obtain ⟨hevolves, hbalanced⟩ := regular_runShutdown hcalls e _ (htripped.sound hsound)
  rcases hook : (runShutdown calls e).on ((v.left e x.countFailure .failing).closing e) with
    ⟨(payload | _ | _ | _) | _, p⟩ <;> rw [hook] at hclose hevolves hbalanced
  case error.panicked =>
    obtain ⟨z, hz, honce, hclosing⟩ :=
      tripped_balanced hsound hx hstate hbusy hlimit hquiet (hbalanced rfl)
    have hvital := ((htripped.trans hevolves).sound hsound).lives.vital hz
    rw [retire.eq_def, on_bind_of_ok hdeactivate, if_pos rfl, on_bind_of_error hclose]
    refine .silenced ⟨_, history_tripped hquiet, hook⟩ (history_noted _)
      ⟨z, hz, hvital.closed_state hclosing.closed, hclosing.closed, ?_⟩ ?_
    · rw [history_noted, discarded_append]
      simpa [discarded] using
        waiting_of_hook hsound hx hstate hbusy hlimit hquiet hevolves (hbalanced rfl) hz
    · refine announced_eq_nil_iff.mpr fun n error' hmem => honce (hvital.disabled n error' ?_)
      simpa using hmem
  case ok =>
    exact lastFailure_of_returned hcalls hsound hx hstate hbusy hlimit hquiet hook hevolves
      (hbalanced rfl)
  all_goals
    rw [retire.eq_def, on_bind_of_ok hdeactivate, if_pos rfl, on_bind_of_error hclose]
    exact .endless rfl ⟨_, history_tripped hquiet, hook⟩

end Tripped

/-- What engines and the history do not show has no part in it. -/
lemma LastFailure.of_same {result : Except Stop Unit} (h : LastFailure calls e x error s (result, t))
    (hover : isOver result = true) (hengines : u.engines = t.engines) (hjournal : u.journal = t.journal) :
    LastFailure calls e x error s (result, u) := by
  have hhistory : u.history = t.history := by simp only [history, moments, hjournal]
  cases h with
  | announced call engine history record once emptied =>
    exact .announced call engine (hhistory.trans history) record (hhistory ▸ once)
      (hengines ▸ emptied)
  | silenced call history engine never =>
    exact .silenced call (hhistory.trans history) (hengines ▸ hhistory ▸ engine) (hhistory ▸ never)
  | endless endless call => simp [endless] at hover

/-- **The ways in which the last failure of an engine ends.** -/
lemma lastFailure_of_countFailure (hcalls : calls.Regular) (hsound : s.Sound)
    (hx : s.engines[e]? = some x) (hstate : x.state = .active) (hbusy : ¬ Idle e s.history)
    (hlimit : x.threshold ≤ x.errors + 1) (error : AspectError) :
    LastFailure calls e x error s ((countFailure calls e error).on s) := by
  set u := (s.onEngine e Engine.countFailure).noted (.batchOver e (some error))
  have hu : u.engines[e]? = some x.countFailure := engines_onEngine_self hx
  have hdisable : (disable calls e (x.errors + 1) error).on u =
      (withRouter (x.router.filter s.isAlive)
        (retire calls e (x.router.filter s.isAlive) x.sink.name (x.errors + 1) error)).on u :=
    on_disable calls hu (x.errors + 1) error
  have hretire : ∀ {v : System}, Quiet u v → LastFailure calls e x error s
      ((retire calls e (x.router.filter s.isAlive) x.sink.name (x.errors + 1) error).on v) :=
    fun hquiet => lastFailure_of_retire hcalls hsound hx hstate hbusy hlimit hquiet
  rw [on_countFailure calls hx, if_pos ⟨hlimit, hstate⟩, hdisable]
  cases hfilter : x.router.filter s.isAlive with
  | none =>
    rw [hfilter] at hretire
    exact hretire (quiet_of_eq rfl rfl rfl rfl rfl)
  | some r =>
    rw [hfilter] at hretire
    have hkept := hretire (v := { u with inUse := r :: u.inUse }) (quiet_of_eq rfl rfl rfl rfl rfl)
    rw [withRouter, keeping, on_bind_of_ok (on_modify _), on_after]
    split
    · rename_i hover
      exact hkept.of_same hover rfl rfl
    · exact hkept

/-! ## Both -/

/-- **Nobody contains a panic at the end.**  The shutdown of a router that was up, while nobody drains, is
complete if all hooks return.  If one of them panics, that is the end of it, and what was done before is
all that will ever be done: the router is dark from then on, so that another shutdown does nothing.  An
engine that fails once too often drops its queue and announces its end if its shutdown hook returns, and
does neither if the hook panics.

**Proof sketch.** Both teardowns are sequences of calls.  A panic is traced back to the first call that
does not give a value; all before it have given one, and have left behind what they leave in a complete
teardown. -/
theorem Passed.panics_uncontained (hs : s.Passed) :
    (∀ r y depth, s.Linked Public → s.routers[r]? = some y → y.shutDown = false → s.Undrained →
      2 ≤ depth →
      ShutdownEnds (.upTo depth) r y s ((shutdown (.upTo depth) r).on s) ∧
      ∀ u, ((shutdown (.upTo depth) r).on s).2.Edited Public u ∨
        ((shutdown (.upTo depth) r).on s).2.Runs u → u.Dark r) ∧
    ∀ e x depth error, s.engines[e]? = some x → x.state = .active → ¬ Idle e s.history →
      x.threshold ≤ x.errors + 1 →
      LastFailure (.upTo depth) e x error s ((countFailure (.upTo depth) e error).on s) := by
  refine ⟨fun r y depth hlinked hy hup hundrained hdepth => ?_,
    fun e x depth error hx hstate hbusy hlimit => ?_⟩
  · have horderly : s.Orderly := ⟨hs.sound, hlinked⟩
    obtain ⟨rounds, rfl⟩ := Nat.exists_eq_add_of_le' hdepth
    refine ⟨shutdown_ends rounds horderly hy hup hundrained, fun u hu => ?_⟩
    refine dark_after horderly hy (rounds + 2) (hu.elim (fun h => h) fun hruns => hruns.edited ?_)
    exact (edits_shutdown (Reentry.edits_upTo (rounds + 2)) r s hlinked).1.linked hlinked
  · exact lastFailure_of_countFailure (Reentry.regular_upTo depth) hs.sound hx hstate hbusy hlimit error

/-- Two engines are attached to a router, and a third handler is registered.  The shutdown hook of the
first engine panics. -/
def troubledProgram : List Step :=
  [.makeRouter "router" (.ok (.startingAt .info)),
    .makeEngine "first" 5 (.scripted (smallSink (fun _ _ => []) fun _ => [.panic (.text "boom")])),
    .makeEngine "second" 5 (.scripted (smallSink (fun _ _ => []) fun _ => [])),
    .makeHandler "kept" .memory,
    .onEngine "first" (.init "router"),
    .onEngine "second" (.init "router"),
    .onRouter "router" (.register "a" "kept")]

/-- A sink that logs again in the middle of each of its batches, which then fails; its shutdown hook
panics. -/
def troubledSink : SinkBehaviour Step :=
  smallSink
    (fun _ _ => [.take "again" (.onRouter "router" (.log (smallCall "y"))), .fail (.processing "bad")])
    fun _ => [.panic (.text "boom")]

/-- An engine with a threshold of two, the second batch of which has failed, but that is not counted yet.
An object came in the middle of the batch. -/
def overdue : System :=
  let s := smallRun (smallProgram 2 troubledSink "x")
  let t := ((s.onEngine 0 (Engine.beginDrain 1)).onEngine 0 Engine.takeAll).noted (.hook 0 (.batch ["y"]))
  ((runBatch (.upTo 8) 0 ["y"]).on t).2

/-- The state in which an engine is overdue is one that a program passes. -/
lemma passed_overdue : overdue.Passed := by
  set s := smallRun (smallProgram 2 troubledSink "x") with hs
  obtain ⟨machinery, callStack, clock, hevolves⟩ : s.Passed := (reachable_smallRun _).passed
  have hsound : s.Sound := (reachable_smallRun _).passed.sound
  obtain ⟨x, hx⟩ := Option.isSome_iff_exists.mp (by decide +kernel : s.engines[0]?.isSome = true)
  have hview : s.engines[0]?.map (fun x => (x.state, x.drainer, x.queue)) =
      some (.active, none, ["y"]) := by decide +kernel
  rw [hx, Option.map_some, Option.some.injEq, Prod.mk.injEq, Prod.mk.injEq] at hview
  obtain ⟨hactive, hdrainer, hqueue⟩ := hview
  have hidle : Idle 0 s.history := (hsound.lives.vital hx).idle hdrainer
  have hbegin : s.Evolves (s.onEngine 0 (Engine.beginDrain 1)) :=
    .single (.shift _ hx rfl (.beginDrain 1 hdrainer))
  have hclosed : x.closed = false := not_closed_of_active hsound hx hactive
  have hbatch : (x.beginDrain 1).Event 0 s.history (x.beginDrain 1).takeAll (.hook 0 (.batch ["y"])) := by
    rw [← hqueue]
    exact .batch (show (x.beginDrain 1).closed = false from hclosed)
      (by simp [Engine.beginDrain, hqueue]) (by simp [Engine.beginDrain]) hidle
  have htake := hbegin.trans
    (.single (.event Engine.takeAll (engines_onEngine_self hx) rfl hbatch trivial))
  have hrun := (regular_runBatch (Reentry.regular_upTo 8) 0 ["y"] _ (htake.sound hsound)).1
  exact ⟨machinery, callStack, clock, hevolves.trans (htake.trans hrun)⟩

/-- The second engine is active still, and what was registered is. -/
theorem panics_uncontained_of_troubled : (∃ y payload t,
    (smallRun troubledProgram).Passed ∧ (smallRun troubledProgram).Linked Public ∧
    (smallRun troubledProgram).routers[0]? = some y ∧ y.shutDown = false ∧
    (smallRun troubledProgram).Undrained ∧
    (shutdown (.upTo 8) 0).on (smallRun troubledProgram) = (.error (.panicked payload), t) ∧
    CutShort (.upTo 8) 0 y (smallRun troubledProgram) payload t ∧ t.Dark 0 ∧
    t.engines[1]?.map Engine.state = some .active ∧
    t.routers[0]?.map (fun z => z.registry.entries.map Prod.snd) = some [3]) ∧
  ∃ x payload t y, overdue.Passed ∧ overdue.engines[0]? = some x ∧ x.state = .active ∧
    ¬ Idle 0 overdue.history ∧ x.threshold ≤ x.errors + 1 ∧
    (countFailure (.upTo 8) 0 (.processing "bad")).on overdue = (.error (.panicked payload), t) ∧
    t.engines[0]? = some y ∧ y.closed = true ∧ y.queue = ["y"] ∧ announced 0 t.history = [] := by
  refine ⟨?_, ?_⟩
  · set s := smallRun troubledProgram with hs
    have hpassed : s.Passed := (reachable_smallRun _).passed
    have hlinked : s.Linked Public := (reachable_smallRun _).linked
    obtain ⟨y, hy⟩ := Option.isSome_iff_exists.mp (by decide +kernel : s.routers[0]?.isSome = true)
    have hview : s.routers[0]?.map Router.shutDown = some false := by decide +kernel
    rw [hy, Option.map_some, Option.some.injEq] at hview
    have hnone : ∀ x ∈ s.engines, x.drainer = none := by decide +kernel
    have hundrained : s.Undrained := fun e x hx => hnone x (List.mem_of_getElem? hx)
    have hpanics : isOver ((shutdown (.upTo 8) 0).on s).1 = true ∧
        ((shutdown (.upTo 8) 0).on s).1.toBool = false := by decide +kernel
    have hleft : (((shutdown (.upTo 8) 0).on s).2.engines[1]?.map Engine.state,
        ((shutdown (.upTo 8) 0).on s).2.routers[0]?.map (fun z => z.registry.entries.map Prod.snd)) =
        (some .active, some [3]) := by decide +kernel
    obtain ⟨hends, hdark⟩ := hpassed.panics_uncontained.1 0 y 8 hlinked hy hview hundrained (by decide)
    rcases hon : (shutdown (.upTo 8) 0).on s with ⟨result, t⟩
    rw [hon] at hpanics hleft hends hdark
    obtain ⟨hactive, hroutes⟩ := Prod.mk.inj hleft
    cases hends with
    | complete tornDown => simp [Except.toBool] at hpanics
    | panicked cutShort =>
      exact ⟨y, _, t, hpassed, hlinked, hy, hview, hundrained, rfl, cutShort, hdark t (.inl (.refl t)),
        hactive, hroutes⟩
    | endless endless mishap => simp [endless] at hpanics
  · obtain ⟨x, hx⟩ := Option.isSome_iff_exists.mp
      (by decide +kernel : overdue.engines[0]?.isSome = true)
    have hview : overdue.engines[0]?.map (fun x => (x.state, x.threshold, x.errors, x.queue)) =
        some (.active, 2, 1, ["y"]) := by decide +kernel
    rw [hx, Option.map_some, Option.some.injEq, Prod.mk.injEq, Prod.mk.injEq, Prod.mk.injEq] at hview
    obtain ⟨hactive, hthreshold, herrors, hqueue⟩ := hview
    have hlimit : x.threshold ≤ x.errors + 1 := by omega
    have hcounts : (outcomes 0 overdue.history).length = 1 ∧
        (batches 0 overdue.history).length = 2 := by decide +kernel
    have hbusy : ¬ Idle 0 overdue.history := by
      rw [Idle]
      omega
    have hover : isOver ((countFailure (.upTo 8) 0 (.processing "bad")).on overdue).1 = true := by
      decide +kernel
    have hnothing : announced 0 ((countFailure (.upTo 8) 0 (.processing "bad")).on overdue).2.history = [] ∧
        discarded 0 ((countFailure (.upTo 8) 0 (.processing "bad")).on overdue).2.history = [] := by
      decide +kernel
    have hends := passed_overdue.panics_uncontained.2 0 x 8 (.processing "bad") hx hactive hbusy hlimit
    rcases hon : (countFailure (.upTo 8) 0 (.processing "bad")).on overdue with ⟨result, t⟩
    rw [hon] at hover hnothing hends
    cases hends with
    | announced call engine history record once emptied => simp [hnothing.1] at once
    | silenced call history engine never =>
      obtain ⟨y, hy, -, hclosed, hwaiting⟩ := engine
      rw [hnothing.2, List.nil_append, hqueue] at hwaiting
      exact ⟨x, _, t, y, passed_overdue, hx, hactive, hbusy, hlimit, rfl, hy, hclosed, hwaiting, never⟩
    | endless endless call => simp [endless] at hover

end System

end NamespaceLogging
