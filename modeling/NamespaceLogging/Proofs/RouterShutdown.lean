import NamespaceLogging.Proofs.EditingSteps
import NamespaceLogging.Proofs.RegularSteps
import NamespaceLogging.Proofs.TargetShutdown

/-!
# The shutdown of a router

A router is shut down once, and is dark from then on.  Its engines are stopped in the order in which
they were attached; its default handlers are told of the end, and then those that are registered.
Hooks may do what they like meanwhile: an engine whose turn comes may have ended already.

## Main definitions

* `System.Dark`: a router that lets nothing through any more.
* `System.Stops`, `System.Tells`: engines are stopped, and handlers told, one after the other.
* `System.Mishap`: a hook that does not return normally.
* `System.TornDown`: all that the shutdown of a router does.

## Main results

* `System.dark_of_down`, `System.Edited.dark`: a router that was shut down stays dark.
* `System.shutdown_cases`: the shutdown of a router is complete, unless there is a mishap.
* `System.shutdown_complete`: both, and what is enabled before.
-/

set_option autoImplicit false

namespace NamespaceLogging

open Act History

namespace System

variable {s t u v w : System} {r : RouterId} {y z : Router} {e : EngineId} {x : Engine} {id : SlotId}
  {calls : Reentry} {stop : Stop}

/-- No level is enabled at the router, log calls do nothing at all, and nor does another shutdown. -/
structure Dark (s : System) (r : RouterId) : Prop where
  disabled : ∀ level, (isEnabled r level).on s = (.ok false, s)
  logged : ∀ calls call, (log calls r call).on s = (.ok (), s)
  shutdown : ∀ calls, (shutdown calls r).on s = (.ok (), s)

/-- The engines have their turn to be stopped, one after the other: each is flushed and closed if it is
still active, and passed over if it has ended meanwhile. -/
inductive Stops (calls : Reentry) : System → List EngineId → System → Prop
  | nil (s : System) : Stops calls s [] s
  | flushed {s t u : System} {e : EngineId} {x : Engine} {es : List EngineId}
      (engine : s.engines[e]? = some x) (active : x.state = .active)
      (call : (stopEngine calls e).on s = (.ok (), t)) (flushed : Flushed e s x t)
      (rest : Stops calls t es u) : Stops calls s (e :: es) u
  | passed {s u : System} {e : EngineId} {x : Engine} {es : List EngineId}
      (engine : s.engines[e]? = some x) (ended : x.state = .shutDown)
      (call : (stopEngine calls e).on s = (.ok (), s)) (rest : Stops calls s es u) :
      Stops calls s (e :: es) u

/-- The handlers in the slots are told of the end, one after the other, each under its lock. -/
inductive Tells (calls : Reentry) : System → List SlotId → System → Prop
  | nil (s : System) : Tells calls s [] s
  | told {s t u : System} {id : SlotId} {x : Slot} {ids : List SlotId} (slot : s.slot? id = some x)
      (free : x.lock ∉ s.held)
      (call : (prepareToDie calls x.handler).on
        { s.noted (.dying id) with held := x.lock :: s.held } = (.ok (), t))
      (rest : Tells calls { t with held := t.held.erase x.lock } ids u) : Tells calls s (id :: ids) u

/-- A call that began in `s` has stopped in `t` since a hook did not return normally: it has led into a
hook of an engine that does not come to its end, a shutdown hook has panicked, or a handler could not
be told of the end or did not take it. -/
inductive Mishap (calls : Reentry) (s : System) : Stop → System → Prop
  | hangs {t : System} {e : EngineId} {stop : Stop} (hangs : Hangs calls e s (.error stop, t)) :
      Mishap calls s stop t
  | breaks {t : System} {payload : Payload} (broke : s.Broke t) : Mishap calls s (.panicked payload) t
  /-- The lock of the slot is held, as it is while a serialized handler runs. -/
  | waits {w : System} {id : SlotId} {x : Slot} (later : s.Edited Public w)
      (slot : w.slot? id = some x) (locked : x.lock ∈ s.held) : Mishap calls s .stuck (w.noted (.dying id))
  | untold {w t : System} {id : SlotId} {x : Slot} {stop : Stop} (later : s.Edited Public w)
      (slot : w.slot? id = some x) (free : x.lock ∉ s.held)
      (call : (holding x.lock (prepareToDie calls x.handler)).on (w.noted (.dying id)) =
        (.error stop, t)) : Mishap calls s stop t

/-- The state after the default handlers of the router, which is `y`, were let go. -/
def dismissed (s : System) (r : RouterId) (y : Router) (members : List SlotId) : System :=
  (s.onGroup y.defaults fun _ => []).noted (.cleared r members)

/-- The state after the registrations of the router were taken back. -/
def unregistered (s : System) (r : RouterId) : System :=
  s.onRouter r fun z => { z with registry := .empty }

/-- The router `r`, which was `y` in the state `s`, was shut down, and that was over in the state `t`.
Its engines were stopped by the state `u`, and its default handlers told by the state `v`. -/
structure TornDown (calls : Reentry) (r : RouterId) (y : Router) (members registered : List SlotId)
    (s u v t : System) : Prop where
  /-- The engines stand in the order in which they were given their slots. -/
  attached : (y.aspects.map Prod.fst).Pairwise (· < ·)
  stops : Stops calls (s.onRouter r Router.shut) (y.aspects.map Prod.snd) u
  /-- Each engine that was active is shut down once, before a handler is told. -/
  once : ∀ e ∈ y.aspects.map Prod.snd, ∀ x, s.engines[e]? = some x → x.state = .active →
    closings e s.history = 0 ∧ closings e u.history = 1 ∧ closings e t.history = 1
  group : u.groups[y.defaults]? = some members
  tells : Tells calls (u.dismissed r y members) members v
  registry : ∃ z, v.routers[r]? = some z ∧ registered = z.registry.entries.map Prod.snd
  tellsRegistered : Tells calls (v.unregistered r) registered t
  ascending : members.Pairwise (· < ·)
  nodup : registered.Nodup
  /-- An engine that has left the router is no default handler any more. -/
  gone : ∀ entry ∈ y.aspects, u.Freed entry.2 r → entry.1 ∉ members
  /-- If nobody was given a new slot meanwhile, nothing is left. -/
  emptied : t.slots.length = s.slots.length →
    (∀ before, s.groups[y.defaults]? = some before → members.Sublist before) ∧
    (members ++ registered).Nodup ∧ t.groups[y.defaults]? = some [] ∧
    ∃ z, t.routers[r]? = some z ∧ z.registry.entries = [] ∧ z.aspects = [] ∧
      ∀ route ∈ z.registry.found, route.2 = .defaults

/-! ## Dark routers -/

/-- A router that was shut down is dark. -/
lemma dark_of_down (hlinked : s.Linked Public) (hy : s.routers[r]? = some y)
    (hdown : y.shutDown = true) : s.Dark r where
  disabled level := by
    rw [isEnabled, on_bind_of_ok (on_router_of_some hy), (hlinked.routers r y hy).dark hdown]
    rfl
  logged calls call := on_log_of_disabled calls hy (by simp [(hlinked.routers r y hy).dark hdown])
  shutdown calls := by
    rw [System.shutdown, on_bind_of_ok (on_router_of_some hy), hdown]
    rfl

/-- **A router that was shut down stays dark**, whatever is done. -/
lemma Edited.dark (h : s.Edited Public t) (hlinked : s.Linked Public) (hy : s.routers[r]? = some y)
    (hdown : y.shutDown = true) : t.Dark r := by
  obtain ⟨z, hz, hremains⟩ := h.upholds.routers r y hy
  exact dark_of_down (h.linked hlinked) hz (hremains.down hdown)

/-! ## What calls lead to -/

/-- What holds while scripts are at work. -/
structure Orderly (s : System) : Prop where
  sound : s.Sound
  linked : s.Linked Public

/-- A call that began in `s` and has led to `t`: the state evolved, by edits which keep no record secret,
and the same locks are held. -/
structure EvolvesByEdits (s t : System) : Prop where
  evolves : s.Evolves t
  edited : s.Edited Public t
  held : t.held = s.held

/-- One call after the other, each by edits and with the same locks held. -/
lemma EvolvesByEdits.trans (hst : s.EvolvesByEdits t) (htu : t.EvolvesByEdits u) : s.EvolvesByEdits u :=
  ⟨hst.evolves.trans htu.evolves, hst.edited.trans htu.edited, htu.held.trans hst.held⟩

/-- An orderly state is followed by orderly ones. -/
lemma EvolvesByEdits.orderly (h : s.EvolvesByEdits t) (hs : s.Orderly) : t.Orderly :=
  ⟨h.evolves.sound hs.sound, h.edited.linked hs.linked⟩

/-- What an act that gives a value leads to: an orderly state that was reached by edits, and in which the
work of all engines is balanced. -/
lemma Orderly.evolvesByEdits {α : Type} {act : Act α} {a : α} (hs : s.Orderly) (hregular : act.Regular)
    (hedits : act.Edits Public) (hon : act.on s = (.ok a, t)) : s.EvolvesByEdits t ∧ s.Balanced t := by
  obtain ⟨hevolves, hbalanced⟩ := hregular s hs.sound
  obtain ⟨hedited, hheld, -⟩ := hedits s hs.linked
  rw [hon] at hevolves hbalanced hedited hheld
  exact ⟨⟨hevolves, hedited, hheld rfl⟩, hbalanced rfl⟩

/-- A mishap of a call that began later is one of the call that began before. -/
lemma Mishap.before (hst : s.EvolvesByEdits t) (h : Mishap calls t stop u) : Mishap calls s stop u := by
  cases h with
  | hangs hangs => exact .hangs (hangs.before hst.evolves)
  | breaks broke => exact .breaks (broke.before hst.evolves.lasts)
  | waits later slot locked => exact .waits (hst.edited.trans later) slot (hst.held ▸ locked)
  | untold later slot free call => exact .untold (hst.edited.trans later) slot (hst.held ▸ free) call

/-! ## Stopping the engines -/

/-- Nobody drains an engine. -/
def Undrained (s : System) : Prop := ∀ (e : EngineId) x, s.engines[e]? = some x → x.drainer = none

/-- Where nobody drains an engine, nobody does so after an act that is in balance. -/
lemma Undrained.balanced (h : s.Undrained) (hst : s.Balanced t) : t.Undrained := by
  intro e y hy
  cases hx : s.engines[e]? with
  | none => exact ((hst.each e).new hx y hy).drainer
  | some x =>
    obtain ⟨y', hy', hxy⟩ := (hst.each e).old x hx
    obtain rfl : y = y' := Option.some.inj (hy.symm.trans hy')
    exact hxy.drainer.trans (h e x hx)

/-- An engine that was started has been started for ever. -/
def Begun (s : System) (e : EngineId) : Prop :=
  ∃ x, s.engines[e]? = some x ∧ x.state ≠ .uninitialized

/-- An engine that was started has been started for ever. -/
lemma Begun.lasts (h : s.Begun e) (hst : s.Lasts t) : t.Begun e := by
  obtain ⟨x, hx, hbegun⟩ := h
  obtain ⟨y, hy, hlasts⟩ := hst.engines e x hx
  refine ⟨y, hy, fun hstate => hbegun ?_⟩
  have hrank := hlasts.state
  rw [hstate] at hrank
  cases hx : x.state <;> simp_all [EngineState.rank]

section Stops

variable (rounds : Nat)

/-- **An engine is stopped** when its turn comes, or has ended before. -/
lemma stopEngine_cases (hsound : s.Sound) (hx : s.engines[e]? = some x)
    (hbegun : x.state ≠ .uninitialized) (hdrainer : x.drainer = none) :
    (∃ t, (stopEngine (.upTo (rounds + 2)) e).on s = (.ok (), t) ∧
      (x.state = .active ∧ Flushed e s x t ∨ x.state = .shutDown ∧ t = s)) ∨
    ∃ stop t, (stopEngine (.upTo (rounds + 2)) e).on s = (.error stop, t) ∧
      Mishap (.upTo (rounds + 2)) s stop t := by
  have hcalls := Reentry.regular_upTo (rounds + 2)
  cases hstate : x.state with
  | uninitialized => exact absurd hstate hbegun
  | shutDown =>
    exact .inl ⟨s, on_stopEngine_of_shutDown _ hsound hx hstate, .inr ⟨rfl, rfl⟩⟩
  | active =>
    have hleaves := leaves_stopEngine hcalls hsound e
    have hrounds : (Reentry.upTo (rounds + 2)).rounds = rounds + 2 := rfl
    rcases lastDrain_cases hcalls hsound hx hstate hdrainer rounds with
      ⟨end', u, hact, hover, hflushed⟩ | ⟨stop, u, hact, hhangs⟩
    · have hon : (stopEngine (.upTo (rounds + 2)) e).on s = (end', u.onEngine e Engine.endDrain) := by
        rw [on_stopEngine _ hsound hx hstate hdrainer, hrounds, on_asDrainer hact, if_pos hover]
      rw [Leaves, hon] at hleaves
      rcases end' with (payload | _ | _ | _) | _
      case error.panicked => exact .inr ⟨_, _, hon, .breaks hleaves.2.1⟩
      case ok => exact .inl ⟨_, hon, .inl ⟨rfl, hflushed⟩⟩
      all_goals simp [isOver] at hover
    · have hon : (stopEngine (.upTo (rounds + 2)) e).on s = (.error stop, u) := by
        rw [on_stopEngine _ hsound hx hstate hdrainer, hrounds, on_asDrainer hact,
          if_neg (by simp [hhangs.endless])]
      exact .inr ⟨stop, u, hon, .hangs hhangs⟩

/-- **The engines are stopped**, one after the other. -/
lemma stopAll_cases : ∀ (entries : List (SlotId × EngineId)) (s : System), s.Orderly → s.Undrained →
    (∀ entry ∈ entries, s.Begun entry.2) →
      (∃ t, (stopAll (.upTo (rounds + 2)) entries).on s = (.ok (), t) ∧
        Stops (.upTo (rounds + 2)) s (entries.map Prod.snd) t) ∨
      ∃ stop t, (stopAll (.upTo (rounds + 2)) entries).on s = (.error stop, t) ∧
        Mishap (.upTo (rounds + 2)) s stop t
  | [], s, _, _, _ => .inl ⟨s, rfl, .nil s⟩
  | entry :: entries, s, hs, hundrained, hbegun => by
    obtain ⟨x, hx, hstate⟩ := hbegun entry List.mem_cons_self
    have hfirst := stopEngine_cases rounds hs.sound hx hstate (hundrained _ x hx)
    rcases hfirst with ⟨t, hon, hcase⟩ | ⟨stop, t, hon, hmishap⟩
    · obtain ⟨hst, hbalanced⟩ := hs.evolvesByEdits (regular_stopEngine (Reentry.regular_upTo _) entry.2)
        (edits_stopEngine (Reentry.edits_upTo _) entry.2) hon
      have hall : (stopAll (.upTo (rounds + 2)) (entry :: entries)).on s =
          (stopAll (.upTo (rounds + 2)) entries).on t := on_bind_of_ok hon _
      rcases stopAll_cases entries t (hst.orderly hs) (hundrained.balanced hbalanced)
          (fun entry' hmem => (hbegun entry' (List.mem_cons_of_mem _ hmem)).lasts hst.evolves.lasts) with
        ⟨u, hon', hstops⟩ | ⟨stop, u, hon', hmishap⟩
      · refine .inl ⟨u, hall.trans hon', ?_⟩
        rcases hcase with ⟨hactive, hflushed⟩ | ⟨hover, rfl⟩
        · exact .flushed hx hactive hon hflushed hstops
        · exact .passed hx hover hon hstops
      · exact .inr ⟨stop, u, hall.trans hon', hmishap.before hst⟩
    · exact .inr ⟨stop, t, on_bind_of_error hon _, hmishap⟩

end Stops

/-! ## Telling the handlers -/

section Tells

variable (depth : Nat)

/-- **A handler is told of the end.** -/
lemma dieSlot_cases (hslot : s.HasSlot id) :
    (∃ x t, s.slot? id = some x ∧ x.lock ∉ s.held ∧
      (prepareToDie (.upTo depth) x.handler).on
        { s.noted (.dying id) with held := x.lock :: s.held } = (.ok (), t) ∧
      (dieSlot (.upTo depth) id).on s = (.ok (), { t with held := t.held.erase x.lock })) ∨
    ∃ stop t, (dieSlot (.upTo depth) id).on s = (.error stop, t) ∧
      Mishap (.upTo depth) s stop t := by
  obtain ⟨x, hx⟩ := hslot.exists
  have hdie : (dieSlot (.upTo depth) id).on s =
      (holding x.lock (prepareToDie (.upTo depth) x.handler)).on (s.noted (.dying id)) := by
    rw [dieSlot, on_bind_of_ok (on_slot hx), on_bind_of_ok (on_note _)]
  by_cases hlock : x.lock ∈ s.held
  · have hheld : (s.noted (.dying id)).held.contains x.lock = true := List.contains_iff_mem.mpr hlock
    refine .inr ⟨.stuck, s.noted (.dying id), ?_, .waits (.refl s) hx hlock⟩
    rw [hdie, holding, on_bind_of_ok on_get]
    simp only [hheld, if_true]
    exact on_bind_of_error (on_throw _) _
  · rcases hon : (prepareToDie (.upTo depth) x.handler).on
        { s.noted (.dying id) with held := x.lock :: s.held } with ⟨stop | _, t⟩
    · have hend := on_holding_of_free (s := s.noted (.dying id)) hlock hon
      exact .inr ⟨stop, _, hdie.trans hend, .untold (.refl s) hx hlock hend⟩
    · exact .inl ⟨x, t, hx, hlock, hon, hdie.trans (on_holding (s := s.noted (.dying id)) hlock hon rfl)⟩

/-- **The handlers are told**, one after the other. -/
lemma dieAll_cases : ∀ (ids : List SlotId) (s : System), s.Orderly → (∀ id ∈ ids, s.HasSlot id) →
    (∃ t, (dieAll (.upTo depth) ids).on s = (.ok (), t) ∧ Tells (.upTo depth) s ids t) ∨
    ∃ stop t, (dieAll (.upTo depth) ids).on s = (.error stop, t) ∧ Mishap (.upTo depth) s stop t
  | [], s, _, _ => .inl ⟨s, rfl, .nil s⟩
  | id :: ids, s, hs, hslots => by
    rcases dieSlot_cases depth (hslots id List.mem_cons_self) with
      ⟨x, t, hx, hfree, hdie, hon⟩ | ⟨stop, t, hon, hmishap⟩
    · obtain ⟨hst, -⟩ := hs.evolvesByEdits (regular_dieSlot (Reentry.regular_upTo depth) id)
        (edits_dieSlot (Reentry.edits_upTo depth) id) hon
      have hall := on_bind_of_ok hon fun _ => dieAll (.upTo depth) ids
      rcases dieAll_cases ids _ (hst.orderly hs) (fun id' hmem =>
          hst.edited.upholds.hasSlot (hslots id' (List.mem_cons_of_mem _ hmem))) with
        ⟨u, hon', htells⟩ | ⟨stop, u, hon', hmishap⟩
      · exact .inl ⟨u, hall.trans hon', .told hx hfree hdie htells⟩
      · exact .inr ⟨stop, u, hall.trans hon', hmishap.before hst⟩
    · exact .inr ⟨stop, t, on_bind_of_error hon _, hmishap⟩

end Tells

/-! ## The whole shutdown -/

/-- A registry without registrations leads to the default handlers. -/
lemma route_of_nil {x : Registry} (hcoherent : ∃ spaces, x.Coherent spaces) (hnil : x.entries = []) :
    ∀ route ∈ x.found, route.2 = .defaults := by
  obtain ⟨spaces, hspaces⟩ := hcoherent
  rintro ⟨k, route⟩ hmem
  have hlookup := hspaces.sound k route hmem
  cases hroute : route with
  | defaults => rfl
  | slot id =>
    obtain ⟨key, hkey, -⟩ := Registry.exists_of_walk_slot (hlookup.symm.trans hroute)
    simp [hnil] at hkey

section Shutdown

variable {members : List SlotId}

/-- An engine that was active has closed once when it has ended. -/
lemma closings_of_ended (hsound : s.Sound) (hx : s.engines[e]? = some x) (hactive : x.state = .active)
    (hst : s.Evolves t) (hbalanced : s.Balanced t)
    (hended : ∃ z, t.engines[e]? = some z ∧ z.state = .shutDown) (htu : t.Evolves u) :
    closings e s.history = 0 ∧ closings e t.history = 1 ∧ closings e u.history = 1 := by
  obtain ⟨z, hz, hdown⟩ := hended
  obtain ⟨z', hz', hxz⟩ := (hbalanced.each e).old x hx
  obtain rfl : z = z' := Option.some.inj (hz.symm.trans hz')
  have htsound := hst.sound hsound
  have hclosed : z.closed = true := hxz.ending (by simp [hactive]) hdown
  obtain ⟨z'', hz'', hlasts⟩ := htu.lasts.engines e z hz
  rw [(hsound.lives.vital hx).closings, (htsound.lives.vital hz).closings,
    ((htu.sound htsound).lives.vital hz'').closings, not_closed_of_active hsound hx hactive, hclosed,
    hlasts.closed hclosed]
  exact ⟨rfl, rfl, rfl⟩

/-- The stages of the shutdown of the router `r`, which was `y`: its engines were stopped by the state
`u`, its default handlers told by the state `v`, and the registered ones by the state `t`. -/
structure Stages (r : RouterId) (y : Router) (members : List SlotId) (s u v t : System) : Prop where
  orderly : s.Orderly
  router : s.routers[r]? = some y
  shut : s.EvolvesByEdits (s.onRouter r Router.shut)
  stopped : (s.onRouter r Router.shut).EvolvesByEdits u
  group : u.groups[y.defaults]? = some members
  dismissed : u.EvolvesByEdits (u.dismissed r y members)
  told : (u.dismissed r y members).EvolvesByEdits v
  unregistered : v.EvolvesByEdits (v.unregistered r)
  toldToo : (v.unregistered r).EvolvesByEdits t

namespace Stages

variable (h : Stages r y members s u v t)

include h

/-- From the beginning of the shutdown to the moment at which all engines are stopped. -/
lemma first : s.EvolvesByEdits u := h.shut.trans h.stopped

/-- From there to the moment at which the default handlers were told of the end. -/
lemma second : u.EvolvesByEdits v := h.dismissed.trans h.told

/-- From there to the end, when the registered handlers were told as well. -/
lemma third : v.EvolvesByEdits t := h.unregistered.trans h.toldToo

/-- Without new slots at the end, there were none at any stage. -/
lemma lengths (hlength : t.slots.length = s.slots.length) :
    u.slots.length = s.slots.length ∧ v.slots.length = s.slots.length := by
  have hsu := h.first.edited.upholds.slots.length_le
  have huv := h.second.edited.upholds.slots.length_le
  have hvt := h.third.edited.upholds.slots.length_le
  omega

/-- Without new slots, the default handlers that are told were there before, and those that are
registered are none of them. -/
lemma apart (hlength : t.slots.length = s.slots.length) (hz : v.routers[r]? = some z) :
    (∀ before, s.groups[y.defaults]? = some before → members.Sublist before) ∧
    (members ++ z.registry.entries.map Prod.snd).Nodup := by
  obtain ⟨hu, hv⟩ := h.lengths hlength
  have hulinked := (h.first.orderly h.orderly).linked
  have hvlinked := (h.second.orderly (h.first.orderly h.orderly)).linked
  refine ⟨fun before hbefore => ?_, ?_⟩
  · exact (h.first.edited.upholds.fewer hu).groups _ before members hbefore h.group
  · obtain ⟨z₀, hz₀, -⟩ := h.first.edited.upholds.routers r y h.router
    have hentries := ((h.second.edited.upholds.fewer (hv.trans hu.symm)).routers r z₀ z hz₀ hz).1
    refine List.nodup_append.mpr ⟨(hulinked.ascending _ members h.group).imp Nat.ne_of_lt,
      (hvlinked.routers r z hz).once, fun id hid id' hid' heq => ?_⟩
    subst heq
    exact (hulinked.routes r z₀ hz₀ id ((hentries.map _).subset hid')).2 _ members h.group hid

/-- **Without new slots, nothing is left.** -/
lemma emptied (hlength : t.slots.length = s.slots.length) (hz : v.routers[r]? = some z) :
    t.groups[y.defaults]? = some [] ∧ ∃ z, t.routers[r]? = some z ∧ z.registry.entries = [] ∧
      z.aspects = [] ∧ ∀ route ∈ z.registry.found, route.2 = .defaults := by
  obtain ⟨hu, hv⟩ := h.lengths hlength
  have htlinked := (h.third.orderly (h.second.orderly (h.first.orderly h.orderly))).linked
  -- from each of the lists on, what was emptied stays empty
  have hgroups := (h.told.trans h.third).edited.upholds
  have hregistry := h.toldToo.edited.upholds
  have haspects := (h.stopped.trans (h.second.trans h.third)).edited.upholds
  have hgroup : (u.dismissed r y members).groups[y.defaults]? = some [] := group_onGroup h.group _
  have hcleared : (v.unregistered r).routers[r]? = some { z with registry := .empty } :=
    router_onRouter hz _
  have hshut : (s.onRouter r Router.shut).routers[r]? = some y.shut := router_onRouter h.router _
  obtain ⟨zt, hzt, -⟩ := hregistry.routers r _ hcleared
  have hentries := ((hregistry.fewer (hlength.trans hv.symm)).routers r _ zt hcleared hzt).1
  have hnil : zt.registry.entries = [] := List.sublist_nil.mp hentries
  refine ⟨?_, zt, hzt, hnil, ?_, route_of_nil (htlinked.routers r zt hzt).coherent hnil⟩
  · have hlt := Nat.lt_of_lt_of_le (List.getElem?_eq_some_iff.mp hgroup).1 hgroups.groups
    have hafter := List.getElem?_eq_getElem hlt
    have hsub := (hgroups.fewer (hlength.trans hu.symm)).groups _ [] _ hgroup hafter
    rw [hafter, List.sublist_nil.mp hsub]
  · have hsub := ((haspects.fewer hlength).routers r _ zt hshut hzt).2
    exact List.sublist_nil.mp hsub

end Stages

/-- The default handlers are let go when the engines have ended. -/
lemma evolvesByEdits_dismissed (hs : s.Orderly) (hy : s.routers[r]? = some y) (hup : y.shutDown = false)
    (hwu : (s.onRouter r Router.shut).EvolvesByEdits u)
    (hended : ∀ entry ∈ y.aspects, ∃ x, u.engines[entry.2]? = some x ∧ x.state = .shutDown) :
    u.EvolvesByEdits (u.dismissed r y members) where
  evolves := by
    obtain ⟨z, hz, hremains⟩ := hwu.edited.upholds.routers r _ (router_onRouter hy _)
    have hdefaults : z.defaults = y.defaults := hremains.defaults
    have hcleared : Change u ((u.onGroup z.defaults fun _ => []).noted (.cleared r members)) :=
      .cleared members hz fun e x hx hactive hrouter =>
        late_of_stopped hs.sound hy hup hwu.evolves hended hx hactive hrouter
    rw [hdefaults] at hcleared
    exact .single hcleared
  edited := by
    have hnone : u.onGroup y.defaults (fun members => members.filter fun _ => false) =
        u.onGroup y.defaults fun _ => [] := by simp
    have hexpelled : Edit Public u (u.onGroup y.defaults fun _ => []) :=
      hnone ▸ .expelled u y.defaults fun _ => false
    exact (Relation.ReflTransGen.single hexpelled).tail (.noted _ _ (by simp))
  held := rfl

/-- What holds when the engines of the router `r`, which was `y`, have had their turns. -/
structure Stopped (calls : Reentry) (r : RouterId) (y : Router) (s u : System) : Prop where
  call : (stopAll calls y.aspects).on (s.onRouter r Router.shut) = (.ok (), u)
  stops : Stops calls (s.onRouter r Router.shut) (y.aspects.map Prod.snd) u
  reached : (s.onRouter r Router.shut).EvolvesByEdits u
  balanced : (s.onRouter r Router.shut).Balanced u
  ended : ∀ entry ∈ y.aspects, ∃ x, u.engines[entry.2]? = some x ∧ x.state = .shutDown

section Stages

variable (rounds : Nat) (hs : s.Orderly) (hy : s.routers[r]? = some y) (hup : y.shutDown = false)

include hs hy hup

omit hs in
/-- Marking a router that is up as shut down is an edit, and takes no lock. -/
lemma evolvesByEdits_shut : s.EvolvesByEdits (s.onRouter r Router.shut) :=
  ⟨.single (.shut hy hup), .single (.routed _ hy y.follows_shut), rfl⟩

omit hup in
/-- The engines that are attached to the router were started through it. -/
lemma activated_of_listed : ∀ entry ∈ y.aspects,
    Entry.activated entry.2 r entry.1 ∈ (s.onRouter r Router.shut).history :=
  fun entry hentry => hs.sound.wired.lists r entry.1 entry.2 ⟨y, hy, hentry⟩

/-- All engines that the router lists when it is shut down have been started. -/
lemma begun_of_listed : ∀ entry ∈ y.aspects, (s.onRouter r Router.shut).Begun entry.2 := by
  intro entry hentry
  have hw := (evolvesByEdits_shut hy hup).orderly hs
  have hactivated := activated_of_listed hs hy entry hentry
  obtain ⟨x, hx⟩ := hw.sound.lives.exists_engine rfl hactivated
  exact ⟨x, hx, (hw.sound.careers _ x hx).started.mpr ⟨r, _, hactivated⟩⟩

/-- When all engines have had their turns, all have ended. -/
lemma stopped_of_stops {depth : Nat}
    (hstop : (stopAll (.upTo depth) y.aspects).on (s.onRouter r Router.shut) = (.ok (), u))
    (hstops : Stops (.upTo depth) (s.onRouter r Router.shut) (y.aspects.map Prod.snd) u) :
    Stopped (.upTo depth) r y s u := by
  have hw := (evolvesByEdits_shut hy hup).orderly hs
  have hleaves := leaves_stopAll (Reentry.regular_upTo depth) y.aspects _ hw.sound
    fun entry hentry => ⟨r, entry.1, activated_of_listed hs hy entry hentry⟩
  obtain ⟨hedited, hheld, -⟩ := edits_stopAll (Reentry.edits_upTo depth) y.aspects _ hw.linked
  rw [Leaves, hstop] at hleaves
  rw [hstop] at hedited hheld
  obtain ⟨hevolves, hbalanced, hended⟩ := hleaves
  exact ⟨hstop, hstops, ⟨hevolves, hedited, hheld rfl⟩, hbalanced, hended⟩

/-- **The engines have their turns**, unless there is a mishap. -/
lemma stopped_cases (hundrained : s.Undrained) :
    (∃ u, Stopped (.upTo (rounds + 2)) r y s u) ∨
    ∃ stop t, (shutdown (.upTo (rounds + 2)) r).on s = (.error stop, t) ∧
      Mishap (.upTo (rounds + 2)) s stop t := by
  have hsw : s.EvolvesByEdits (s.onRouter r Router.shut) := evolvesByEdits_shut hy hup
  rcases stopAll_cases rounds y.aspects _ (hsw.orderly hs) hundrained (begun_of_listed hs hy hup) with
    ⟨u, hstop, hstops⟩ | ⟨stop, t, hstop, hmishap⟩
  · exact .inl ⟨u, stopped_of_stops hs hy hup hstop hstops⟩
  · exact .inr ⟨stop, t, (on_shutdown_of_up hy hup).trans (on_bind_of_error hstop _),
      hmishap.before hsw⟩

/-- When the engines have ended, the default handlers that are left are let go. -/
lemma Stopped.dismissed {depth : Nat} (hu : Stopped (.upTo depth) r y s u) : u.Orderly ∧
    ∃ members, u.groups[y.defaults]? = some members ∧ u.EvolvesByEdits (u.dismissed r y members) ∧
      ∀ id ∈ members, (u.dismissed r y members).HasSlot id := by
  have horderly := hu.reached.orderly ((evolvesByEdits_shut hy hup).orderly hs)
  obtain ⟨zu, hzu, hremains⟩ := hu.reached.edited.upholds.routers r _ (router_onRouter hy _)
  have hdefaults : zu.defaults = y.defaults := hremains.defaults
  obtain ⟨members, hmembers⟩ : ∃ members, u.groups[y.defaults]? = some members :=
    ⟨_, List.getElem?_eq_getElem (hdefaults ▸ (horderly.linked.routers r zu hzu).defaults)⟩
  exact ⟨horderly, members, hmembers, evolvesByEdits_dismissed hs hy hup hu.reached hu.ended,
    horderly.linked.members _ members hmembers⟩

omit hs hy hup in
/-- Those that are registered are told when they are not registered any more. -/
lemma Orderly.unregistered (hv : v.Orderly) (hz : v.routers[r]? = some z) :
    v.EvolvesByEdits (v.unregistered r) ∧ ∀ id ∈ z.registry.clear.1, (v.unregistered r).HasSlot id := by
  obtain ⟨hvv, -⟩ := hv.evolvesByEdits (regular_clearRegistry r) (edits_clearRegistry r) (on_clearRegistry hz)
  exact ⟨hvv, fun id hid => (hv.linked.routes r z hz id hid).1⟩

/-- **The handlers are told**, unless there is a mishap. -/
lemma told_cases {depth : Nat} (hu : Stopped (.upTo depth) r y s u) :
    (∃ members z v t, v.routers[r]? = some z ∧ (shutdown (.upTo depth) r).on s = (.ok (), t) ∧
      Stages r y members s u v t ∧ Tells (.upTo depth) (u.dismissed r y members) members v ∧
      Tells (.upTo depth) (v.unregistered r) (z.registry.entries.map Prod.snd) t) ∨
    ∃ stop t, (shutdown (.upTo depth) r).on s = (.error stop, t) ∧ Mishap (.upTo depth) s stop t := by
  have hregular := Reentry.regular_upTo depth
  have hedits : (Reentry.upTo depth).Edits Public := Reentry.edits_upTo _
  have hsw : s.EvolvesByEdits (s.onRouter r Router.shut) := evolvesByEdits_shut hy hup
  -- the default handlers
  obtain ⟨horderly, members, hmembers, huu, hslots⟩ := hu.dismissed hs hy hup
  rcases dieAll_cases _ members _ (huu.orderly horderly) hslots with
    ⟨v, hdie, htells⟩ | ⟨stop, t, hdie, hmishap⟩
  case inr =>
    refine .inr ⟨stop, t, ?_, hmishap.before (hsw.trans (hu.reached.trans huu))⟩
    rw [on_shutdown_of_up hy hup, on_bind_of_ok hu.call, on_bind_of_ok (on_takeMembers hmembers),
      on_bind_of_ok (on_note _)]
    exact on_bind_of_error hdie _
  obtain ⟨huv, -⟩ := (huu.orderly horderly).evolvesByEdits (regular_dieAll hregular members)
    (edits_dieAll hedits members) hdie
  have hv := huv.orderly (huu.orderly horderly)
  -- the registered handlers
  obtain ⟨z, hz, -⟩ :=
    (hu.reached.trans (huu.trans huv)).edited.upholds.routers r _ (router_onRouter hy _)
  obtain ⟨hvv, hslots'⟩ := hv.unregistered hz
  have hon := on_shutdown hy hup hu.call hmembers hdie hz
  rcases dieAll_cases _ z.registry.clear.1 (v.unregistered r) (hvv.orderly hv) hslots' with
    ⟨t, hdie', htells'⟩ | ⟨stop, t, hdie', hmishap⟩
  · obtain ⟨hvt, -⟩ := (hvv.orderly hv).evolvesByEdits (regular_dieAll hregular _) (edits_dieAll hedits _) hdie'
    exact .inl ⟨members, z, v, t, hz, hon.trans hdie',
      ⟨hs, hy, hsw, hu.reached, hmembers, huu, huv, hvv, hvt⟩, htells, htells'⟩
  · exact .inr ⟨stop, t, hon.trans hdie',
      hmishap.before ((hsw.trans (hu.reached.trans huu)).trans (huv.trans hvv))⟩

/-- **The shutdown of a router is complete**, unless there is a mishap. -/
lemma shutdown_cases (hundrained : s.Undrained) :
    (∃ members registered u v t, (shutdown (.upTo (rounds + 2)) r).on s = (.ok (), t) ∧
      TornDown (.upTo (rounds + 2)) r y members registered s u v t) ∨
    ∃ stop t, (shutdown (.upTo (rounds + 2)) r).on s = (.error stop, t) ∧
      Mishap (.upTo (rounds + 2)) s stop t := by
  rcases stopped_cases rounds hs hy hup hundrained with ⟨u, hu⟩ | hmishap
  case inr => exact .inr hmishap
  rcases told_cases hs hy hup hu with ⟨members, z, v, t, hz, hon, hstages, htells, htells'⟩ | hmishap
  case inr => exact .inr hmishap
  have hw := (evolvesByEdits_shut hy hup).orderly hs
  have horderly := hu.reached.orderly hw
  have hv := hstages.second.orderly horderly
  refine .inl ⟨members, _, u, v, t, hon, {
    attached := (hs.linked.routers r y hy).ascending
    stops := hu.stops
    once := fun e he x hx hactive => ?_
    group := hstages.group
    tells := htells
    registry := ⟨z, hz, rfl⟩
    tellsRegistered := htells'
    ascending := horderly.linked.ascending _ _ hstages.group
    nodup := (hv.linked.routers r z hz).once
    gone := fun entry hentry hfreed hmem => ?_
    emptied := fun hlength => ?_ }⟩
  · obtain ⟨entry, hentry, rfl⟩ := List.mem_map.mp he
    exact closings_of_ended (s := s.onRouter r Router.shut) hw.sound hx hactive hu.reached.evolves
      hu.balanced (hu.ended entry hentry) (hstages.second.trans hstages.third).evolves
  · obtain ⟨z₀, hz₀, hremains⟩ := hstages.first.edited.upholds.routers r y hy
    have hmember : u.Member r entry.1 :=
      ⟨z₀, members, hz₀, hremains.defaults ▸ hstages.group, hmem⟩
    have hactivated : Entry.activated entry.2 r entry.1 ∈ s.history :=
      hs.sound.wired.lists r entry.1 entry.2 ⟨y, hy, hentry⟩
    exact (horderly.sound.wired.gone _ r _ (hstages.first.evolves.lasts.mem_history hactivated)
      hfreed).1 hmember
  · obtain ⟨hbefore, hnodup⟩ := hstages.apart hlength hz
    exact ⟨hbefore, hnodup, hstages.emptied hlength hz⟩

/-- What is left by the shutdown of a router that was up, however it ends, came after it went dark. -/
lemma edited_shutdown (depth : Nat) :
    (s.onRouter r Router.shut).Edited Public ((shutdown (.upTo depth) r).on s).2 := by
  have hw := (evolvesByEdits_shut hy hup).orderly hs
  rw [on_shutdown_of_up hy hup]
  exact (edits_tearDown (Reentry.edits_upTo depth) r y _ hw.linked).1

end Stages

end Shutdown

/-! ## The whole life of a router -/

/-- Whatever comes after a shutdown of a router, the router is dark. -/
lemma dark_after (hs : s.Orderly) (hy : s.routers[r]? = some y) (depth : Nat)
    (hu : ((shutdown (.upTo depth) r).on s).2.Edited Public u) : u.Dark r := by
  cases hup : y.shutDown with
  | true =>
    have hon := (dark_of_down hs.linked hy hup).shutdown (.upTo depth)
    rw [hon] at hu
    exact hu.dark hs.linked hy hup
  | false =>
    have hw := (evolvesByEdits_shut hy hup).orderly hs
    exact ((edited_shutdown hs hy hup depth).trans hu).dark hw.linked (router_onRouter hy _) rfl

/-- **The shutdown of a router is complete and final.**  A router that was not shut down lets the highest
level through, whatever its filter.  A shutdown while nobody drains comes to its end, unless a hook does
not return normally: the engines have their turns in the order in which they were attached, then the
default handlers that are left are told, in order, and then those that are registered; without new slots,
nothing is left.  However a shutdown ends, the router is dark after it, at whatever point of whatever
program.

**Proof sketch.** References are in order at all times, and so nothing that is looked up is missing.  One
stage of the shutdown follows the other, and each leaves behind what the next one needs.  No edit lights
a router that went dark. -/
theorem shutdown_complete (hs : s.Passed) (hlinked : s.Linked Public) (hy : s.routers[r]? = some y) :
    (y.shutDown = false → (isEnabled r .fatal).on s = (.ok true, s)) ∧
    (∀ depth, 2 ≤ depth → y.shutDown = false → s.Undrained →
      (∃ members registered u v t, (shutdown (.upTo depth) r).on s = (.ok (), t) ∧
        TornDown (.upTo depth) r y members registered s u v t) ∨
      ∃ stop t, (shutdown (.upTo depth) r).on s = (.error stop, t) ∧ Mishap (.upTo depth) s stop t) ∧
    ∀ depth t u, ((shutdown (.upTo depth) r).on s).2 = t → t.Edited Public u ∨ t.Runs u → u.Dark r := by
  have horderly : s.Orderly := ⟨hs.sound, hlinked⟩
  refine ⟨fun hup => ?_, fun depth hdepth hup hundrained => ?_, fun depth t u ht hu => ?_⟩
  · obtain ⟨filter, hfilter⟩ := Option.isSome_iff_exists.mp (hs.sound.wired.filter r y hy hup)
    rw [isEnabled, on_bind_of_ok (on_router_of_some hy), hfilter]
    simp [LevelSet.contains_fatal]
  · obtain ⟨rounds, rfl⟩ := Nat.exists_eq_add_of_le' hdepth
    exact shutdown_cases rounds horderly hy hup hundrained
  · subst ht
    refine dark_after horderly hy depth (hu.elim (fun h => h) fun hruns => hruns.edited ?_)
    exact (edits_shutdown (Reentry.edits_upTo depth) r s hlinked).1.linked hlinked

/-- A router with an engine, another default handler, and a registered one. -/
def furnishedProgram : List Step :=
  [.makeRouter "router" (.ok (.startingAt .info)),
    .makeEngine "engine" 5 (.scripted (smallSink (fun _ _ => []) fun _ => [])),
    .makeHandler "kept" .memory,
    .onEngine "engine" (.init "router"),
    .onRouter "router" (.addDefault "kept"),
    .onRouter "router" (.register "a" "kept"),
    .onRouter "router" (.log (smallCall "x"))]

/-- The engine is stopped, both handlers are told, and the router is dark. -/
theorem shutdown_complete_of_furnished : ∃ y members registered u v t,
    (smallRun furnishedProgram).Passed ∧ (smallRun furnishedProgram).Linked Public ∧
    (smallRun furnishedProgram).routers[0]? = some y ∧ y.shutDown = false ∧
    (smallRun furnishedProgram).Undrained ∧
    (isEnabled 0 .fatal).on (smallRun furnishedProgram) = (.ok true, smallRun furnishedProgram) ∧
    (shutdown (.upTo 8) 0).on (smallRun furnishedProgram) = (.ok (), t) ∧
    TornDown (.upTo 8) 0 y members registered (smallRun furnishedProgram) u v t ∧ t.Dark 0 := by
  set s := smallRun furnishedProgram with hs
  have hpassed : s.Passed := (reachable_smallRun _).passed
  have hlinked : s.Linked Public := (reachable_smallRun _).linked
  obtain ⟨y, hy⟩ := Option.isSome_iff_exists.mp (by decide +kernel : s.routers[0]?.isSome = true)
  have hview : s.routers[0]?.map Router.shutDown = some false := by decide +kernel
  rw [hy, Option.map_some, Option.some.injEq] at hview
  have hnone : ∀ x ∈ s.engines, x.drainer = none := by decide +kernel
  have hundrained : s.Undrained := fun e x hx => hnone x (List.mem_of_getElem? hx)
  obtain ⟨hfatal, hends, hdark⟩ := shutdown_complete hpassed hlinked hy
  rcases hends 8 (by decide) hview hundrained with
    ⟨members, registered, u, v, t, hon, htorn⟩ | ⟨stop, t, hon, -⟩
  · exact ⟨y, members, registered, u, v, t, hpassed, hlinked, hy, hview, hundrained, hfatal hview, hon,
      htorn, hdark 8 t t (by rw [hon]) (.inl (.refl t))⟩
  · have hok : ((shutdown (.upTo 8) 0).on s).1.toBool = true := by decide +kernel
    rw [hon] at hok
    simp [Except.toBool] at hok

/-- A sink with a name and a script for its end. -/
def closingSink (name : String) (onShutdown : List (Move Step)) : SinkBehaviour Step :=
  { smallSink (fun _ _ => []) (fun _ => onShutdown) with name := name }

/-- Three engines are attached to a router; when the first one closes, it stops the third one. -/
def tangledProgram : List Step :=
  [.makeRouter "router" (.ok (.startingAt .info)),
    .makeEngine "first" 5 (.scripted (closingSink "first" [.take "stop" (.onEngine "third" .stop)])),
    .makeEngine "second" 5 (.scripted (closingSink "second" [])),
    .makeEngine "third" 5 (.scripted (closingSink "third" [])),
    .onEngine "first" (.init "router"),
    .onEngine "second" (.init "router"),
    .onEngine "third" (.init "router")]

/-- A log call in the namespace "a". -/
def nestedCall (text : String) : LogCall := { smallCall text with site := ⟨"a", "<unknown>", 0⟩ }

/-- A sink that logs once more when it is handed "m", and otherwise asks for a route. -/
def askingSink : SinkBehaviour Step :=
  smallSink
    (fun _ objects =>
      if objects = ["m"] then [.take "log" (.onRouter "router" (.log (nestedCall "x")))]
      else [.take "resolve" (.onRouter "router" (.resolve "x" none))])
    fun _ => []

/-- An engine that is attached elsewhere is registered with a router; an object waits in its queue. -/
def askingProgram : List Step :=
  [.makeRouter "router" (.ok (.startingAt .info)),
    .makeRouter "other" (.ok (.startingAt .info)),
    .makeEngine "engine" 5 (.scripted askingSink),
    .onEngine "engine" (.init "other"),
    .onRouter "router" (.register "a" "engine"),
    .onRouter "router" (.log (nestedCall "m"))]

/-- A serialized handler shuts its router down when it is given a record. -/
def lockedProgram : List Step :=
  [.makeRouter "router" (.ok (.startingAt .info)),
    .makeHandler "locked" (.scripted {
      name := "locked"
      serialized := true
      onRecord := fun _ _ => [.take "shutdown" (.onRouter "router" .shutdown)]
      onDie := fun _ => [] }),
    .onRouter "router" (.addDefault "locked")]

/-- The engines whose shutdown hooks were called, in order. -/
def closers (s : System) : List EngineId :=
  s.history.filterMap fun
    | .hook e .shutdown => some e
    | _ => none

/-- Neither does the third engine wait for its turn, nor are all routes dropped at the end, although all
hooks return normally and nobody is given a slot.  Inside of a serialized handler, a shutdown does not
come to an end at all. -/
theorem shutdown_out_of_turn :
    (let s := smallRun tangledProgram
    let after := (shutdown (.upTo 8) 0).on s
    (∀ x ∈ s.engines, x.state = .active ∧ x.drainer = none) ∧
      s.routers[0]?.map (fun y => y.aspects.map Prod.snd) = some [0, 1, 2] ∧
      after.1.toBool = true ∧ after.2.slots.length = s.slots.length ∧
      after.2.closers = [0, 2, 1]) ∧
    (let s := smallRun askingProgram
    let after := (shutdown (.upTo 8) 0).on s
    (∀ x ∈ s.engines, x.drainer = none) ∧ after.1.toBool = true ∧
      after.2.slots.length = s.slots.length ∧
      after.2.routers[0]?.map (fun y => y.registry.cachedRoutes) = some 1) ∧
    (let s := smallRun lockedProgram
    let after := (log (.upTo 8) 0 (smallCall "x")).on s
    s.engines.length = 0 ∧ isOver after.1 = false ∧
      after.2.history.any (fun | .dying 1 => true | _ => false) = true) := by
  decide +kernel

end System

end NamespaceLogging
