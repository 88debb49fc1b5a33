import NamespaceLogging.Proofs.LastWords

/-!
# Cascades come to an end

Each last word is a log call, and may be the failure too many for other engines, to which records go by
older lists of members all the same.  Yet an engine says its last word after it has ended: there are fewer
active engines then, and so a log call comes to its end.

The handlers beside the engines must not keep it up.  Hooks that log themselves could go on for ever, and
so do gates that hand records back to themselves.

## Main definitions

* `System.Concludes`: an act returns, after a cascade at most.
* `System.Discreet`: no hook logs, and no gate hands records back to itself.
* `System.activeDefaults`: the active engines among the default handlers of a router.
* `System.Aftermath`: what a log call leads to.

## Main results

* `System.logCallsEnd`: log calls come to their end in tame systems.
* `System.on_log_ring`: a log call does not if its record goes to a gate that hands it back to itself.
* `System.exists_height_iff`: in all other systems, gates lead downwards.
* `System.Rested.log_calms`: cascades come to an end in programs whose hooks do not log.
-/

set_option autoImplicit false

namespace NamespaceLogging

open Act

namespace System

variable {s t u : System} {e : EngineId} {x : Engine} {k : RecordId} {id : SlotId} {g : GroupId}
  {ids : List SlotId} {told : List (EngineId × RouterId)} {height : SlotId → Nat}

/-! ## Handlers that are no engines -/

/-- A handler that keeps the record to itself. -/
lemma settles_handlePlain {n : HandlerId} {h : Handler} (hh : s.handlers[n]? = some h)
    (hopen : ∀ filter g, h ≠ .gate filter g) (hlinked : s.Linked Public) (hk : k < s.records.size)
    (hdiscreet : h.Discreet s) :
    Settles (fun calls => handlePlain calls n k) s fun _ t => s.Proceeds t := by
  refine settles_of_eq (fun _ => on_bind_of_ok (on_handler hh) _) ?_
  cases h with
  | memory kept =>
    have hupdate := gives_updateHandler hh (.refl s)
      (rfl : (Handler.memory (k :: kept)).nature = _) hlinked
    exact settles_of_on (fun _ => rfl) rfl (Unmoved.proceeds ⟨rfl, rfl, rfl, rfl⟩ hupdate.1 rfl)
  | stderr layout =>
    have hon : (layOut layout k).on s = _ :=
      on_bind_of_ok (on_record (Array.getElem?_eq_getElem hk)) _
    have hlayOut : Settles (fun _ => layOut layout k) s fun _ t => s.Proceeds t := by
      refine settles_of_unmoved hlinked (edits_layOut layout k) ?_ ?_ <;> rw [hon] <;>
        cases layout.render s.records[k] <;> first | rfl | exact ⟨rfl, rfl, rfl, rfl⟩
    refine settles_bind hlayOut fun line t hst => ?_
    exact settles_of_unmoved (hst.edited.linked hlinked) (edits_writeError _) rfl ⟨rfl, rfl, rfl, rfl⟩
  | gate filter g => exact absurd rfl (hopen filter g)
  | scripted behaviour calls deaths =>
    refine settles_bind (settles_renderMessage hlinked hk) fun r t hst => ?_
    have hupdate := gives_updateHandler hh hst.edited
      (rfl : (Handler.scripted behaviour (calls + 1) deaths).nature = _) (hst.edited.linked hlinked)
    refine settles_bind (settles_of_on (fun _ => rfl) rfl
      (Unmoved.proceeds ⟨rfl, rfl, rfl, rfl⟩ hupdate.1 rfl)) fun _ u htu => ?_
    refine settles_bind (settles_note u _ rfl rfl) fun _ v huv => ?_
    have hrun := ((hst.trans htu).trans huv).settles_runScript behaviour.name hlinked
      (hdiscreet calls r.message)
    exact settles_bind hrun fun _ w _ => settles_of_on (fun _ => rfl) rfl (.refl w)

/-- A gate passes the record on, or stops it. -/
lemma on_handlePlain_of_gate (calls : Reentry) {n : HandlerId} {filter : LevelSet} {rec : Record}
    (hgate : s.handlers[n]? = some (.gate filter g)) (hrec : s.records[k]? = some rec) :
    (handlePlain calls n k).on s =
      if filter.contains rec.level then (dispatchGroup calls g k).on s else (.ok (), s) := by
  rw [handlePlain, on_bind_of_ok (on_handler hgate)]
  simp only
  rw [on_bind_of_ok (on_record hrec)]
  split <;> rfl

/-! ## Slots -/

/-- The act returns, after a cascade at most. -/
def Concludes (act : Reentry → Act Unit) (s : System) : Prop :=
  Settles act s fun result t => result = .ok () ∧ ∃ told, s.CascadesTo told t

/-- A record that is handed to a slot was handed to its handler first. -/
lemma delivered_proceeds (s : System) (id : SlotId) (k : RecordId) :
    s.Proceeds (s.noted (.delivered id k)) :=
  proceeds_aside s _ rfl rfl

/-- The handler of a slot is called without a lock. -/
lemma concludes_invoke_open {x : Slot} (hslot : s.slot? id = some x)
    (hserial : (serializes x.handler).on (s.noted (.delivered id k)) =
      (.ok false, s.noted (.delivered id k)))
    (hcall : Calms (fun calls => handle calls x.handler k) (s.noted (.delivered id k))) :
    Concludes (fun calls => invoke calls id k) s :=
  (settles_invoke hslot hserial hcall).mono fun _ _ ⟨hok, _, told, ht⟩ =>
    ⟨hok, told, (delivered_proceeds s id k).toCascadesTo.after ht⟩

/-- A slot with a handler that keeps the record to itself. -/
lemma concludes_invoke_plain {n : HandlerId} {lock : LockId} {h : Handler} (hs : s.Ready height)
    (hk : k < s.records.size) (hslot : s.slot? id = some ⟨.plain n, lock⟩)
    (hh : s.handlers[n]? = some h) (hopen : ∀ filter g, h ≠ .gate filter g) :
    Concludes (fun calls => invoke calls id k) s := by
  have hsu := delivered_proceeds s id k
  set u := s.noted (.delivered id k)
  have hu := hsu.ready hs
  have hdiscreet : h.Discreet u := hu.tame.handlers id n lock h hslot hh
  obtain ⟨serial, hserial⟩ := exists_serializes (hu.tame.linked.knows hslot)
  cases serial with
  | false =>
    refine concludes_invoke_open hslot hserial (calms_of_proceeds ?_)
    exact settles_handlePlain hh hopen hu.tame.linked hk hdiscreet
  | true =>
    have hfree : lock ∉ s.held := by simp [hs.free]
    have hlocked : u.Edited Public { u with held := lock :: u.held } := .single (.locked u lock)
    have hcall := settles_handlePlain (s := { u with held := lock :: u.held }) hh hopen
      (hlocked.linked hu.tame.linked) hk (Handler.Discreet.later hlocked rfl rfl hdiscreet)
    refine (settles_invoke_serialized hslot hserial hfree hcall).mono ?_
    rintro _ _ ⟨hok, -, t, ht, rfl⟩
    exact ⟨hok, [], hsu.toCascadesTo.after ht.toCascadesTo.unlocked⟩

/-- One slot after the other. -/
lemma concludes_invokeAll : ∀ (ids : List SlotId) (s : System), s.Ready height →
    (∀ id ∈ ids, s.HasSlot id) → k < s.records.size →
    (∀ id ∈ ids, ∀ t : System, t.Ready height → t.HasSlot id → k < t.records.size →
      Concludes (fun calls => invoke calls id k) t) → Concludes (fun calls => invokeAll calls k ids) s
  | [], s, _, _, _, _ => settles_of_on (fun _ => rfl) rfl ⟨rfl, [], .refl s⟩
  | id :: ids, s, hs, hslots, hk, hinvoke => by
    have hfirst := hinvoke id List.mem_cons_self s hs (hslots id List.mem_cons_self) hk
    refine Settles.bind hfirst (fun _ t ⟨_, told, hst⟩ => ?_) fun _ _ h => absurd h.1 nofun
    have hupholds := hst.edited.upholds
    refine (concludes_invokeAll ids t (hst.ready hs)
      (fun i hi => hupholds.hasSlot (hslots i (List.mem_cons_of_mem _ hi))) (hupholds.records hk)
      fun i hi => hinvoke i (List.mem_cons_of_mem _ hi)).mono fun _ u ⟨hok, told', htu⟩ => ?_
    exact ⟨hok, _, hst.trans htu⟩

/-- The members of a group. -/
lemma concludes_dispatchGroup {members : List SlotId} (hs : s.Ready height)
    (hmembers : s.groups[g]? = some members) (hk : k < s.records.size)
    (hinvoke : ∀ id ∈ members, ∀ t : System, t.Ready height → t.HasSlot id → k < t.records.size →
      Concludes (fun calls => invoke calls id k) t) :
    Concludes (fun calls => dispatchGroup calls g k) s := by
  have hon : (group g).on s = (.ok members, s) := by rw [on_group, hmembers]
  refine settles_of_eq (fun _ => on_bind_of_ok hon _) ?_
  exact concludes_invokeAll members s hs (hs.tame.linked.members g members hmembers) hk hinvoke

/-- **A slot is handed a record.**

**Proof sketch.** Induction on the height of the slot, since gates pass the record on to lower slots. -/
lemma concludes_invoke : ∀ (bound : Nat) (id : SlotId) (s : System), height id < bound →
    s.Ready height → s.HasSlot id → k < s.records.size →
      Concludes (fun calls => invoke calls id k) s
  | 0, _, _, hbound, _, _, _ => absurd hbound (Nat.not_lt_zero _)
  | bound + 1, id, s, hbound, hs, hslot, hk => by
    obtain ⟨⟨ref, lock⟩, hx⟩ := hslot.exists
    have hu := (delivered_proceeds s id k).ready hs
    have hknown := hs.tame.linked.knows hx
    cases ref with
    | engine e => exact concludes_invoke_open hx rfl (calms_takeRecord hu hknown hk)
    | plain n =>
      have hh := List.getElem?_eq_getElem hknown
      by_cases hgate : ∃ filter g, s.handlers[n] = .gate filter g
      · obtain ⟨filter, g, hgate⟩ := hgate
        rw [hgate] at hh
        have hlookup : (handler n).on (s.noted (.delivered id k)) = _ := on_handler hh
        refine concludes_invoke_open hx (on_bind_of_ok hlookup _) ?_
        have hmembers := List.getElem?_eq_getElem (hs.tame.linked.gates n filter g hh)
        have hcall := fun calls => on_handlePlain_of_gate (s := s.noted (.delivered id k)) calls hh
          (Array.getElem?_eq_getElem hk)
        by_cases hpass : filter.contains s.records[k].level = true
        · refine settles_of_eq (fun calls => (hcall calls).trans (if_pos hpass)) ?_
          refine (concludes_dispatchGroup hu hmembers hk fun i hi t ht hti hkt => ?_).mono
            fun _ _ h => h.2
          have hlower := hs.tame.gates id i ⟨filter, g, _, ⟨n, lock, hx, hh⟩, hmembers, hi⟩
          exact concludes_invoke bound i t (by omega) ht hti hkt
        · exact settles_of_on (fun calls => (hcall calls).trans (if_neg hpass)) rfl ⟨[], .refl _⟩
      · exact concludes_invoke_plain hs hk hx hh fun filter g h => hgate ⟨filter, g, h⟩

/-! ## Log calls -/

/-- A record goes to its destination. -/
lemma concludes_dispatchTo {destination : Destination} (hs : s.Ready height) (hk : k < s.records.size)
    (hslot : ∀ id, destination = .slot id → s.HasSlot id)
    (hgroup : ∀ g, destination = .group g → g < s.groups.length) :
    Concludes (fun calls => dispatchTo calls destination k) s := by
  cases destination with
  | slot id => exact concludes_invoke _ id s (Nat.lt_succ_self _) hs (hslot id rfl) hk
  | group g =>
    exact concludes_dispatchGroup hs (List.getElem?_eq_getElem (hgroup g rfl)) hk
      fun id _ t => concludes_invoke _ id t (Nat.lt_succ_self _)

/-- The record of a log call is made, and its route is found. -/
lemma admitted_proceeds {r : RouterId} {y : Router} (hy : s.routers[r]? = some y) (call : LogCall) :
    (s.noted (.logged r call)).Proceeds (s.admitted r y call) := by
  set t := s.noted (.logged r call)
  have hrecorded : t.Edited Public { t with records := t.records.push (t.snapshot y.capture call) } :=
    .single (.recorded t _)
  have hcaptured : t.Edited Public (t.captured y.capture call) :=
    hrecorded.tail (.beside (beside_of_eq rfl rfl rfl rfl rfl rfl rfl rfl rfl))
  have hrouter : (t.captured y.capture call).routers[r]? = some y := hy
  exact Unmoved.proceeds ⟨rfl, rfl, rfl, rfl⟩
    (hcaptured.tail (.routed _ hrouter (y.follows_resolve call.site.namespaceName))) rfl

/-- **Log calls come to their end**, however many engines are active.

**Proof sketch.** Induction on the number of active engines.  Each last word is said after the engine has
ended, when there are fewer of them. -/
lemma logCallsEnd (height : SlotId → Nat) : ∀ n, LogCallsEnd height n
  | 0 => fun _ _ _ _ _ _ hcard _ => absurd hcard (Nat.not_lt_zero _)
  | n + 1 => by
    intro s r y call hs hfree hcard hy
    cases henabled : y.filter.any fun set => set.contains call.level with
    | false =>
      exact settles_of_on (fun calls => on_log_of_disabled calls hy henabled) rfl ⟨rfl, by simp⟩
    | true =>
      have hadmitted := admitted_proceeds hy call
      have hnothing := (startsNothing_noted s (.logged r call)).trans hadmitted.toStartsNothing
      have hready : (s.admitted r y call).Ready height := by
        refine ⟨hnothing.tame hs, hnothing.held.trans hfree, fun v r' y' call' hv hvfree hcard' => ?_⟩
        exact logCallsEnd height n v r' y' call' hv hvfree
          (Nat.lt_of_lt_of_le hcard' (hnothing.card_le.trans (Nat.le_of_lt_succ hcard)))
      have hk : s.records.size < (s.admitted r y call).records.size :=
        (Array.getElem?_eq_some_iff.mp (record_admitted r y call)).1
      have hsorted := hs.linked.routers r y hy
      refine settles_of_eq (fun calls => on_log_of_enabled calls hy henabled) ?_
      refine (concludes_dispatchTo hready hk (fun id hid => ?_) fun g hg => ?_).mono
        fun _ t ⟨hok, told, ht⟩ => ⟨hok, by simpa using ⟨told, hadmitted.toCascadesTo.after ht⟩⟩
      · cases hroute : (y.registry.resolve call.site.namespaceName).1 with
        | slot i =>
          rw [hroute] at hid
          obtain rfl := Destination.slot.inj hid
          exact (hs.linked.routes r y hy i (mem_of_resolve hsorted.coherent hroute)).1
        | defaults =>
          rw [hroute] at hid
          cases hid
      · cases hroute : (y.registry.resolve call.site.namespaceName).1 with
        | slot i =>
          rw [hroute] at hg
          cases hg
        | defaults =>
          rw [hroute] at hg
          obtain rfl := Destination.group.inj hg
          exact hsorted.defaults

/-! ## Gates -/

/-- **A gate that hands records back to itself never returns**, unless it stops them: however deeply
calls may nest, that is not deep enough. -/
lemma on_invoke_ring {filter : LevelSet} {members : List SlotId} {rec : Record} : ∀ (depth : Nat)
    (s : System), s.Gated id filter g → s.groups[g]? = some (id :: members) →
      s.records[k]? = some rec → filter.contains rec.level = true →
        ∃ t, (invoke (.upTo depth) id k).on s = (.error .exhausted, t) := by
  intro depth s hgated hmembers hrec hpass
  obtain ⟨n, lock, hslot, hhandler⟩ := hgated
  set u := s.noted (.delivered id k)
  have hlookup : (handler n).on u = (.ok (.gate filter g), u) := on_handler hhandler
  have hserial : (serializes (.plain n)).on u = (.ok false, u) := on_bind_of_ok hlookup _
  obtain ⟨t, hcall⟩ : ∃ t, ((Reentry.upTo depth).handle (.plain n) k).on u = (.error .exhausted, t) := by
    cases depth with
    | zero => exact ⟨u, rfl⟩
    | succ depth =>
      obtain ⟨t, hagain⟩ := on_invoke_ring depth u ⟨n, lock, hslot, hhandler⟩ hmembers hrec hpass
      have hgroup : (group g).on u = (.ok (id :: members), u) := by rw [on_group]; simp [u, hmembers]
      have hrun := (on_handlePlain_of_gate (.upTo depth) (s := u) hhandler hrec).trans (if_pos hpass)
      refine ⟨t, hrun.trans ?_⟩
      rw [dispatchGroup, on_bind_of_ok hgroup]
      exact on_bind_of_error hagain _
  refine ⟨t, ?_⟩
  have hcontain : (Act.contain ((Reentry.upTo depth).handle (.plain n) k)).on u =
      (.error .exhausted, t) := by rw [on_contain, hcall]
  rw [invoke, on_bind_of_ok (on_slot hslot), on_bind_of_ok (on_note _), on_bind_of_ok hserial]
  simp only [Bool.false_eq_true, if_false]
  exact on_bind_of_error hcontain _

/-- A log call whose record goes to such a gate never returns. -/
lemma on_log_ring {r : RouterId} {y : Router} {call : LogCall} {filter : LevelSet} {members : List SlotId}
    (hy : s.routers[r]? = some y)
    (henabled : (y.filter.any fun set => set.contains call.level) = true)
    (hroute : (y.registry.resolve call.site.namespaceName).1 = .defaults)
    (hgated : s.Gated id filter y.defaults) (hmembers : s.groups[y.defaults]? = some (id :: members))
    (hpass : filter.contains call.level = true) (depth : Nat) :
    ∃ t, (log (.upTo depth) r call).on s = (.error .exhausted, t) := by
  obtain ⟨t, hring⟩ := on_invoke_ring depth (s.admitted r y call) hgated hmembers
    (record_admitted r y call) hpass
  have hmembers' : (s.admitted r y call).groups[y.defaults]? = some (id :: members) := hmembers
  have hgroup : (group y.defaults).on (s.admitted r y call) =
      (.ok (id :: members), s.admitted r y call) := by rw [on_group, hmembers']
  refine ⟨t, ?_⟩
  rw [on_log_of_enabled _ hy henabled, hroute]
  exact (on_bind_of_ok hgroup _).trans (on_bind_of_error hring _)

/-- **Gates lead downwards** just if none of them hands records back to itself. -/
lemma exists_height_iff (hlinked : s.Linked Public) :
    (∃ height : SlotId → Nat, ∀ id id', s.Feeds id id' → height id' < height id) ↔
      ∀ id, ¬ Relation.TransGen s.Feeds id id := by
  classical
  refine ⟨fun ⟨height, hheight⟩ id hring => ?_, fun hgates => ?_⟩
  · have hdown : ∀ {i}, Relation.TransGen s.Feeds id i → height i < height id := by
      intro i h
      induction h with
      | single hfeeds => exact hheight _ _ hfeeds
      | tail _ hfeeds ih => exact (hheight _ _ hfeeds).trans ih
    exact Nat.lt_irrefl _ (hdown hring)
  · -- the height of a slot is the number of the slots below it
    refine ⟨fun id => ((Finset.range (s.slots.length + 1)).filter (Relation.TransGen s.Feeds id)).card,
      fun id id' hfeeds => Finset.card_lt_card ?_⟩
    have hsubset : (Finset.range (s.slots.length + 1)).filter (Relation.TransGen s.Feeds id') ⊆
        (Finset.range (s.slots.length + 1)).filter (Relation.TransGen s.Feeds id) :=
      Finset.monotone_filter_right _ fun _ _ hi => .head hfeeds hi
    refine (Finset.ssubset_iff_of_subset hsubset).mpr ⟨id', Finset.mem_filter.mpr ⟨?_, .single hfeeds⟩,
      fun hmem => hgates id' (Finset.mem_filter.mp hmem).2⟩
    obtain ⟨-, g, members, -, hmembers, hmem⟩ := hfeeds
    exact Finset.mem_range.mpr (Nat.lt_succ_of_le (hlinked.members g members hmembers id' hmem).2)

/-! ## Log calls of a program -/

/-- Between two steps, no lock is held. -/
lemma Rested.free (hs : s.Rested) : s.held = [] := by
  obtain ⟨machinery, callStack, clock, hs⟩ := hs
  have hlinked := linked_initial machinery callStack clock
  induction hs with
  | refl => rfl
  | tail h hfinish ih =>
    obtain ⟨depth, step, hover, rfl⟩ := hfinish
    have hlinked' := ((Completes.runs h).edited hlinked).linked hlinked
    exact ((edits_perform (Reentry.edits_upTo depth) step _ hlinked').2.1 hover).trans ih

/-- The hooks of active engines and of handlers in slots do not log, and no gate hands records back to
itself. -/
structure Discreet (s : System) : Prop where
  engines : ∀ (e : EngineId) x, s.engines[e]? = some x → x.state = .active → x.sink.Discreet s
  handlers : ∀ id n lock h, s.slot? id = some ⟨.plain n, lock⟩ → s.handlers[n]? = some h → h.Discreet s
  gates : ∀ id, ¬ Relation.TransGen s.Feeds id id

/-- A program whose hooks are discreet is tame between two steps. -/
lemma Rested.exists_tame (hs : s.Rested) (hdiscreet : s.Discreet) : ∃ height, s.Tame height := by
  have hlinked := hs.reachable.linked
  have hsound := hs.reachable.sound
  obtain ⟨height, hgates⟩ := (exists_height_iff hlinked).mpr hdiscreet.gates
  refine ⟨height, hlinked, fun e x hx hactive => ⟨hdiscreet.engines e x hx hactive, ?_, fun r hr => ?_⟩,
    hdiscreet.handlers, hgates⟩
  · have hstarting := (hsound.lives.vital hx).starting
    cases hflag : x.starting with
    | false => rfl
    | true => simp [hstarting hflag] at hactive
  · obtain ⟨r', id, hactivated, hrouter, -⟩ := hsound.careers.place hx hactive
    obtain rfl := Option.some.inj (hr.symm.trans hrouter)
    exact hsound.wired.router e r id hactivated

/-- The default handlers of the router. -/
def defaultHandlers (s : System) (r : RouterId) : List HandlerRef :=
  ((s.routers[r]?.bind fun y => s.groups[y.defaults]?).getD []).filterMap fun id =>
    (s.slot? id).map Slot.handler

/-- The active engines among the default handlers of the router. -/
def activeDefaults (s : System) (r : RouterId) : Finset EngineId :=
  s.actives.filter fun e => .engine e ∈ s.defaultHandlers r

/-- What a log call at the router `r` leads to that is made in the state `s` and over in the state `t`.
The engines that say their last word are listed with their routers; `new` is what was written down. -/
structure Aftermath (s : System) (r : RouterId) (told : List (EngineId × RouterId)) (new : List Moment)
    (t : System) : Prop where
  cascade : Cascade new told
  /-- The only log calls are the last words. -/
  loggedTo : (new.map Moment.entry).filterMap Entry.loggedTo? = told.map Prod.snd
  /-- Each engine says one last word at most, if it was active when the call began. -/
  once : (told.map Prod.fst).Nodup
  attached : ∀ p ∈ told, s.Attached p.1 p.2
  bound : told.length ≤ s.actives.card
  defaults : s.actives ⊆ s.activeDefaults r → told.length ≤ (s.activeDefaults r).card
  /-- Whoever has said his last word is shut down, and in no list of his router. -/
  detached : ∀ p ∈ told, ∃ x id, t.engines[p.1]? = some x ∧ x.state = .shutDown ∧ x.slot = none ∧
    Entry.activated p.1 p.2 id ∈ t.history ∧ t.Absent p.2 id p.1
  /-- Whoever is handed something has not been shut down before. -/
  spared : ∀ before m after e, new = before ++ m :: after → m.entry.handedTo? = some e →
    m.assembly.Active e ∧ ∀ why, Entry.deactivated e why ∉ before.map Moment.entry

/-- An engine that has said its last word is shut down, and has left its router. -/
lemma CascadesTo.detached {r : RouterId} (h : s.CascadesTo told t) (hs : s.Sound) (ht : t.Sound)
    (hp : (e, r) ∈ told) : ∃ x id, t.engines[e]? = some x ∧ x.state = .shutDown ∧ x.slot = none ∧
      Entry.activated e r id ∈ t.history ∧ t.Absent r id e := by
  obtain ⟨⟨x, hx, hactive, hrouter⟩, hended⟩ := h.ended _ hp
  obtain ⟨r', id, hactivated, hrouter', -⟩ := hs.careers.place hx hactive
  obtain rfl := Option.some.inj (hrouter.symm.trans hrouter')
  obtain ⟨new, hnew, -⟩ := h.moments
  have hmem : Entry.activated e r id ∈ t.history := by
    rw [history, hnew, List.map_append]
    exact List.mem_append_left _ hactivated
  obtain ⟨y, hy, -⟩ := h.exists_engine hx
  have hcareer := ht.careers e y hy
  have hnot : y.state ≠ .active := fun hstate => hended ((active_of_some hy).mpr hstate)
  refine ⟨y, id, hy, ?_, hcareer.slotless hnot, hmem, ht.absent hmem (h.freed _ hp)⟩
  cases hstate : y.state with
  | uninitialized => exact absurd hstate (hcareer.started.mpr ⟨r, id, hmem⟩)
  | active => exact absurd hstate hnot
  | shutDown => rfl

/-- **Cascades come to an end.**  However many engines are active, whatever their thresholds, counts and
queues are, and however their batches go: a log call returns normally, if calls may nest deeply enough.
It does nothing at all, or there is a cascade.  Each engine says one last word at most, and only if it was
active when the call began; it is shut down then, and has left its router.  Nothing is handed to an
engine that was shut down in the same call.

There are two conditions on the system, which `Discreet` names.  The hooks of active engines and of
handlers in slots do not log; and no gate hands records back to itself, directly or through other gates.
The first does not imply the second, and the second cannot be left out: a log call whose record goes to
such a gate never returns, see `on_log_ring`.

**Proof sketch.** Each last word is a log call with fewer active engines, by induction on whose number
log calls come to their end; in between, records go from gates to lower slots. -/
theorem Rested.log_calms {r : RouterId} {y : Router} (hs : s.Rested) (hdiscreet : s.Discreet)
    (hy : s.routers[r]? = some y) (call : LogCall) :
    ∃ limit t, (∀ depth, limit ≤ depth → (log (.upTo depth) r call).on s = (.ok (), t)) ∧
      if y.filter.any (fun set => set.contains call.level) then
        ∃ told new, t.moments = (s.noted (.logged r call)).moments ++ new ∧ s.Aftermath r told new t
      else t = s := by
  have hsound := hs.reachable.sound
  obtain ⟨height, htame⟩ := hs.exists_tame hdiscreet
  obtain ⟨limit, result, t, hon, -, rfl, hcalms⟩ :=
    logCallsEnd height _ s r y call htame hs.free (Nat.lt_succ_self _) hy
  refine ⟨limit, t, hon, ?_⟩
  by_cases henabled : (y.filter.any fun set => set.contains call.level) = true
  swap
  · rwa [if_neg henabled] at hcalms ⊢
  rw [if_pos henabled] at hcalms ⊢
  obtain ⟨told, hst⟩ := hcalms
  have hevolves := (regular_log (Reentry.regular_upTo limit) r call s hsound).1
  rw [hon limit le_rfl] at hevolves
  have htsound : t.Sound := hevolves.sound hsound
  have hbegun : (s.noted (.logged r call)).Sound :=
    (regular_note rfl s hsound).1.sound hsound
  obtain ⟨new, hnew, hcascade⟩ := hst.moments
  have hbound : told.length ≤ s.actives.card := hst.length_le
  refine ⟨told, new, hnew, hcascade, hcascade.loggedTo, hst.once, fun p hp => (hst.ended p hp).1, hbound,
    fun hall => hbound.trans (Finset.card_le_card hall), fun p hp => ?_, ?_⟩
  · exact hst.detached hbegun htsound hp
  · intro before m after e hsplit hhanded
    have hactive : m.assembly.Active e := hcascade.active m (by simp [hsplit]) e hhanded
    obtain ⟨x, hx, hstate⟩ := Option.map_eq_some_iff.mp hactive
    have hmoments : t.moments = ((s.noted (.logged r call)).moments ++ before) ++ m :: after := by
      rw [hnew, hsplit, List.append_assoc]
    have hpast := (htsound.lives e).past hmoments
    rw [hx] at hpast
    refine ⟨hactive, fun why hmem => hpast.marked.not_ended (by simp [hstate]) why ?_⟩
    simp only [List.map_append]
    exact List.mem_append_left _ (List.mem_append_right _ hmem)

/-! ## A case -/

/-- A sink whose batches fail after the sink has asked whether a router lets the last word through. -/
def queryingSink : SinkBehaviour Step :=
  smallSink (fun _ _ => [.take "asked" (.onRouter "router" (.isEnabled .fatal)),
    .fail (.processing "bad")]) fun _ => []

/-- Two engines that fail once too often with their first batch, and a gate before both of them. -/
def calmingProgram : List Step :=
  [.makeRouter "router" (.ok (.startingAt .info)),
    .makeEngine "first" 1 (.scripted queryingSink),
    .makeEngine "second" 1 (.scripted queryingSink),
    .onEngine "first" (.init "router"),
    .onEngine "second" (.init "router"),
    .makeHandler "gate" (.gate (.ok (.startingAt .warn)) none "router"),
    .onRouter "router" (.register "quiet" "gate")]

/-- Both engines are default handlers, and their hooks are discreet. -/
theorem log_calms_of_two : (smallRun calmingProgram).actives = {0, 1} ∧
    (smallRun calmingProgram).activeDefaults 0 = {0, 1} ∧ (smallRun calmingProgram).Discreet ∧
    ∃ limit t, (∀ depth, limit ≤ depth →
      (log (.upTo depth) 0 (smallCall "x")).on (smallRun calmingProgram) = (.ok (), t)) ∧
      ∃ told new,
        t.moments = ((smallRun calmingProgram).noted (.logged 0 (smallCall "x"))).moments ++ new ∧
        (smallRun calmingProgram).Aftermath 0 told new t := by
  set s := smallRun calmingProgram
  have hs : s.Rested := rested_smallRun (by decide +kernel)
  obtain ⟨y, hy⟩ := Option.isSome_iff_exists.mp (by decide +kernel : s.routers[0]?.isSome = true)
  have hfilter : s.routers[0]?.map Router.filter = some (some (.startingAt .info)) := by decide +kernel
  have hsinks : s.engines.map Engine.sink = [.scripted queryingSink, .scripted queryingSink] := rfl
  have hgates : s.handlers = [.gate (.startingAt .warn) 0] := rfl
  have hlow : ∀ members ∈ s.groups, ∀ id ∈ members, id < 3 := by decide +kernel
  have hhigh : ∀ id < 3, ∀ n lock, s.slot? id ≠ some ⟨.plain n, lock⟩ := by
    have hslots : ∀ id < 3,
        (s.slot? id).map Slot.handler ∈ [none, some (.engine 0), some (.engine 1)] := by decide +kernel
    intro id hid n lock hslot
    simpa [hslot] using hslots id hid
  have hasks : (Step.onRouter "router" (.isEnabled .fatal)).Discreet s :=
    discreet_of_asks (by decide +kernel : s.names.routers.lookup "router" = some 0) hy
      fun _ _ _ hz => on_bind_of_ok (on_bind_of_ok (on_router_of_some hz) _) _
  have hdiscreet : s.Discreet := by
    refine ⟨fun e x hx _ => ?_, fun id n lock h _ hh => ?_, ?_⟩
    · have hsink : x.sink ∈ s.engines.map Engine.sink := List.mem_map_of_mem (List.mem_of_getElem? hx)
      obtain hsink : x.sink = .scripted queryingSink := by simpa [hsinks] using hsink
      rw [hsink]
      refine ⟨nofun, fun _ _ => ?_, nofun⟩
      exact List.forall_mem_cons.mpr ⟨hasks, List.forall_mem_cons.mpr ⟨trivial, nofun⟩⟩
    · obtain rfl : h = .gate (.startingAt .warn) 0 := by simpa [hgates] using List.mem_of_getElem? hh
      trivial
    · refine (exists_height_iff hs.reachable.linked).mp ⟨id, fun i i' hfeeds => ?_⟩
      obtain ⟨-, g, members, ⟨n, lock, hslot, -⟩, hmembers, hmem⟩ := hfeeds
      have hi' := hlow members (List.mem_of_getElem? hmembers) i' hmem
      exact Nat.lt_of_lt_of_le hi' (Nat.le_of_not_lt fun hi => hhigh i hi n lock hslot)
  refine ⟨by decide +kernel, by decide +kernel, hdiscreet, ?_⟩
  obtain ⟨limit, t, hon, hcalms⟩ := hs.log_calms hdiscreet hy (smallCall "x")
  rw [hy, Option.map_some, Option.some.injEq] at hfilter
  rw [if_pos (by simp [hfilter]; decide)] at hcalms
  exact ⟨limit, t, hon, hcalms⟩

end System

end NamespaceLogging
