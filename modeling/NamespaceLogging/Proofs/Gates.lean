import NamespaceLogging.Proofs.LogCalls
import NamespaceLogging.Proofs.Overrides
import NamespaceLogging.Proofs.Precedence

/-!
# The gates of a router

A router with settings has a gate for each namespace with an override that asks for more than the
filter does: the gate that the last such override asks for.  A log call meets the gate of the closest
of these namespaces, if there is one, and what the gate lets through goes to the default handlers.

## Main definitions

* `System.Guards`: the registrations of a router are the gates that overrides ask for.
* `System.Arranged`: a router stands as its settings say.
* `System.passes`: whether a level passes the gate that is resolved for a namespace.
* `System.offered`: the state in which the record of a log call is offered to the default handlers.

## Main results

* `System.on_registerGates`: registering the gates.
* `System.Arranged.passes_iff`: the gate resolved for a namespace lets through what the closest
  override asks for.
* `System.on_log_of_passes`, `System.on_log_of_stopped`: a log call whose record passes is one dispatch
  to the default handlers, and nothing happens to another record.
-/

set_option autoImplicit false

namespace NamespaceLogging

open Act Namespace

namespace System

variable {s t : System} {r : RouterId} {y z : Router} {id : SlotId} {g : GroupId}

/-! ## New slots of a router -/

/-- The state with more handlers and slots, in which the router `r` is `z`. -/
def equipped (s : System) (r : RouterId) (z : Router) (handlers : List Handler) (slots : List Slot)
    (lockCount : Nat) : System :=
  { s with
    handlers := s.handlers ++ handlers
    slots := s.slots ++ slots
    lockCount := lockCount
    routers := s.routers.set r z }

/-- Equipping a state twice, for one router, is equipping it once with all handlers and slots. -/
lemma equipped_equipped (handlers handlers' : List Handler) (slots slots' : List Slot)
    (lockCount lockCount' : Nat) :
    (s.equipped r y handlers slots lockCount).equipped r z handlers' slots' lockCount' =
      s.equipped r z (handlers ++ handlers') (slots ++ slots') lockCount' := by
  simp [equipped, List.set_set]

/-- The router for which a state was equipped is the one it was equipped with. -/
lemma router_equipped (hy : s.routers[r]? = some y) (handlers : List Handler) (slots : List Slot)
    (lockCount : Nat) : (s.equipped r z handlers slots lockCount).routers[r]? = some z := by
  have hlt : r < s.routers.length := (List.getElem?_eq_some_iff.mp hy).1
  simp [equipped, hlt]

/-- Changing a router is putting another one in its place. -/
lemma onRouter_eq (hy : s.routers[r]? = some y) (f : Router → Router) :
    s.onRouter r f = { s with routers := s.routers.set r (f y) } := by
  have hmodify : s.routers.modify r f = s.routers.set r (f y) := by
    refine List.ext_getElem? fun i => ?_
    rw [List.getElem?_modify, List.getElem?_set]
    by_cases hi : r = i
    · subst hi
      obtain ⟨hlt, heq⟩ := List.getElem?_eq_some_iff.mp hy
      simp [hlt, heq]
    · simp [hi]
  rw [onRouter, hmodify]

/-- A router that remembers one more lock is equipped with that lock and nothing else. -/
lemma relocked_eq (hy : s.routers[r]? = some y) (locks : SerialLocks HandlerRef) :
    s.relocked r locks = s.equipped r { y with locks := locks } [] [] (s.lockCount + 1) := by
  rw [relocked, onRouter_eq (s := { s with lockCount := s.lockCount + 1 }) hy]
  simp [equipped]

/-- Registering a handler under a namespace that is accepted makes one slot for it, and nothing
else. -/
lemma on_register {ns : String} (h : HandlerRef) (hy : s.routers[r]? = some y)
    (haccepts : Registry.accepts ns = true) : ∃ lock locks,
    y.locks.lockFor s.lockAlive s.lockCount h = (lock, locks) ∧
      (register r ns h).on s = (.ok (.ok (s.slots.length + 1)),
        s.equipped r { y with
          locks := locks
          registry :=
            ⟨Registry.insert (normalize ns.toList) (s.slots.length + 1) y.registry.entries, []⟩ }
          [] [⟨h, lock⟩] (s.lockCount + 1)) := by
  obtain ⟨lock, locks, hlock, hslot⟩ := on_slotFor h hy
  refine ⟨lock, locks, hlock, ?_⟩
  set t := s.equipped r { y with locks := locks } [] [⟨h, lock⟩] (s.lockCount + 1)
  have ht : { s.relocked r locks with slots := s.slots ++ [⟨h, lock⟩] } = t := by
    simp [t, relocked_eq hy, equipped]
  rw [ht] at hslot
  have hz : t.routers[r]? = some { y with locks := locks } := router_equipped hy ..
  have hregister : y.registry.register ns (s.slots.length + 1) =
      .ok ⟨Registry.insert (normalize ns.toList) (s.slots.length + 1) y.registry.entries, []⟩ := by
    rw [Registry.register, if_pos haccepts]
  rw [register, if_pos haccepts, on_bind_of_ok hslot, on_bind_of_ok (on_router_of_some hz)]
  simp only [hregister, updateRouter, on_bind, on_modify, on_pure]
  have hset := onRouter_eq hz fun x => { x with
    registry := ⟨Registry.insert (normalize ns.toList) (s.slots.length + 1) y.registry.entries, []⟩ }
  rw [onRouter] at hset
  rw [hset]
  simp [t, equipped, List.set_set]

/-- The locks that the router `y` knows, and those that are still to be made, have no number below
`least`. -/
def LocksFrom (s : System) (least : LockId) (y : Router) : Prop :=
  least ≤ s.lockCount ∧ ∀ entry ∈ y.locks.entries, least ≤ entry.2

/-- The lock of a new slot is one of these. -/
lemma LocksFrom.lockFor {least lock : LockId} {h : HandlerRef} {locks : SerialLocks HandlerRef}
    (hleast : s.LocksFrom least y)
    (hlock : y.locks.lockFor s.lockAlive s.lockCount h = (lock, locks)) :
    least ≤ lock ∧ ∀ entry ∈ locks.entries, least ≤ entry.2 := by
  obtain ⟨hcount, hentries⟩ := hleast
  unfold SerialLocks.lockFor at hlock
  split at hlock
  · rename_i known hknown
    obtain ⟨rfl, rfl⟩ := Prod.mk.inj hlock
    obtain ⟨hlookup, -⟩ := Option.filter_eq_some_iff.mp hknown
    obtain ⟨before, after, heq, -⟩ := List.lookup_eq_some_iff.mp hlookup
    have hmem : (h, known) ∈ y.locks.entries := by simp [heq]
    exact ⟨hentries _ hmem, hentries⟩
  · obtain ⟨rfl, rfl⟩ := Prod.mk.inj hlock
    refine ⟨hcount, fun entry hmem => ?_⟩
    rcases List.mem_cons.mp hmem with rfl | hmem
    · exact hcount
    · exact hentries entry (List.mem_filter.mp hmem).1

/-! ## Registering gates -/

/-- A gate stays a gate when handlers and slots are added. -/
lemma Gated.extend {filter : LevelSet} (h : s.Gated id filter g)
    (hhandlers : s.handlers <+: t.handlers) (hslots : s.slots <+: t.slots) : t.Gated id filter g := by
  obtain ⟨h, lock, hslot, hhandler⟩ := h
  have hlt : h < s.handlers.length := (List.getElem?_eq_some_iff.mp hhandler).1
  exact ⟨h, lock, slot?_of_extends hslots hslot, (getElem?_of_extends hhandlers hlt).trans hhandler⟩

/-- The registrations of the router `y` are the gates that overrides ask for. -/
structure Guards (s : System) (os : List Override) (y : Router) : Prop where
  /-- For each namespace, the gate that its last override asks for. -/
  asked : ∀ k, match Override.levelAt os k with
    | none => y.registry.entries.lookup k = none
    | some level => ∃ id, y.registry.entries.lookup k = some id ∧
        s.Gated id (.startingAt level) y.defaults
  gates : ∀ entry ∈ y.registry.entries, ∃ level, s.Gated entry.2 (.startingAt level) y.defaults

/-- The gate for one more override is in force together with those before. -/
lemma Guards.concat {os : List Override} {o : Override} (h : s.Guards os y)
    (ho : WellFormed o.namespaceName.toList) (hhandlers : s.handlers <+: t.handlers)
    (hslots : s.slots <+: t.slots) (hdefaults : z.defaults = y.defaults)
    (hentries : z.registry.entries =
      Registry.insert (normalize o.namespaceName.toList) id y.registry.entries)
    (hgate : t.Gated id (.startingAt o.level) z.defaults) : t.Guards (os ++ [o]) z where
  asked k := by
    rw [Override.levelAt_concat, hentries, Registry.lookup_insert, normalize_of_wellFormed ho]
    by_cases hk : o.namespaceName.toList = k
    · simp only [if_pos hk, if_pos hk.symm, Option.some.injEq, exists_eq_left']
      exact hgate
    · simp only [if_neg hk, if_neg (Ne.symm hk)]
      have hbefore := h.asked k
      cases hlevel : Override.levelAt os k with
      | none => rwa [hlevel] at hbefore
      | some level =>
        rw [hlevel] at hbefore
        obtain ⟨id', hlookup, hgated⟩ := hbefore
        exact ⟨id', hlookup, hdefaults ▸ hgated.extend hhandlers hslots⟩
  gates entry hmem := by
    rw [hentries, Registry.insert, List.mem_append, List.mem_singleton] at hmem
    rcases hmem with hmem | rfl
    · obtain ⟨level, hgated⟩ := h.gates entry (List.mem_filter.mp hmem).1
      exact ⟨level, hdefaults ▸ hgated.extend hhandlers hslots⟩
    · exact ⟨o.level, hgate⟩

/-- The router, which was `y`, has got handlers in slots of its own, and is `z`; the gates that the
overrides ask for are in force. -/
structure Furnished (s : System) (r : RouterId) (y : Router) (os : List Override) (t : System)
    (z : Router) : Prop where
  state : ∃ handlers slots lockCount, t = s.equipped r z handlers slots lockCount
  router : ∃ locks registry, z = { y with locks := locks, registry := registry }
  found : z.registry.found = []
  locks : ∀ least, s.LocksFrom least y → t.LocksFrom least z
  guards : t.Guards os z

/-- A router whose gates are in force already is furnished with no handler more. -/
lemma Furnished.refl {os : List Override} (hy : s.routers[r]? = some y)
    (hfound : y.registry.found = []) (hguards : s.Guards os y) : Furnished s r y os s y where
  state := by
    obtain ⟨hlt, rfl⟩ := List.getElem?_eq_some_iff.mp hy
    exact ⟨[], [], s.lockCount, by simp [equipped]⟩
  router := ⟨y.locks, y.registry, rfl⟩
  found := hfound
  locks := fun _ h => h
  guards := hguards

/-- A router that is furnished with some gates and then with others is furnished with the later
overrides in force. -/
lemma Furnished.trans {u : System} {x : Router} {os os' : List Override}
    (h : Furnished s r x os t y) (h' : Furnished t r y os' u z) : Furnished s r x os' u z where
  state := by
    obtain ⟨handlers, slots, lockCount, rfl⟩ := h.state
    obtain ⟨handlers', slots', lockCount', rfl⟩ := h'.state
    exact ⟨_, _, _, equipped_equipped ..⟩
  router := by
    obtain ⟨locks, registry, rfl⟩ := h.router
    obtain ⟨locks', registry', rfl⟩ := h'.router
    exact ⟨locks', registry', rfl⟩
  found := h'.found
  locks := fun least hleast => h'.locks least (h.locks least hleast)
  guards := h'.guards

/-- The router that was furnished is there. -/
lemma Furnished.router_at {os : List Override} (h : Furnished s r y os t z)
    (hy : s.routers[r]? = some y) : t.routers[r]? = some z := by
  obtain ⟨handlers, slots, lockCount, rfl⟩ := h.state
  exact router_equipped hy ..

/-- Registering one gate. -/
lemma on_registerGates_cons {least : Level} {done : List Override} {o : Override}
    (os : List Override) (ho : WellFormed o.namespaceName.toList) (hstrict : least < o.level)
    (hy : s.routers[r]? = some y) (hguards : s.Guards done y) :
    ∃ t z, (registerGates r least (o :: os)).on s = (registerGates r least os).on t ∧
      Furnished s r y (done ++ [o]) t z := by
  set gate : Handler := .gate (.startingAt o.level) y.defaults
  set u : System := { s with handlers := s.handlers ++ [gate] }
  have hgate : (newHandler gate).on s = (.ok s.handlers.length, u) := rfl
  obtain ⟨lock, locks, hlock, hregister⟩ := on_register (s := u) (.plain s.handlers.length) hy
    (Registry.accepts_of_spells ho (.refl _))
  set z : Router := { y with
    locks := locks
    registry := ⟨Registry.insert (normalize o.namespaceName.toList) (s.slots.length + 1)
      y.registry.entries, []⟩ }
  have hstate : u.equipped r z [] [⟨.plain s.handlers.length, lock⟩] (u.lockCount + 1) =
      s.equipped r z [gate] [⟨.plain s.handlers.length, lock⟩] (s.lockCount + 1) := by
    simp [u, equipped]
  refine ⟨_, z, ?_, ⟨_, _, _, hstate⟩, ⟨locks, _, rfl⟩, rfl, fun least hleast => ?_, ?_⟩
  · rw [registerGates, if_pos hstrict, on_bind_of_ok (on_router_of_some hy), on_bind_of_ok hgate,
      on_bind_of_ok hregister]
  · exact ⟨Nat.le_succ_of_le hleast.1, (hleast.lockFor hlock).2⟩
  · refine hguards.concat ho ⟨[gate], by simp [equipped, u]⟩
      ⟨[⟨.plain s.handlers.length, lock⟩], by simp [equipped, u]⟩ rfl rfl
      ⟨s.handlers.length, lock, ?_, ?_⟩
    · simp [equipped, u, Assembly.slot?]
    · simp [equipped, u, gate, z]

/-- **Registering the gates** gives the router a gate for each override that asks for more than the
filter does, in addition to those that it has.

**Proof sketch.** Induction on the overrides.  A gate that is registered takes the place of the one for
the same namespace, as the last override takes the place of those before. -/
lemma on_registerGates {least : Level} : ∀ {os done : List Override} {s : System} {y : Router},
    (∀ o ∈ os, WellFormed o.namespaceName.toList) → s.routers[r]? = some y →
      y.registry.found = [] → s.Guards done y →
      ∃ t z, (registerGates r least os).on s = (.ok (.ok ()), t) ∧
        Furnished s r y (done ++ os.filter fun o => decide (least < o.level)) t z
  | [], done, s, y, _, hy, hfound, hguards =>
    ⟨s, y, rfl, by simpa using Furnished.refl hy hfound hguards⟩
  | o :: os, done, s, y, hnames, hy, hfound, hguards => by
    have hnames' : ∀ o ∈ os, WellFormed o.namespaceName.toList := fun o' h =>
      hnames o' (List.mem_cons_of_mem _ h)
    by_cases hstrict : least < o.level
    · obtain ⟨t, z, hon, hfirst⟩ :=
        on_registerGates_cons os (hnames o List.mem_cons_self) hstrict hy hguards
      obtain ⟨u, z', hon', hrest⟩ :=
        on_registerGates hnames' (hfirst.router_at hy) hfirst.found hfirst.guards
      exact ⟨u, z', hon.trans hon', by simpa [hstrict] using hfirst.trans hrest⟩
    · obtain ⟨t, z, hon, hrest⟩ := on_registerGates hnames' hy hfound hguards
      refine ⟨t, z, ?_, by simpa [hstrict] using hrest⟩
      rw [registerGates, if_neg hstrict]
      exact hon

/-! ## Gates that are resolved -/

/-- Whether a level passes the gate that the router `y` resolves a namespace to, if that is a gate. -/
def passes (s : System) (y : Router) (ns : String) (level : Level) : Bool :=
  match y.registry.lookup ns with
  | .slot id => (s.gate? id).all fun filter => filter.contains level
  | .defaults => true

/-- The router `r`, which is `y`, stands as its settings say. -/
structure Arranged (s : System) (r : RouterId) (st : Settings) (y : Router) : Prop where
  router : s.routers[r]? = some y
  filter : y.filter = some st.filter
  capture : y.capture = st.captureStack
  coherent : ∃ spaces, y.registry.Coherent spaces
  guards : s.Guards st.strict y

/-- What is registered is a gate that an override asks for. -/
lemma Guards.gated {os : List Override} {k : List Char} (h : s.Guards os y)
    (hlookup : y.registry.entries.lookup k = some id) :
    ∃ level, Override.levelAt os k = some level ∧ s.Gated id (.startingAt level) y.defaults := by
  have hk := h.asked k
  cases hlevel : Override.levelAt os k with
  | none => simp [hlevel, hlookup] at hk
  | some level =>
    rw [hlevel] at hk
    obtain ⟨id', hlookup', hgated⟩ := hk
    rw [hlookup] at hlookup'
    obtain rfl := Option.some.inj hlookup'
    exact ⟨level, rfl, hgated⟩

/-- What an override asks for is registered. -/
lemma Guards.lookup {os : List Override} {k : List Char} {level : Level} (h : s.Guards os y)
    (hlevel : Override.levelAt os k = some level) :
    ∃ id, y.registry.entries.lookup k = some id ∧ s.Gated id (.startingAt level) y.defaults := by
  have hk := h.asked k
  rwa [hlevel] at hk

/-- Whatever the namespace: a slot that is resolved holds a gate before the default handlers. -/
lemma Guards.gated_of_slot {os : List Override} {ns : String} (h : s.Guards os y)
    (hroute : y.registry.lookup ns = .slot id) :
    ∃ level, s.Gated id (.startingAt level) y.defaults := by
  obtain ⟨k, hlookup, -⟩ := Registry.exists_of_walk_slot hroute
  obtain ⟨level, -, hgated⟩ := h.gated hlookup
  exact ⟨level, hgated⟩

/-- **The gate that is resolved** for a well-formed namespace is the one that the override asks for
which decides there.

**Proof sketch.** The walk ends at the longest namespace that covers the given one and has a gate; the
override that decides has the longest name of those that cover it.  Both have the same length, so they
are the same namespace. -/
lemma Guards.resolved {os : List Override} {ns : String} (h : s.Guards os y)
    (hns : WellFormed ns.toList) :
    match y.registry.lookup ns with
    | .slot id => ∃ best, Override.closest os ns.toList = some best ∧
        s.Gated id (.startingAt best.level) y.defaults
    | .defaults => Override.closest os ns.toList = none := by
  have hwalk : Registry.Closest y.registry.entries ns.toList (y.registry.lookup ns) := by
    rw [Registry.lookup, normalize_of_wellFormed hns]
    exact Registry.walk_closest hns
  have hspec := Override.closest_spec os ns.toList
  cases hroute : y.registry.lookup ns with
  | slot id =>
    rw [hroute] at hwalk
    obtain ⟨k, hk, hlookup, hlongest⟩ := hwalk
    obtain ⟨level, hlevel, hgated⟩ := h.gated hlookup
    obtain ⟨o, hmem, rfl⟩ := Override.exists_of_levelAt hlevel
    cases hbest : Override.closest os ns.toList with
    | none =>
      rw [hbest] at hspec
      exact absurd hk (hspec o hmem)
    | some best =>
      rw [hbest] at hspec
      obtain ⟨id', hlookup', -⟩ := h.lookup hspec.last
      have hle := hlongest _ hspec.covers (by simp [hlookup'])
      have heq := hk.eq_of_length hspec.covers (Nat.le_antisymm (hspec.longest o hmem hk) hle)
      rw [heq, hspec.last] at hlevel
      exact ⟨best, rfl, Option.some.inj hlevel ▸ hgated⟩
  | defaults =>
    rw [hroute] at hwalk
    cases hbest : Override.closest os ns.toList with
    | none => rfl
    | some best =>
      rw [hbest] at hspec
      obtain ⟨id', hlookup', -⟩ := h.lookup hspec.last
      simp [hwalk _ hspec.covers] at hlookup'

/-- **What passes**: in a well-formed namespace, the levels from the one on that is asked for there. -/
lemma Arranged.passes_iff {st : Settings} {ns : String} {level : Level} (h : s.Arranged r st y)
    (hns : WellFormed ns.toList) : s.passes y ns level = true ↔ st.floor ns ≤ level := by
  have hresolved := h.guards.resolved hns
  rw [passes, Settings.floor, Settings.deciding]
  cases hroute : y.registry.lookup ns with
  | slot id =>
    rw [hroute] at hresolved
    obtain ⟨best, hbest, hgated⟩ := hresolved
    simp [hbest, hgated.gate?]
  | defaults =>
    rw [hroute] at hresolved
    simp [hresolved, Level.trace_le]

/-- A fatal record passes every gate. -/
lemma passes_fatal (s : System) (y : Router) (ns : String) : s.passes y ns .fatal = true := by
  rw [passes]
  split
  · simp
  · rfl

/-! ## Log calls -/

/-- The state in which the record of a log call is offered to the default handlers, or stopped: the
gate has got it, if there is one. -/
def offered (s : System) (r : RouterId) (y : Router) (call : LogCall) : System :=
  match y.registry.lookup call.site.namespaceName with
  | .slot id => (s.admitted r y call).noted (.delivered id s.records.size)
  | .defaults => s.admitted r y call

section Log

variable {st : Settings} {call : LogCall} {u : System}

/-- A log call that the filter of an arranged router lets through goes to where the lookup of its
namespace leads. -/
lemma Arranged.on_log (h : s.Arranged r st y) (calls : Reentry)
    (henabled : st.filter.contains call.level = true) : (log calls r call).on s =
      (dispatchTo calls ((y.registry.lookup call.site.namespaceName).destination y.defaults)
        s.records.size).on (s.admitted r y call) := by
  obtain ⟨spaces, hcoherent⟩ := h.coherent
  rw [← hcoherent.route]
  exact on_log_of_enabled calls h.router (by simp [h.filter, henabled])

/-- A log call whose level is not let through does nothing. -/
lemma on_log_of_dropped (calls : Reentry) (h : s.Arranged r st y)
    (hdropped : st.filter.contains call.level = false) : (log calls r call).on s = (.ok (), s) :=
  on_log_of_disabled calls h.router (by simp [h.filter, hdropped])

/-- **A log call whose record passes** is one dispatch of that record to the default handlers. -/
lemma on_log_of_passes (depth : Nat) (h : s.Arranged r st y)
    (henabled : st.filter.contains call.level = true)
    (hpasses : s.passes y call.site.namespaceName call.level = true) :
    ∃ d, depth ≤ d ∧ ∀ u,
      (dispatchGroup (.upTo d) y.defaults s.records.size).on (s.offered r y call) = (.ok (), u) →
        (log (.upTo (depth + 1)) r call).on s = (.ok (), u) := by
  rw [passes] at hpasses
  rw [h.on_log _ henabled, offered]
  cases hroute : y.registry.lookup call.site.namespaceName with
  | slot id =>
    obtain ⟨level, hgated⟩ := h.guards.gated_of_slot hroute
    simp only [hroute, hgated.gate?, Option.all_some] at hpasses
    refine ⟨depth, Nat.le_refl _, fun u hu => ?_⟩
    refine on_invoke_gate (s := s.admitted r y call) hgated (record_admitted r y call)
      (fun _ => hu) fun hstopped => ?_
    simp [hpasses] at hstopped
  | defaults => exact ⟨depth + 1, Nat.le_succ _, fun u hu => hu⟩

/-- **A log call whose record does not pass** reaches no one behind the gate. -/
lemma on_log_of_stopped (depth : Nat) (h : s.Arranged r st y)
    (henabled : st.filter.contains call.level = true)
    (hstopped : s.passes y call.site.namespaceName call.level = false) :
    (log (.upTo (depth + 1)) r call).on s = (.ok (), s.offered r y call) := by
  rw [passes] at hstopped
  rw [h.on_log _ henabled, offered]
  cases hroute : y.registry.lookup call.site.namespaceName with
  | slot id =>
    obtain ⟨level, hgated⟩ := h.guards.gated_of_slot hroute
    simp only [hroute, hgated.gate?, Option.all_some] at hstopped
    refine on_invoke_gate (s := s.admitted r y call) hgated (record_admitted r y call)
      (fun hpasses => ?_) fun _ => rfl
    simp [hstopped] at hpasses
  | defaults => simp [hroute] at hstopped

end Log

end System

end NamespaceLogging
