import NamespaceLogging.Proofs.Gates

/-!
# What is handed to whom

Which slots were given which record is read from the journal.  This module keeps account of that from
one state to the next, together with what has to stay as it is for the next log call to go the same
way.

## Main definitions

* `System.Reaches`: from one state to another, slots were given records.
* `System.Aside`: what happens aside from the way of the records.
* `System.Passage`: the same, for changes that leave the way of the records to a router as it is.

## Main results

* `System.Arranged.passage`: a router that was arranged by settings stays so.
* `System.Arranged.offered`: offering a record to the default handlers.
-/

set_option autoImplicit false

namespace NamespaceLogging

open Act

namespace Router

variable {x y z : Router}

/-- A router goes on with its filter, its registrations and its default handlers. -/
structure Continues (y z : Router) : Prop where
  filter : z.filter = y.filter
  capture : z.capture = y.capture
  defaults : z.defaults = y.defaults
  entries : z.registry.entries = y.registry.entries
  coherent : (∃ spaces, y.registry.Coherent spaces) → ∃ spaces, z.registry.Coherent spaces

/-- A router goes on as itself. -/
lemma Continues.refl (y : Router) : y.Continues y := ⟨rfl, rfl, rfl, rfl, fun h => h⟩

/-- A router that goes on for some time may do so for some more. -/
lemma Continues.trans (hxy : x.Continues y) (hyz : y.Continues z) : x.Continues z where
  filter := hyz.filter.trans hxy.filter
  capture := hyz.capture.trans hxy.capture
  defaults := hyz.defaults.trans hxy.defaults
  entries := hyz.entries.trans hxy.entries
  coherent h := hyz.coherent (hxy.coherent h)

/-- A router that has found one more route. -/
lemma continues_resolve (y : Router) (ns : String) :
    y.Continues { y with registry := (y.registry.resolve ns).2 } where
  filter := rfl
  capture := rfl
  defaults := rfl
  entries := Registry.entries_resolve y.registry ns
  coherent := fun ⟨_, h⟩ => ⟨_, h.resolve ns⟩

end Router

namespace System

variable {s t u : System} {r : RouterId} {y z : Router} {out out' : List (SlotId × RecordId)}

/-! ## Slots that are reached -/

/-- From one state to the other, slots were given records as told, the first one first.  What gates
were given does not count. -/
def Reaches (s t : System) (out : List (SlotId × RecordId)) : Prop :=
  ∃ new, t.history = s.history ++ new ∧ s.receipts new = out

/-- Slots are found by their numbers alone, whatever else has changed. -/
lemma slot?_congr (hslots : t.slots = s.slots) (id : SlotId) : t.slot? id = s.slot? id := by
  cases id with
  | zero => rfl
  | succ n => exact congrArg (fun slots : List Slot => slots[n]?) hslots

/-- Gates are told by handlers and slots. -/
lemma gate?_congr (hhandlers : t.handlers = s.handlers) (hslots : t.slots = s.slots) (id : SlotId) :
    t.gate? id = s.gate? id := by
  rw [gate?, gate?, slot?_congr hslots, hhandlers]

/-- Who was given a record can be told from the handlers, the slots and the entries. -/
lemma receipts_congr (hhandlers : t.handlers = s.handlers) (hslots : t.slots = s.slots)
    (entries : List Entry) : t.receipts entries = s.receipts entries := by
  simp only [receipts, gate?_congr hhandlers hslots]

/-- Nothing happened. -/
lemma reaches_of_same (h : t.journal = s.journal) : s.Reaches t [] :=
  ⟨[], by simp [history, moments, h], rfl⟩

/-- An entry that is noted is all that slots were given meanwhile. -/
lemma reaches_noted {entry : Entry} (h : s.receipts [entry] = out) : s.Reaches (s.noted entry) out :=
  ⟨[entry], history_noted entry, h⟩

/-- What slots were given in one stretch of time, and then in another, they were given in both
together. -/
lemma Reaches.trans (hst : s.Reaches t out) (htu : t.Reaches u out')
    (hhandlers : t.handlers = s.handlers) (hslots : t.slots = s.slots) :
    s.Reaches u (out ++ out') := by
  obtain ⟨new, hnew, rfl⟩ := hst
  obtain ⟨new', hnew', rfl⟩ := htu
  refine ⟨new ++ new', by rw [hnew', hnew, List.append_assoc], ?_⟩
  rw [receipts_append, receipts_congr hhandlers hslots]

/-! ## What happens aside -/

/-- Something happened that has nothing to do with slots, groups and routers. -/
structure Aside (s t : System) : Prop where
  handlers : t.handlers = s.handlers
  slots : t.slots = s.slots
  groups : t.groups = s.groups
  routers : t.routers = s.routers
  held : t.held = s.held
  lockCount : t.lockCount = s.lockCount
  alive : ∀ r, t.isAlive r = s.isAlive r
  reaches : s.Reaches t []

/-- Where nothing happens, nothing happens to slots, groups and routers. -/
lemma Aside.refl (s : System) : s.Aside s :=
  ⟨rfl, rfl, rfl, rfl, rfl, rfl, fun _ => rfl, reaches_of_same rfl⟩

/-- What has nothing to do with slots, groups and routers may go on. -/
lemma Aside.trans (hst : s.Aside t) (htu : t.Aside u) : s.Aside u where
  handlers := htu.handlers.trans hst.handlers
  slots := htu.slots.trans hst.slots
  groups := htu.groups.trans hst.groups
  routers := htu.routers.trans hst.routers
  held := htu.held.trans hst.held
  lockCount := htu.lockCount.trans hst.lockCount
  alive r := (htu.alive r).trans (hst.alive r)
  reaches := hst.reaches.trans htu.reaches hst.handlers hst.slots

/-- An entry that is no delivery. -/
lemma aside_noted {entry : Entry} (h : s.receipts [entry] = []) : s.Aside (s.noted entry) :=
  ⟨rfl, rfl, rfl, rfl, rfl, rfl, fun _ => rfl, reaches_noted h⟩

/-- Changing an engine has nothing to do with slots, groups and routers. -/
lemma aside_onEngine (e : EngineId) (f : Engine → Engine) : s.Aside (s.onEngine e f) :=
  ⟨rfl, rfl, rfl, rfl, rfl, rfl, fun _ => rfl, reaches_of_same rfl⟩

/-- Writing to files and standard streams has nothing to do with slots, groups and routers. -/
lemma aside_media (media : Media) : s.Aside { s with media := media } :=
  ⟨rfl, rfl, rfl, rfl, rfl, rfl, fun _ => rfl, reaches_of_same rfl⟩

/-- Records that are made or rendered have nothing to do with slots, groups and routers. -/
lemma aside_records (records : Array Record) : s.Aside { s with records := records } :=
  ⟨rfl, rfl, rfl, rfl, rfl, rfl, fun _ => rfl, reaches_of_same rfl⟩

/-! ## What log calls leave as it is -/

/-- From one state to the other, slots were given records as told, and the router `r` goes on. -/
structure Passage (r : RouterId) (s t : System) (out : List (SlotId × RecordId)) : Prop where
  handlers : t.handlers = s.handlers
  slots : t.slots = s.slots
  held : t.held = s.held
  router : ∀ y, s.routers[r]? = some y → ∃ z, t.routers[r]? = some z ∧ y.Continues z
  reaches : s.Reaches t out

/-- Where something happens beside the slots, no slot is given anything. -/
lemma Aside.passage (h : s.Aside t) (r : RouterId) : Passage r s t [] where
  handlers := h.handlers
  slots := h.slots
  held := h.held
  router y hy := ⟨y, h.routers ▸ hy, .refl y⟩
  reaches := h.reaches

/-- What slots are given in one passage, and then in another, they are given in both together. -/
lemma Passage.trans (hst : Passage r s t out) (htu : Passage r t u out') :
    Passage r s u (out ++ out') where
  handlers := htu.handlers.trans hst.handlers
  slots := htu.slots.trans hst.slots
  held := htu.held.trans hst.held
  router y hy := by
    obtain ⟨z, hz, hyz⟩ := hst.router y hy
    obtain ⟨x, hx, hzx⟩ := htu.router z hz
    exact ⟨x, hx, hyz.trans hzx⟩
  reaches := hst.reaches.trans htu.reaches hst.handlers hst.slots

/-- What happens aside does not matter to a passage. -/
lemma Passage.before (hst : s.Aside t) (htu : Passage r t u out) : Passage r s u out :=
  (hst.passage r).trans htu

/-- Something that happens beside the slots may follow on a passage. -/
lemma Passage.after (hst : Passage r s t out) (htu : t.Aside u) : Passage r s u out := by
  simpa using hst.trans (htu.passage r)

/-- Gates stay in force for a router that goes on, whatever is added beside them. -/
lemma Guards.continues {os : List Override} (h : s.Guards os y) (hhandlers : s.handlers <+: t.handlers)
    (hslots : s.slots <+: t.slots) (hyz : y.Continues z) : t.Guards os z where
  asked k := by
    have hk := h.asked k
    rw [hyz.entries, hyz.defaults]
    cases hlevel : Override.levelAt os k with
    | none => rwa [hlevel] at hk
    | some level =>
      rw [hlevel] at hk
      obtain ⟨id, hlookup, hgated⟩ := hk
      exact ⟨id, hlookup, hgated.extend hhandlers hslots⟩
  gates entry hmem := by
    obtain ⟨level, hgated⟩ := h.gates entry (hyz.entries ▸ hmem)
    exact ⟨level, hyz.defaults ▸ hgated.extend hhandlers hslots⟩

/-- A router that goes on stands as its settings say. -/
lemma Arranged.continues {st : Settings} (h : s.Arranged r st y) (hhandlers : s.handlers <+: t.handlers)
    (hslots : s.slots <+: t.slots) (hz : t.routers[r]? = some z) (hyz : y.Continues z) :
    t.Arranged r st z where
  router := hz
  filter := hyz.filter.trans h.filter
  capture := hyz.capture.trans h.capture
  coherent := hyz.coherent h.coherent
  guards := h.guards.continues hhandlers hslots hyz

/-- **A router that was arranged by settings stays so.** -/
lemma Arranged.passage {st : Settings} (h : s.Arranged r st y) (hpassage : Passage r s t out) :
    ∃ z, t.Arranged r st z ∧ y.Continues z := by
  obtain ⟨z, hz, hyz⟩ := hpassage.router y h.router
  exact ⟨z, h.continues (hpassage.handlers ▸ List.prefix_rfl) (hpassage.slots ▸ List.prefix_rfl) hz
    hyz, hyz⟩

/-- Whether a level passes does not change for a router that goes on. -/
lemma passes_congr (hpassage : Passage r s t out) (hyz : y.Continues z) (ns : String)
    (level : Level) : t.passes z ns level = s.passes y ns level := by
  have hroute : z.registry.lookup ns = y.registry.lookup ns := by
    rw [Registry.lookup, Registry.lookup, hyz.entries]
  rw [passes, passes, hroute]
  simp only [gate?_congr hpassage.handlers hpassage.slots]

/-! ## Offering a record -/

/-- When a log call was let through, its router has remembered the route, and is the same in
everything else. -/
lemma router_admitted (hy : s.routers[r]? = some y) (call : LogCall) :
    (s.admitted r y call).routers[r]? =
      some { y with registry := (y.registry.resolve call.site.namespaceName).2 } :=
  router_onRouter (s := (s.noted (.logged r call)).captured y.capture call) hy _

/-- When the record goes to the default handlers, its router is the one that has remembered the
route. -/
lemma router_offered (hy : s.routers[r]? = some y) (call : LogCall) :
    (s.offered r y call).routers[r]? =
      some { y with registry := (y.registry.resolve call.site.namespaceName).2 } := by
  unfold System.offered
  split <;> exact router_admitted hy call

/-- The state with the record of a log call differs from the one before by the record, its entry and
the route that was found. -/
lemma passage_admitted (hy : s.routers[r]? = some y) (call : LogCall) :
    Passage r s (s.admitted r y call) [] where
  handlers := rfl
  slots := rfl
  held := rfl
  router y' hy' := by
    obtain rfl : y = y' := Option.some.inj (hy.symm.trans hy')
    exact ⟨_, router_admitted hy call, Router.continues_resolve y call.site.namespaceName⟩
  reaches := ⟨[.logged r call], history_noted _, rfl⟩

/-- **Offering a record to the default handlers** gives it to no one but gates. -/
lemma Arranged.offered {st : Settings} (h : s.Arranged r st y) (call : LogCall) :
    Passage r s (s.offered r y call) [] := by
  have hadmitted := passage_admitted h.router call
  rw [System.offered]
  cases hroute : y.registry.lookup call.site.namespaceName with
  | slot id =>
    obtain ⟨level, hgated⟩ := h.guards.gated_of_slot hroute
    refine hadmitted.after (aside_noted ?_)
    rw [receipts_congr hadmitted.handlers hadmitted.slots]
    simp [receipts, hgated.gate?]
  | defaults => exact hadmitted

section Offered

variable (s) (r) (y) (call : LogCall)

/-- Up to the moment at which the default handlers are handed a record, no slot was made. -/
@[simp]
lemma slots_offered : (s.offered r y call).slots = s.slots := by
  unfold System.offered
  split <;> rfl

/-- Up to that moment, no handler was changed. -/
@[simp]
lemma handlers_offered : (s.offered r y call).handlers = s.handlers := by
  unfold System.offered
  split <;> rfl

/-- Up to that moment, no lock was taken. -/
@[simp]
lemma held_offered : (s.offered r y call).held = s.held := by
  unfold System.offered
  split <;> rfl

/-- Up to that moment, no group was changed. -/
@[simp]
lemma groups_offered : (s.offered r y call).groups = s.groups := by
  unfold System.offered
  split <;> rfl

/-- Up to that moment, no engine was changed. -/
@[simp]
lemma engines_offered : (s.offered r y call).engines = s.engines := by
  unfold System.offered
  split <;> rfl

/-- Up to that moment, nothing was written. -/
@[simp]
lemma media_offered : (s.offered r y call).media = s.media := by
  unfold System.offered
  split <;> rfl

/-- The record that the default handlers are handed is the last one, as it was made for the log
call. -/
lemma record_offered :
    (s.offered r y call).records[s.records.size]? = some (s.snapshot y.capture call) := by
  unfold System.offered
  split <;> exact record_admitted r y call

end Offered

end System

end NamespaceLogging
