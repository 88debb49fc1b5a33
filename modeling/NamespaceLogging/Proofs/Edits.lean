import NamespaceLogging.Proofs.LogCalls
import NamespaceLogging.Proofs.RouteCache

/-!
# Edits

What a record meets on its way is reached by references: from names, routers and groups to slots, from
slots to handlers, from gates to groups.  This module lists the changes that acts make to these things,
one by one; that every act is made of such edits is proved in later modules.  Where `System.Change`
follows the engines and leaves the rest open, an edit follows the rest and leaves the engines open.

Some records may be declared secret.  An edit delivers no secret record and gives no name to one.

## Main definitions

* `Router.Remains`, `Router.Follows`: a router that goes on.
* `System.Edit`, `System.Edited`: one edit, and one edit after the other.
* `System.Retains`, `System.Upholds`: what lasts.

## Main results

* `System.Edited.upholds`: edits leave slots, natures of handlers and levels of records as they are, do
  not light a router that went dark, make no list of slots longer without a new slot, and deliver no
  secret record.
-/

set_option autoImplicit false

namespace NamespaceLogging

open Act

/-- What a handler is, whatever it was called with so far. -/
def Handler.nature : Handler → Handler
  | .memory _ => .memory []
  | .stderr layout => .stderr layout
  | .gate filter next => .gate filter next
  | .scripted behaviour _ _ => .scripted behaviour 0 0

namespace Router

/-- A router is still the same: it keeps its group of default handlers, stays shut down, and stays dark
then. -/
structure Remains (y z : Router) : Prop where
  defaults : z.defaults = y.defaults
  down : y.shutDown = true → z.shutDown = true
  dark : (y.shutDown = true → y.filter = none) → z.shutDown = true → z.filter = none

/-- A router goes on without a new registration and without another engine. -/
structure Follows (y z : Router) : Prop extends y.Remains z where
  entries : z.registry.entries.Sublist y.registry.entries
  aspects : z.aspects.Sublist y.aspects
  coherent : (∃ spaces, y.registry.Coherent spaces) → ∃ spaces, z.registry.Coherent spaces

variable {x y z : Router}

/-- A router that is as it was has remained. -/
lemma Remains.refl (y : Router) : y.Remains y := ⟨rfl, fun h => h, fun h => h⟩

/-- A router that has remained for some time may do so for some more. -/
lemma Remains.trans (hxy : x.Remains y) (hyz : y.Remains z) : x.Remains z :=
  ⟨hyz.defaults.trans hxy.defaults, hyz.down ∘ hxy.down, fun h => hyz.dark (hxy.dark h)⟩

/-- A router with other locks, fewer engines or another setting for stacks. -/
lemma follows_of_same (hdefaults : z.defaults = y.defaults) (hdown : z.shutDown = y.shutDown)
    (hfilter : z.filter = y.filter) (hregistry : z.registry = y.registry)
    (haspects : z.aspects.Sublist y.aspects) : y.Follows z where
  defaults := hdefaults
  down h := hdown.trans h
  dark h hz := hfilter.trans (h (hdown ▸ hz))
  entries := hregistry ▸ List.Sublist.refl _
  aspects := haspects
  coherent h := hregistry ▸ h

end Router

/-! ## What lists slots -/

/-- Nothing grows that lists slots. -/
structure Assembly.Dwindles (s t : Assembly) : Prop where
  groups : ∀ (g : GroupId) before after, s.groups[g]? = some before →
    t.groups[g]? = some after → after.Sublist before
  routers : ∀ (r : RouterId) y z, s.routers[r]? = some y → t.routers[r]? = some z →
    z.registry.entries.Sublist y.registry.entries ∧ z.aspects.Sublist y.aspects

namespace Assembly.Dwindles

variable {s t u : Assembly}

/-- Nothing grows where nothing changes. -/
lemma refl (s : Assembly) : s.Dwindles s where
  groups g before after hbefore hafter := by
    obtain rfl : before = after := Option.some.inj (hbefore.symm.trans hafter)
    exact List.Sublist.refl _
  routers r y z hy hz := by
    obtain rfl : y = z := Option.some.inj (hy.symm.trans hz)
    exact ⟨List.Sublist.refl _, List.Sublist.refl _⟩

/-- Routers are as they were. -/
lemma of_groups (hgroups : ∀ (g : GroupId) before after, s.groups[g]? = some before →
    t.groups[g]? = some after → after.Sublist before) (hrouters : t.routers = s.routers) :
    s.Dwindles t where
  groups := hgroups
  routers r y z hy hz := (refl s).routers r y z hy (hrouters ▸ hz)

/-- Groups and routers are as they were. -/
lemma of_same (hgroups : t.groups = s.groups) (hrouters : t.routers = s.routers) : s.Dwindles t :=
  .of_groups (fun g _ _ hbefore hafter => (refl s).groups g _ _ hbefore (hgroups ▸ hafter)) hrouters

/-- Nothing grows in a stretch of time if nothing grew in its two parts, and if groups and routers
were there in between. -/
lemma trans (hst : s.Dwindles t) (htu : t.Dwindles u) (hgroups : s.groups.length ≤ t.groups.length)
    (hrouters : ∀ (r : RouterId) y, s.routers[r]? = some y → ∃ z, t.routers[r]? = some z) :
    s.Dwindles u where
  groups g before after hbefore hafter := by
    have hlt := Nat.lt_of_lt_of_le (List.getElem?_eq_some_iff.mp hbefore).1 hgroups
    have hmiddle := List.getElem?_eq_getElem hlt
    exact (htu.groups g _ after hmiddle hafter).trans (hst.groups g before _ hbefore hmiddle)
  routers r y w hy hw := by
    obtain ⟨z, hz⟩ := hrouters r y hy
    obtain ⟨hentries, haspects⟩ := hst.routers r y z hy hz
    obtain ⟨hentries', haspects'⟩ := htu.routers r z w hz hw
    exact ⟨hentries'.trans hentries, haspects'.trans haspects⟩

end Assembly.Dwindles

namespace System

variable {s t u : System} {secret : RecordId → Prop}

/-! ## References -/

/-- There is such a handler. -/
def Knows (s : System) : HandlerRef → Prop
  | .plain n => n < s.handlers.length
  | .engine e => e < s.engines.length

/-- There is such a slot. -/
def HasSlot (s : System) (id : SlotId) : Prop := 0 < id ∧ id ≤ s.slots.length

/-- A slot with a number that is taken can be looked up. -/
lemma HasSlot.exists {id : SlotId} (h : s.HasSlot id) : ∃ x, s.slot? id = some x := by
  obtain ⟨hpos, hle⟩ := h
  cases id with
  | zero => exact absurd hpos (Nat.lt_irrefl 0)
  | succ n => exact ⟨_, List.getElem?_eq_getElem (Nat.lt_of_succ_le hle)⟩

/-- Names lead to things that are there, and not to secret records. -/
structure Fits (s : System) (secret : RecordId → Prop) (names : Names) : Prop where
  handlers : ∀ entry ∈ names.handlers, s.Knows entry.2
  engines : ∀ entry ∈ names.engines, entry.2 < s.engines.length
  groups : ∀ entry ∈ names.groups, entry.2 < s.groups.length
  records : ∀ entry ∈ names.records, entry.2 < s.records.size ∧ ¬ secret entry.2

/-! ## Edits -/

/-- Nothing changes but what records do not meet, and the texts of records. -/
structure Beside (s t : System) : Prop where
  slots : t.slots = s.slots
  groups : t.groups = s.groups
  routers : t.routers = s.routers
  names : t.names = s.names
  handlers : t.handlers = s.handlers
  held : t.held = s.held
  journal : t.journal = s.journal
  engines : s.engines.length ≤ t.engines.length
  levels : ∀ id : RecordId, t.records[id]?.map Record.level = s.records[id]?.map Record.level

/-- The state with a new slot that is registered with the router `r`. -/
def enrolled (s : System) (r : RouterId) (key : List Char) (slot : Slot) : System :=
  { s with slots := s.slots ++ [slot] }.onRouter r fun y =>
    { y with registry := ⟨Registry.insert key (s.slots.length + 1) y.registry.entries, []⟩ }

/-- One edit. -/
inductive Edit (secret : RecordId → Prop) : System → System → Prop
  | beside {s t : System} (beside : s.Beside t) : Edit secret s t
  | noted (s : System) (entry : Entry) (open' : ∀ id k, entry = .delivered id k → ¬ secret k) :
      Edit secret s (s.noted entry)
  | recorded (s : System) (r : Record) : Edit secret s { s with records := s.records.push r }
  | housed (s : System) (h : Handler) (gate : ∀ filter g, h = .gate filter g → g < s.groups.length) :
      Edit secret s { s with handlers := s.handlers ++ [h] }
  | worked {s : System} {n : HandlerId} {h : Handler} (h' : Handler)
      (handler : s.handlers[n]? = some h) (nature : h'.nature = h.nature) :
      Edit secret s { s with handlers := s.handlers.modify n fun _ => h' }
  | grouped (s : System) : Edit secret s { s with groups := s.groups ++ [[]] }
  | founded (s : System) (filter : LevelSet) : Edit secret s (s.founded filter)
  | enlisted (s : System) (g : GroupId) {slot : Slot} (known : s.Knows slot.handler) :
      Edit secret s (s.enlisted g slot)
  | enrolled (s : System) (r : RouterId) (key : List Char) {slot : Slot}
      (known : s.Knows slot.handler) : Edit secret s (s.enrolled r key slot)
  | attached {s : System} {r : RouterId} {y : Router} {e : EngineId} (lock : LockId)
      (known : s.Knows (.engine e)) (router : s.routers[r]? = some y) :
      Edit secret s (s.attached e r y lock)
  | expelled (s : System) (g : GroupId) (keep : SlotId → Bool) :
      Edit secret s (s.onGroup g fun members => members.filter keep)
  | routed {s : System} {r : RouterId} {y : Router} (f : Router → Router)
      (router : s.routers[r]? = some y) (follows : y.Follows (f y)) : Edit secret s (s.onRouter r f)
  | named (s : System) {names : Names} (fits : s.Fits secret names) :
      Edit secret s { s with names := names }
  | locked (s : System) (lock : LockId) : Edit secret s { s with held := lock :: s.held }
  | unlocked (s : System) (lock : LockId) : Edit secret s { s with held := s.held.erase lock }

/-- One edit after the other. -/
def Edited (secret : RecordId → Prop) : System → System → Prop :=
  Relation.ReflTransGen (Edit secret)

/-- No edit at all is a sequence of edits. -/
lemma Edited.refl (s : System) : s.Edited secret s := Relation.ReflTransGen.refl

/-- Edits may follow on edits. -/
lemma Edited.trans (hst : s.Edited secret t) (htu : t.Edited secret u) : s.Edited secret u :=
  Relation.ReflTransGen.trans hst htu

/-! ## What lasts -/

/-- The slots that were given a record, in order. -/
def takers (s : System) (k : RecordId) : List SlotId :=
  s.history.filterMap fun
    | .delivered id k' => if k' = k then some id else none
    | _ => none

/-- What references lead to is still there. -/
structure Retains (s t : System) : Prop where
  slots : s.slots <+: t.slots
  groups : s.groups.length ≤ t.groups.length
  engines : s.engines.length ≤ t.engines.length
  handlers : ∀ (n : HandlerId) h, s.handlers[n]? = some h →
    ∃ h', t.handlers[n]? = some h' ∧ h'.nature = h.nature
  levels : ∀ (id : RecordId) x, s.records[id]? = some x →
    ∃ x', t.records[id]? = some x' ∧ x'.level = x.level

/-- What lasts from one state to another. -/
structure Upholds (secret : RecordId → Prop) (s t : System) : Prop extends s.Retains t where
  routers : ∀ (r : RouterId) y, s.routers[r]? = some y →
    ∃ z, t.routers[r]? = some z ∧ y.Remains z
  /-- Without a new slot, nothing grows that lists slots. -/
  fewer : t.slots.length = s.slots.length → s.Dwindles t.toAssembly
  takers : ∀ k, secret k → t.takers k = s.takers k

namespace Upholds

/-- All that is there lasts where nothing changes. -/
lemma refl (s : System) : Upholds secret s s where
  slots := List.prefix_rfl
  groups := Nat.le_refl _
  engines := Nat.le_refl _
  handlers _ h hh := ⟨h, hh, rfl⟩
  levels _ x hx := ⟨x, hx, rfl⟩
  routers _ y hy := ⟨y, hy, .refl y⟩
  fewer _ := .refl s.toAssembly
  takers _ _ := rfl

/-- What lasts for some time and then for some more lasts all the time. -/
lemma trans (hst : Upholds secret s t) (htu : Upholds secret t u) : Upholds secret s u where
  slots := hst.slots.trans htu.slots
  groups := Nat.le_trans hst.groups htu.groups
  engines := Nat.le_trans hst.engines htu.engines
  handlers n h hh := by
    obtain ⟨h', hh', hnature⟩ := hst.handlers n h hh
    obtain ⟨h'', hh'', hnature'⟩ := htu.handlers n h' hh'
    exact ⟨h'', hh'', hnature'.trans hnature⟩
  levels id x hx := by
    obtain ⟨x', hx', hlevel⟩ := hst.levels id x hx
    obtain ⟨x'', hx'', hlevel'⟩ := htu.levels id x' hx'
    exact ⟨x'', hx'', hlevel'.trans hlevel⟩
  routers r y hy := by
    obtain ⟨z, hz, hyz⟩ := hst.routers r y hy
    obtain ⟨w, hw, hzw⟩ := htu.routers r z hz
    exact ⟨w, hw, hyz.trans hzw⟩
  fewer hlength := by
    have hfirst := hst.slots.length_le
    have hsecond := htu.slots.length_le
    exact (hst.fewer (by omega)).trans (htu.fewer (by omega)) hst.groups fun r y hy =>
      (hst.routers r y hy).imp fun _ h => h.1
  takers k hk := (htu.takers k hk).trans (hst.takers k hk)

/-- A change of slots, groups, engines and locks, of which handlers, records, routers and the journal
do not hear. -/
lemma of_same (hslots : s.slots <+: t.slots) (hgroups : s.groups.length ≤ t.groups.length)
    (hengines : s.engines.length ≤ t.engines.length) (hhandlers : t.handlers = s.handlers)
    (hrecords : t.records = s.records) (hrouters : t.routers = s.routers)
    (hjournal : t.journal = s.journal)
    (hfewer : t.slots.length = s.slots.length → s.Dwindles t.toAssembly) : Upholds secret s t where
  slots := hslots
  groups := hgroups
  engines := hengines
  handlers n h hh := ⟨h, hhandlers ▸ hh, rfl⟩
  levels id x hx := ⟨x, hrecords ▸ hx, rfl⟩
  routers r y hy := ⟨y, hrouters ▸ hy, .refl y⟩
  fewer := hfewer
  takers k _ := by simp [System.takers, history, moments, hjournal]

end Upholds

/-- The slots that were given a record are one more after a delivery of that record, and the same
after all other entries. -/
lemma takers_noted (s : System) (entry : Entry) (k : RecordId) :
    (s.noted entry).takers k = s.takers k ++
      match entry with
      | .delivered id k' => if k' = k then [id] else []
      | _ => [] := by
  rw [takers, history_noted, List.filterMap_append, takers]
  cases entry <;> simp
  split <;> simp_all

/-- A router after one of them was changed: it is the changed one, or it is as it was. -/
lemma router_of_onRouter {r i : RouterId} {f : Router → Router} {y z : Router}
    (hy : s.routers[i]? = some y) (hz : (s.onRouter r f).routers[i]? = some z) :
    z = if r = i then f y else y := by
  rw [onRouter, List.getElem?_modify, hy] at hz
  split <;> simp_all

/-- A group after one of them was changed was there before: it is the changed one, or it is as it
was. -/
lemma group_of_onGroup {g i : GroupId} {f : List SlotId → List SlotId} {members : List SlotId}
    (h : (s.onGroup g f).groups[i]? = some members) :
    ∃ before, s.groups[i]? = some before ∧ members = if g = i then f before else before := by
  rw [onGroup, List.getElem?_modify] at h
  obtain ⟨before, hbefore, rfl⟩ := Option.map_eq_some_iff.mp h
  exact ⟨before, hbefore, rfl⟩

/-- One more group leaves the others where they are. -/
lemma group_before {groups : List (List SlotId)} {g : GroupId} {members : List SlotId}
    (h : groups[g]? = some members) : (groups ++ [[]])[g]? = groups[g]? :=
  List.getElem?_append_left (List.getElem?_eq_some_iff.mp h).1

/-- Changing a router to one that remains what it is. -/
lemma upholds_onRouter {r : RouterId} {f : Router → Router}
    (hf : ∀ y, s.routers[r]? = some y → y.Remains (f y))
    (hfewer : ∀ y, s.routers[r]? = some y → (f y).registry.entries.Sublist y.registry.entries ∧
      (f y).aspects.Sublist y.aspects) :
    Upholds secret s (s.onRouter r f) where
  slots := List.prefix_rfl
  groups := Nat.le_refl _
  engines := Nat.le_refl _
  handlers _ h hh := ⟨h, hh, rfl⟩
  levels _ x hx := ⟨x, hx, rfl⟩
  routers i y hy := by
    by_cases hi : r = i
    · subst hi
      exact ⟨f y, router_onRouter hy f, hf y hy⟩
    · exact ⟨y, by simp [onRouter, hy, hi], .refl y⟩
  fewer _ := {
    groups := (Assembly.Dwindles.refl s.toAssembly).groups
    routers := fun i y z hy hz => by
      rw [router_of_onRouter hy hz]
      split
      · rename_i hi
        subst hi
        exact hfewer y hy
      · exact ⟨List.Sublist.refl _, List.Sublist.refl _⟩ }
  takers _ _ := rfl

/-- A handler that has run, or one more. -/
lemma upholds_handlers {handlers : List Handler}
    (hhandlers : ∀ (n : HandlerId) h, s.handlers[n]? = some h →
      ∃ h', handlers[n]? = some h' ∧ h'.nature = h.nature) :
    Upholds secret s { s with handlers := handlers } :=
  { Upholds.refl s with handlers := hhandlers }

/-- A new slot that is registered. -/
lemma upholds_enrolled (r : RouterId) (key : List Char) (slot : Slot) :
    Upholds secret s (s.enrolled r key slot) where
  slots := List.prefix_append _ _
  groups := Nat.le_refl _
  engines := Nat.le_refl _
  handlers _ h hh := ⟨h, hh, rfl⟩
  levels _ x hx := ⟨x, hx, rfl⟩
  routers i y hy := by
    by_cases hi : r = i
    · subst hi
      exact ⟨_, router_onRouter (s := { s with slots := s.slots ++ [slot] }) hy _,
        ⟨rfl, fun h => h, fun h => h⟩⟩
    · exact ⟨y, by simp [System.enrolled, onRouter, hy, hi], .refl y⟩
  fewer hlength := by
    simp [System.enrolled, onRouter] at hlength
  takers _ _ := rfl

/-- A new slot in a group leaves all that is there in place. -/
lemma upholds_enlisted (g : GroupId) (slot : Slot) : Upholds secret s (s.enlisted g slot) :=
  .of_same (List.prefix_append _ _) (by simp [System.enlisted]) (Nat.le_refl _) rfl rfl rfl rfl
    (fun hlength => by simp [System.enlisted] at hlength)

/-- An entry that tells of no secret record. -/
lemma upholds_noted {entry : Entry} (hopen : ∀ id k, entry = .delivered id k → ¬ secret k) :
    Upholds secret s (s.noted entry) := by
  have hsame : Upholds secret s s := .refl s
  refine { hsame with takers := fun k hk => ?_ }
  rw [takers_noted]
  cases entry with
  | delivered id k' =>
    have hne : k' ≠ k := fun heq => hopen id k' rfl (heq ▸ hk)
    simp [hne]
  | _ => simp

/-- An engine that is attached. -/
lemma upholds_attached {r : RouterId} {y : Router} {e : EngineId} (lock : LockId) :
    Upholds secret s (s.attached e r y lock) := by
  have hslot : Upholds secret s (s.enlisted y.defaults ⟨.engine e, lock⟩) := upholds_enlisted _ _
  set t := s.enlisted y.defaults ⟨.engine e, lock⟩
  set f := fun y : Router => { y with aspects := y.aspects ++ [(s.slots.length + 1, e)] }
  have hrouter : ∀ (i : RouterId) z, t.routers[i]? = some z →
      ∃ z', (t.onRouter r f).routers[i]? = some z' ∧ z.Remains z' := by
    intro i z hz
    by_cases hi : r = i
    · subst hi
      exact ⟨f z, router_onRouter hz _, ⟨rfl, fun h => h, fun h => h⟩⟩
    · exact ⟨z, by simp [onRouter, hz, hi], .refl z⟩
  have hgrown : Upholds secret s ((t.onRouter r f).onEngine e
      (Engine.attach r (s.slots.length + 1))) := {
    hslot with
    engines := by simp [t, onEngine, onRouter, System.enlisted]
    routers := hrouter
    fewer := fun hlength => by simp [t, onEngine, onRouter, System.enlisted] at hlength }
  exact hgrown.trans (upholds_noted (by simp))

/-- **What lasts when there is an edit.** -/
lemma Edit.upholds (h : Edit secret s t) : Upholds secret s t := by
  cases h with
  | beside h =>
    exact {
      Upholds.of_same (t := { t with records := s.records }) (h.slots ▸ List.prefix_rfl)
        (Nat.le_of_eq (h.groups ▸ rfl)) h.engines h.handlers rfl h.routers h.journal
        (fun _ => .of_same h.groups h.routers) with
      levels := fun id x hx => by
        have hlevel := h.levels id
        rw [hx] at hlevel
        simpa using hlevel }
  | noted entry hopen => exact upholds_noted hopen
  | recorded r =>
    have hsame : Upholds secret s s := .refl s
    refine { hsame with levels := fun id x hx => ⟨x, ?_, rfl⟩ }
    have hlt : id < s.records.size := (Array.getElem?_eq_some_iff.mp hx).1
    rw [Array.getElem?_push, if_neg (Nat.ne_of_lt hlt), hx]
  | housed h gate =>
    refine upholds_handlers fun n h hh => ⟨h, ?_, rfl⟩
    exact (List.getElem?_append_left (List.getElem?_eq_some_iff.mp hh).1).trans hh
  | @worked n h h' handler nature =>
    refine upholds_handlers fun i h'' hh => ?_
    by_cases hi : n = i
    · subst hi
      obtain rfl : h = h'' := Option.some.inj (handler.symm.trans hh)
      exact ⟨h', by simp [handler], nature⟩
    · exact ⟨h'', by simp [hi, hh], rfl⟩
  | grouped =>
    refine .of_same List.prefix_rfl (by simp) (Nat.le_refl _) rfl rfl rfl rfl fun _ =>
      .of_groups (fun g before after hbefore hafter => ?_) rfl
    exact (Assembly.Dwindles.refl s.toAssembly).groups g _ _ hbefore (group_before hbefore ▸ hafter)
  | founded filter =>
    have hsame : Upholds secret s s := .refl s
    have hrouter : ∀ {r : RouterId} {y : Router}, s.routers[r]? = some y →
        (s.founded filter).routers[r]? = some y := fun hy =>
      (List.getElem?_append_left (List.getElem?_eq_some_iff.mp hy).1).trans hy
    refine { hsame with
      groups := by simp [System.founded]
      routers := fun r y hy => ⟨y, hrouter hy, .refl y⟩
      fewer := fun _ => ⟨fun g before after hbefore hafter => ?_, fun r y z hy hz => ?_⟩ }
    · exact (Assembly.Dwindles.refl s.toAssembly).groups g _ _ hbefore (group_before hbefore ▸ hafter)
    · obtain rfl : y = z := Option.some.inj ((hrouter hy).symm.trans hz)
      exact (Assembly.Dwindles.refl s.toAssembly).routers r y y hy hy
  | enlisted g known => exact upholds_enlisted g _
  | enrolled r key known => exact upholds_enrolled r key _
  | attached lock known router => exact upholds_attached lock
  | expelled g keep =>
    refine .of_same List.prefix_rfl (by simp [onGroup]) (Nat.le_refl _) rfl rfl rfl rfl fun _ =>
      .of_groups (fun i before after hbefore hafter => ?_) rfl
    obtain ⟨before', hbefore', rfl⟩ := group_of_onGroup hafter
    obtain rfl : before = before' := Option.some.inj (hbefore.symm.trans hbefore')
    split
    · exact List.filter_sublist
    · exact List.Sublist.refl _
  | routed f router follows =>
    refine upholds_onRouter (fun y hy => ?_) fun y hy => ?_
    all_goals obtain rfl := Option.some.inj (router.symm.trans hy)
    · exact follows.toRemains
    · exact ⟨follows.entries, follows.aspects⟩
  | named fits =>
    exact .of_same List.prefix_rfl (Nat.le_refl _) (Nat.le_refl _) rfl rfl rfl rfl
      fun _ => .of_same rfl rfl
  | locked lock =>
    exact .of_same List.prefix_rfl (Nat.le_refl _) (Nat.le_refl _) rfl rfl rfl rfl
      fun _ => .of_same rfl rfl
  | unlocked lock =>
    exact .of_same List.prefix_rfl (Nat.le_refl _) (Nat.le_refl _) rfl rfl rfl rfl
      fun _ => .of_same rfl rfl

/-- **What lasts when there are edits.** -/
theorem Edited.upholds (h : s.Edited secret t) : Upholds secret s t := by
  induction h with
  | refl => exact .refl s
  | tail _ hedit ih => exact ih.trans hedit.upholds

end System

end NamespaceLogging
