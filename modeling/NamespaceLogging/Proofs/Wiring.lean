import NamespaceLogging.Proofs.Assemblies

/-!
# How engines are wired to routers

An active engine stands among the default handlers of its router and in the list of its attached
engines, in a slot of its own; an engine that has ended stands in neither.  There are exceptions: a
slot may be taken out by hand, a router that is being shut down lets all its handlers go, and a
router that nobody can reach when its engine ends is left as it is.

## Main definitions

* `System.Withdrawn`, `System.Swept`: how an active engine can lose its place.
* `System.Freed`: an engine has ended and has left its router.
* `System.Wired`: the rules.
* `System.Neutral`: a change that does not matter to them.

## Main results

* `System.Wired.carried`: a change that keeps the routers keeps the rules, if it keeps those about
  slots and lists.
* `System.Wired.neutral`: a change that does not matter keeps the rules.
-/

set_option autoImplicit false

namespace NamespaceLogging

open History

namespace System

/-! ## The rules -/

/-- The slot was taken out of a group by hand. -/
def Withdrawn (s : System) (id : SlotId) : Prop :=
  ∃ gone, Entry.withdrawn gone ∈ s.history ∧ id ∈ gone

/-- The engine was attached to the router while that was being shut down, and was swept out. -/
def Swept (s : System) (e : EngineId) (r : RouterId) : Prop :=
  ∃ before m after, s.moments = before ++ m :: after ∧ (∃ id, m.entry = .activated e r id) ∧
    (∃ y, m.assembly.routers[r]? = some y ∧ y.shutDown = true) ∧
    ∃ gone, Entry.cleared r gone ∈ after.map Moment.entry

/-- The engine has ended, and the router could be reached then. -/
def Freed (s : System) (e : EngineId) (r : RouterId) : Prop :=
  ∃ m ∈ s.moments, (∃ why, m.entry = .deactivated e why) ∧ m.assembly.isAlive r = true

/-- The rules by which engines, slots and routers belong together. -/
structure Wired (s : System) : Prop where
  /-- The slot of an engine is the engine's. -/
  slot : ∀ e r id, Entry.activated e r id ∈ s.history →
    ∃ lock, s.slot? id = some ⟨.engine e, lock⟩
  router : ∀ e r id, Entry.activated e r id ∈ s.history → ∃ y, s.routers[r]? = some y
  /-- Only engines that were attached are listed. -/
  lists : ∀ r id e, s.Lists r id e → Entry.activated e r id ∈ s.history
  defaults : ∀ (r : RouterId) y, s.routers[r]? = some y → y.defaults < s.groups.length
  /-- No two routers share their default handlers. -/
  apart : ∀ (r r' : RouterId) y z, s.routers[r]? = some y → s.routers[r']? = some z →
    y.defaults = z.defaults → r = r'
  filter : ∀ (r : RouterId) y, s.routers[r]? = some y → y.shutDown = false → y.filter.isSome
  /-- An active engine is a default handler, unless its slot was taken out. -/
  member : ∀ e x r id, s.engines[e]? = some x → x.state = .active →
    Entry.activated e r id ∈ s.history → s.Member r id ∨ s.Withdrawn id ∨ s.Swept e r
  /-- An active engine is listed by its router until that is shut down. -/
  listed : ∀ e x r id y, s.engines[e]? = some x → x.state = .active →
    Entry.activated e r id ∈ s.history → s.routers[r]? = some y → y.shutDown = false →
    s.Lists r id e
  /-- An engine that has left its router stays away. -/
  gone : ∀ e r id, Entry.activated e r id ∈ s.history → s.Freed e r →
    ¬ s.Member r id ∧ ∀ e', ¬ s.Lists r id e'
  past : ∀ m ∈ s.moments, m.assembly.RoutersLast s.toAssembly ∧
    ∀ (r : RouterId) y, m.assembly.routers[r]? = some y → y.shutDown = false → y.filter.isSome

/-! ## What does not matter -/

/-- A change that does not matter to the rules. -/
structure Neutral (s t : System) : Prop where
  engines : ∀ (e : EngineId) y, t.engines[e]? = some y → y.state = .active →
    ∃ x, s.engines[e]? = some x ∧ x.state = .active
  slots : s.slots <+: t.slots
  groups : s.groups <+: t.groups
  routerCount : t.routers.length = s.routers.length
  routers : ∀ (r : RouterId) y z, s.routers[r]? = some y → t.routers[r]? = some z → y.Keeps z
  moments : ∃ new, t.moments = s.moments ++ new ∧
    ∀ m ∈ new, (∀ e, ¬ Engine.Landmark e m.entry) ∧ m.assembly.routers = t.routers

section

variable {s t : System} {e : EngineId} {r : RouterId} {id : SlotId}

/-- A list that goes on has the same beginning. -/
lemma getElem?_of_extends {α : Type} {l l' : List α} (h : l <+: l') {i : Nat} (hlt : i < l.length) :
    l'[i]? = l[i]? := by
  obtain ⟨rest, rfl⟩ := h
  exact List.getElem?_append_left hlt

/-- A slot keeps its number when more slots are made. -/
lemma slot?_of_extends {slot : Slot} (hslots : s.slots <+: t.slots) (h : s.slot? id = some slot) :
    t.slot? id = some slot := by
  cases id with
  | zero => simp [Assembly.slot?] at h
  | succ n =>
    have hlt : n < s.slots.length := (List.getElem?_eq_some_iff.mp h).1
    exact (getElem?_of_extends hslots hlt).trans h

/-- What was written down stays written down when more moments come behind. -/
lemma mem_history_of_moments {entry : Entry} {new : List Moment}
    (hmoments : t.moments = s.moments ++ new) (h : entry ∈ s.history) : entry ∈ t.history := by
  rw [history, hmoments, List.map_append]
  exact List.mem_append_left _ h

/-- An engine that was swept out of a router was so for ever. -/
lemma Swept.mono {new : List Moment} (hmoments : t.moments = s.moments ++ new) (h : s.Swept e r) :
    t.Swept e r := by
  obtain ⟨before, m, after, heq, hentry, hdown, gone, hgone⟩ := h
  refine ⟨before, m, after ++ new, by simp [hmoments, heq], hentry, hdown, gone, ?_⟩
  rw [List.map_append]
  exact List.mem_append_left _ hgone

/-- A slot that was taken out by hand was so for ever. -/
lemma Withdrawn.mono {new : List Moment} (hmoments : t.moments = s.moments ++ new)
    (h : s.Withdrawn id) : t.Withdrawn id := by
  obtain ⟨gone, hgone, hid⟩ := h
  exact ⟨gone, mem_history_of_moments hmoments hgone, hid⟩

/-- **A change that keeps the routers** keeps the rules about them, so that those about slots and lists
are the ones that are left to check. -/
lemma Wired.carried (hwired : s.Wired) (h : s.toAssembly.SameRouters t.toAssembly)
    (hgroups : s.groups.length ≤ t.groups.length) {new : List Moment}
    (hmoments : t.moments = s.moments ++ new)
    (hnew : ∀ m ∈ new, m.assembly.routers = s.routers ∨ m.assembly.routers = t.routers)
    (hslot : ∀ e r id, Entry.activated e r id ∈ t.history →
      (∃ lock, t.slot? id = some ⟨.engine e, lock⟩) ∧ ∃ y, s.routers[r]? = some y)
    (hlists : ∀ r id e, t.Lists r id e → Entry.activated e r id ∈ t.history)
    (hmember : ∀ e x r id, t.engines[e]? = some x → x.state = .active →
      Entry.activated e r id ∈ t.history → t.Member r id ∨ t.Withdrawn id ∨ t.Swept e r)
    (hlisted : ∀ e x r id z, t.engines[e]? = some x → x.state = .active →
      Entry.activated e r id ∈ t.history → t.routers[r]? = some z → z.shutDown = false →
      t.Lists r id e)
    (hgone : ∀ e r id, Entry.activated e r id ∈ t.history → t.Freed e r →
      ¬ t.Member r id ∧ ∀ e', ¬ t.Lists r id e') : t.Wired := by
  have hfilter : ∀ (r : RouterId) z, t.routers[r]? = some z → z.shutDown = false →
      z.filter.isSome := by
    intro r z hz hup
    obtain ⟨y, hy, -, hkept⟩ := h.back r z hz
    exact (hkept hup).2 (hwired.filter r y hy (hkept hup).1)
  refine ⟨fun e r id hmem => (hslot e r id hmem).1, fun e r id hmem => ?_, hlists, fun r z hz => ?_,
    fun r r' z z' hz hz' heq => ?_, hfilter, hmember, hlisted, hgone, fun m hm => ?_⟩
  · obtain ⟨y, hy⟩ := (hslot e r id hmem).2
    obtain ⟨z, hz, -⟩ := h.last r y hy
    exact ⟨z, hz⟩
  · obtain ⟨y, hy, hdefaults, -⟩ := h.back r z hz
    rw [hdefaults]
    exact Nat.lt_of_lt_of_le (hwired.defaults r y hy) hgroups
  · obtain ⟨y, hy, hdefaults, -⟩ := h.back r z hz
    obtain ⟨y', hy', hdefaults', -⟩ := h.back r' z' hz'
    exact hwired.apart r r' y y' hy hy' (by rw [← hdefaults, heq, hdefaults'])
  · rw [hmoments, List.mem_append] at hm
    rcases hm with hm | hm
    · exact ⟨(hwired.past m hm).1.trans h.last, (hwired.past m hm).2⟩
    · rcases hnew m hm with hbefore | hafter
      · exact ⟨(Assembly.RoutersLast.of_eq hbefore.symm).trans h.last, hbefore ▸ hwired.filter⟩
      · exact ⟨.of_eq hafter.symm, hafter ▸ hfilter⟩

namespace Neutral

variable (h : Neutral s t)

include h

/-- A change that does not matter passes no landmark. -/
lemma landmark {entry : Entry} (hmark : Engine.Landmark e entry) :
    entry ∈ t.history ↔ entry ∈ s.history := by
  obtain ⟨new, hmoments, hnew⟩ := h.moments
  rw [history, hmoments, List.map_append, List.mem_append, history, or_iff_left]
  intro hmem
  obtain ⟨m, hm, rfl⟩ := List.mem_map.mp hmem
  exact (hnew m hm).1 e hmark

/-- A router that was there before a change that does not matter is there after it, and keeps what
the rules are about. -/
lemma router_forth {y : Router} (hy : s.routers[r]? = some y) :
    ∃ z, t.routers[r]? = some z ∧ y.Keeps z := by
  have hlt : r < t.routers.length := by
    rw [h.routerCount]
    exact (List.getElem?_eq_some_iff.mp hy).1
  exact ⟨_, List.getElem?_eq_getElem hlt, h.routers r y _ hy (List.getElem?_eq_getElem hlt)⟩

/-- A router that is there after a change that does not matter was there before it. -/
lemma router_back {z : Router} (hz : t.routers[r]? = some z) :
    ∃ y, s.routers[r]? = some y ∧ y.Keeps z := by
  have hlt : r < s.routers.length := by
    rw [← h.routerCount]
    exact (List.getElem?_eq_some_iff.mp hz).1
  exact ⟨_, List.getElem?_eq_getElem hlt, h.routers r _ z (List.getElem?_eq_getElem hlt) hz⟩

/-- A change that does not matter leaves the lists of attached engines as they are. -/
lemma lists : t.Lists r id e ↔ s.Lists r id e := by
  constructor
  · rintro ⟨z, hz, hmem⟩
    obtain ⟨y, hy, hkeeps⟩ := h.router_back hz
    exact ⟨y, hy, hkeeps.aspects ▸ hmem⟩
  · rintro ⟨y, hy, hmem⟩
    obtain ⟨z, hz, hkeeps⟩ := h.router_forth hy
    exact ⟨z, hz, hkeeps.aspects ▸ hmem⟩

/-- A change that does not matter leaves the default handlers as they are, since groups only come
behind the others. -/
lemma member (hwired : s.Wired) : t.Member r id ↔ s.Member r id := by
  have hgroup : ∀ {y : Router}, s.routers[r]? = some y →
      t.groups[y.defaults]? = s.groups[y.defaults]? := by
    intro y hy
    exact getElem?_of_extends h.groups (hwired.defaults r y hy)
  constructor
  · rintro ⟨z, members, hz, hmembers, hmem⟩
    obtain ⟨y, hy, hkeeps⟩ := h.router_back hz
    rw [hkeeps.defaults, hgroup hy] at hmembers
    exact ⟨y, members, hy, hmembers, hmem⟩
  · rintro ⟨y, members, hy, hmembers, hmem⟩
    obtain ⟨z, hz, hkeeps⟩ := h.router_forth hy
    rw [← hgroup hy, ← hkeeps.defaults] at hmembers
    exact ⟨z, members, hz, hmembers, hmem⟩

/-- A change that does not matter leaves the routers the same. -/
lemma sameRouters : s.toAssembly.SameRouters t.toAssembly where
  last r y hy := by
    obtain ⟨z, hz, hkeeps⟩ := h.router_forth hy
    exact ⟨z, hz, hkeeps.defaults, fun hdown => hkeeps.shutDown.trans hdown⟩
  back r z hz := by
    obtain ⟨y, hy, hkeeps⟩ := h.router_back hz
    exact ⟨y, hy, hkeeps.defaults, fun hup => ⟨hkeeps.shutDown ▸ hup, hkeeps.filter⟩⟩

end Neutral

/-- **A change that does not matter keeps the rules.** -/
lemma Wired.neutral (hwired : s.Wired) (h : Neutral s t) : t.Wired := by
  have hactivated : ∀ {e r id}, Entry.activated e r id ∈ t.history ↔
      Entry.activated e r id ∈ s.history := h.landmark rfl
  obtain ⟨new, hmoments, hnew⟩ := h.moments
  refine hwired.carried h.sameRouters h.groups.length_le hmoments (fun m hm => .inr (hnew m hm).2)
    ?_ ?_ ?_ ?_ ?_
  · intro e r id hmem
    obtain ⟨lock, hslot⟩ := hwired.slot e r id (hactivated.mp hmem)
    exact ⟨⟨lock, slot?_of_extends h.slots hslot⟩, hwired.router e r id (hactivated.mp hmem)⟩
  · intro r id e hlists
    exact hactivated.mpr (hwired.lists r id e (h.lists.mp hlists))
  · intro e y r id hy hstate hmem
    obtain ⟨x, hx, hactive⟩ := h.engines e y hy hstate
    rcases hwired.member e x r id hx hactive (hactivated.mp hmem) with hmember | hgone | hswept
    · exact .inl ((h.member hwired).mpr hmember)
    · exact .inr (.inl (hgone.mono hmoments))
    · exact .inr (.inr (hswept.mono hmoments))
  · intro e y r id z hy hstate hmem hz hup
    obtain ⟨x, hx, hactive⟩ := h.engines e y hy hstate
    obtain ⟨w, hw, hkeeps⟩ := h.router_back hz
    exact h.lists.mpr (hwired.listed e x r id w hx hactive (hactivated.mp hmem) hw
      (hkeeps.shutDown ▸ hup))
  · rintro e r id hmem ⟨m, hm, ⟨why, hwhy⟩, halive⟩
    have hold : m ∈ s.moments := by
      rw [hmoments, List.mem_append] at hm
      refine hm.resolve_right fun hm => (hnew m hm).1 e ?_
      rw [hwhy]
      rfl
    obtain ⟨hmember, hlists⟩ :=
      hwired.gone e r id (hactivated.mp hmem) ⟨m, hold, ⟨why, hwhy⟩, halive⟩
    exact ⟨fun hm => hmember ((h.member hwired).mp hm), fun e' hl => hlists e' (h.lists.mp hl)⟩

/-- A change that leaves routers, groups and slots as they are, and passes no landmark, does not
matter. -/
lemma neutral_of_eq (new : List Moment) (hslots : t.slots = s.slots) (hgroups : t.groups = s.groups)
    (hrouters : t.routers = s.routers) (hmoments : t.moments = s.moments ++ new)
    (hnew : ∀ m ∈ new, (∀ e, ¬ Engine.Landmark e m.entry) ∧ m.assembly.routers = s.routers)
    (hengines : ∀ (e : EngineId) y, t.engines[e]? = some y → y.state = .active →
      ∃ x, s.engines[e]? = some x ∧ x.state = .active) : Neutral s t where
  engines := hengines
  slots := hslots ▸ List.prefix_rfl
  groups := hgroups ▸ List.prefix_rfl
  routerCount := by rw [hrouters]
  routers r y z hy hz := by
    rw [hrouters] at hz
    obtain rfl : y = z := Option.some.inj (hy.symm.trans hz)
    exact ⟨rfl, rfl, rfl, fun h => h⟩
  moments := ⟨new, hmoments, by rwa [hrouters]⟩

/-- Nothing matters to the rules while nothing happens that matters to engines. -/
lemma Quiet.neutral (hquiet : Quiet s t) : Neutral s t where
  engines e y hy hstate := ⟨y, hquiet.engines ▸ hy, hstate⟩
  slots := hquiet.slots
  groups := by
    obtain ⟨n, hn⟩ := hquiet.groups
    exact ⟨_, hn.symm⟩
  routerCount := hquiet.routerCount
  routers := hquiet.routers
  moments := ⟨[], by simp [moments, hquiet.journal], by simp⟩

/-- An engine that changes, but not in its state, does not matter to the rules. -/
lemma neutral_onEngine {f : Engine → Engine} {x : Engine} (hx : s.engines[e]? = some x)
    (hstate : (f x).state = .active → x.state = .active) : Neutral s (s.onEngine e f) := by
  refine neutral_of_eq [] rfl rfl rfl (by simp) (by simp) fun i y hy hactive => ?_
  rw [engines_onEngine] at hy
  split at hy
  · rename_i h
    subst h
    rw [hx, Option.map_some, Option.some.injEq] at hy
    exact ⟨x, hx, hstate (hy ▸ hactive)⟩
  · exact ⟨y, hy, hactive⟩

/-- An entry that is no landmark does not matter to the rules. -/
lemma neutral_noted (entry : Entry) (hmark : ∀ e, ¬ Engine.Landmark e entry) :
    Neutral s (s.noted entry) :=
  neutral_of_eq [⟨entry, s.toAssembly⟩] rfl rfl rfl (moments_noted entry)
    (by simpa using hmark) fun _ y hy hstate => ⟨y, hy, hstate⟩

/-- An entry that is about no engine passes no landmark. -/
lemma neutral_noted_of_none {entry : Entry} (habout : entry.engine? = none) :
    Neutral s (s.noted entry) := by
  refine neutral_noted entry fun e hmark => ?_
  revert hmark habout
  cases entry <;> simp [Engine.Landmark, Entry.engine?]

/-- A new engine does not matter to the rules: it is not active, and in no list. -/
lemma neutral_made (sink : Sink) (threshold : UInt32) :
    Neutral s { s with engines := s.engines ++ [.make sink threshold] } := by
  refine neutral_of_eq [] rfl rfl rfl (by simp [moments]) (by simp) ?_
  intro e y hy hstate
  rw [List.getElem?_append] at hy
  split at hy
  · exact ⟨y, hy, hstate⟩
  · rw [List.getElem?_singleton] at hy
    split at hy
    · rw [← Option.some.inj hy] at hstate
      simp [Engine.make] at hstate
    · simp at hy

/-- A step of an engine that leaves no entry does not matter to the rules. -/
lemma neutral_shift {f : Engine → Engine} {x y : Engine} (hx : s.engines[e]? = some x)
    (heq : f x = y) (hshift : x.Shift e s.history y) : Neutral s (s.onEngine e f) := by
  refine neutral_onEngine hx ?_
  rw [heq]
  cases hshift <;> exact fun h => h

/-- A step that is a turn of its own starts no engine, and passes no landmark. -/
lemma event_neutral {x y : Engine} {h : List Entry} {entry : Entry} (hevent : x.Event e h y entry)
    (halone : x.Alone e h entry) :
    (y.state = .active → x.state = .active) ∧ ∀ i, ¬ Engine.Landmark i entry := by
  cases hevent with
  | activated => exact halone.elim
  | deactivated => exact halone.elim
  | _ => exact ⟨fun h => h, fun i h => h⟩

end

end System

end NamespaceLogging
