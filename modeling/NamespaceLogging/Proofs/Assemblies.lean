import NamespaceLogging.Proofs.Changes

/-!
# Routers with their members

The default handlers of a router are the members of a group, and its attached engines are in a list.
This module says how both change when a group or a router does, and when an engine leaves its router.

## Main definitions

* `Assembly.Member`, `Assembly.Lists`: a slot is among the default handlers of a router, or in its
  list of attached engines.
* `Assembly.RoutersLast`, `Assembly.SameRouters`: an assembly has the routers of an earlier one, and
  no others.

## Main results

* `Assembly.member_iff_of_modify`, `Assembly.lists_iff_of_modify`: the members and the attached engines
  after a change.
* `Assembly.member_detached`, `Assembly.lists_detached`: they lose the slot that is taken out, and no
  other one.
-/

set_option autoImplicit false

namespace NamespaceLogging

namespace Assembly

/-- The slot is among the default handlers of the router. -/
def Member (a : Assembly) (r : RouterId) (id : SlotId) : Prop :=
  ∃ y members, a.routers[r]? = some y ∧ a.groups[y.defaults]? = some members ∧ id ∈ members

/-- The slot is in the router's list of attached engines, for the engine. -/
def Lists (a : Assembly) (r : RouterId) (id : SlotId) (e : EngineId) : Prop :=
  ∃ y, a.routers[r]? = some y ∧ (id, e) ∈ y.aspects

/-- The routers of one assembly are also in another, later one. -/
def RoutersLast (a b : Assembly) : Prop :=
  ∀ (r : RouterId) y, a.routers[r]? = some y → ∃ z, b.routers[r]? = some z ∧
    z.defaults = y.defaults ∧ (y.shutDown = true → z.shutDown = true)

variable {a b c : Assembly} {r r' : RouterId} {id id' : SlotId} {e e' : EngineId} {x : Engine}

/-- Routers last if they are as they were. -/
lemma RoutersLast.of_eq (h : b.routers = a.routers) : a.RoutersLast b :=
  fun _ y hy => ⟨y, h ▸ hy, rfl, fun hdown => hdown⟩

/-- Routers that last for some time and then for some more last all the time. -/
lemma RoutersLast.trans (hab : a.RoutersLast b) (hbc : b.RoutersLast c) : a.RoutersLast c := by
  intro r y hy
  obtain ⟨z, hz, hdefaults, hdown⟩ := hab r y hy
  obtain ⟨w, hw, hdefaults', hdown'⟩ := hbc r z hz
  exact ⟨w, hw, hdefaults'.trans hdefaults, hdown' ∘ hdown⟩

/-- A router that is changed keeps its default group, and stays shut down if it was. -/
lemma RoutersLast.modify {f : Router → Router} (h : b.routers = a.routers.modify r f)
    (hf : ∀ y, (f y).defaults = y.defaults ∧ (y.shutDown = true → (f y).shutDown = true)) :
    a.RoutersLast b := by
  intro r' y hy
  rw [h, List.getElem?_modify]
  by_cases hr : r = r'
  · exact ⟨f y, by simp [hr, hy], hf y⟩
  · exact ⟨y, by simp [hr, hy], rfl, fun hdown => hdown⟩

/-- The routers of one assembly are those of another, later one: each has its default handlers still,
and one that is up was up before, and has its filter if it had one. -/
structure SameRouters (a b : Assembly) : Prop where
  last : a.RoutersLast b
  back : ∀ (r : RouterId) z, b.routers[r]? = some z → ∃ y, a.routers[r]? = some y ∧
    z.defaults = y.defaults ∧
      (z.shutDown = false → y.shutDown = false ∧ (y.filter.isSome → z.filter.isSome))

/-- A change of one router makes no new one: the routers are the same if it keeps its group, its
mark and its filter. -/
lemma SameRouters.modify {f : Router → Router} (h : b.routers = a.routers.modify r f)
    (hf : ∀ y, (f y).defaults = y.defaults ∧ (y.shutDown = true → (f y).shutDown = true) ∧
      ((f y).shutDown = false → y.filter.isSome → (f y).filter.isSome)) : a.SameRouters b where
  last := .modify h fun y => ⟨(hf y).1, (hf y).2.1⟩
  back r' z hz := by
    rw [h, List.getElem?_modify, Option.map_eq_map, Option.map_eq_some_iff] at hz
    obtain ⟨y, hy, rfl⟩ := hz
    refine ⟨y, hy, ?_⟩
    split
    · obtain ⟨hdefaults, hdown, hfilter⟩ := hf y
      refine ⟨hdefaults, fun hup => ⟨?_, hfilter hup⟩⟩
      by_contra hnot
      simp [hdown (by simpa using hnot)] at hup
    · exact ⟨rfl, fun hup => ⟨hup, fun h => h⟩⟩

/-! ## Lists that change -/

/-- The members after a group was changed. -/
lemma member_iff_of_modify {g : GroupId} {f : List SlotId → List SlotId}
    (hrouters : ∀ r : RouterId,
      (b.routers[r]?).map Router.defaults = (a.routers[r]?).map Router.defaults)
    (hgroups : b.groups = a.groups.modify g f) :
    b.Member r id ↔ ∃ y members, a.routers[r]? = some y ∧ a.groups[y.defaults]? = some members ∧
      id ∈ if g = y.defaults then f members else members := by
  have hr := hrouters r
  constructor
  · rintro ⟨z, members, hz, hmembers, hmem⟩
    rw [hz, Option.map_some, eq_comm, Option.map_eq_some_iff] at hr
    obtain ⟨y, hy, hdefaults⟩ := hr
    rw [hgroups, List.getElem?_modify, Option.map_eq_map, Option.map_eq_some_iff] at hmembers
    obtain ⟨members', hmembers', rfl⟩ := hmembers
    rw [← hdefaults] at hmembers' hmem
    exact ⟨y, members', hy, hmembers', hmem⟩
  · rintro ⟨y, members, hy, hmembers, hmem⟩
    rw [hy, Option.map_some, Option.map_eq_some_iff] at hr
    obtain ⟨z, hz, hdefaults⟩ := hr
    refine ⟨z, _, hz, ?_, hmem⟩
    rw [hgroups, hdefaults, List.getElem?_modify, hmembers]
    split <;> simp_all

/-- Members are told by groups and by the default groups of routers. -/
lemma member_congr (hrouters : ∀ r : RouterId,
      (b.routers[r]?).map Router.defaults = (a.routers[r]?).map Router.defaults)
    (hgroups : b.groups = a.groups) : b.Member r id ↔ a.Member r id := by
  have hsame : b.groups = a.groups.modify a.groups.length fun members => members :=
    hgroups.trans (List.modify_id _ _).symm
  rw [member_iff_of_modify hrouters hsame]
  simp [Member]

/-- The list of a router's attached engines after a router was changed. -/
lemma lists_iff_of_modify {f : Router → Router} (hrouters : b.routers = a.routers.modify r' f) :
    b.Lists r id e ↔
      ∃ y, a.routers[r]? = some y ∧ (id, e) ∈ (if r' = r then f y else y).aspects := by
  unfold Lists
  rw [hrouters, List.getElem?_modify]
  cases a.routers[r]? with
  | none => simp
  | some y => by_cases hr : r' = r <;> simp [hr]

/-- Changing a router leaves the default groups of all routers, if it leaves its own. -/
lemma map_defaults_modify {f : Router → Router} (hrouters : b.routers = a.routers.modify r f)
    (hf : ∀ y, (f y).defaults = y.defaults) (r' : RouterId) :
    (b.routers[r']?).map Router.defaults = (a.routers[r']?).map Router.defaults := by
  rw [hrouters, List.getElem?_modify]
  cases a.routers[r']? with
  | none => simp
  | some y => by_cases hr : r = r' <;> simp [hr, hf]

/-! ## Leaving a router -/

/-- Routers last when a slot is taken out of one of them. -/
lemma routersLast_detached : a.RoutersLast (a.detached r id) := by
  unfold detached
  split
  · exact .of_eq rfl
  · exact .modify rfl fun _ => ⟨rfl, fun hdown => hdown⟩

/-- Routers last when an engine leaves one of them. -/
lemma routersLast_released : a.RoutersLast (a.released x) := by
  unfold released
  repeat' split
  · exact routersLast_detached
  · exact .of_eq rfl
  · exact .of_eq rfl

/-- The members after a slot was taken out. -/
lemma member_detached {y : Router} (hy : a.routers[r]? = some y) :
    (a.detached r id).Member r' id' ↔ a.Member r' id' ∧
      ∀ z, a.routers[r']? = some z → z.defaults = y.defaults → id' ≠ id := by
  have hrouters : (a.detached r id).routers = a.routers.modify r fun y =>
      { y with aspects := y.aspects.filter fun entry => entry.1 != id } := by
    simp [detached, hy]
  have hgroups : (a.detached r id).groups =
      a.groups.modify y.defaults fun members => members.filter (· != id) := by
    simp [detached, hy]
  rw [member_iff_of_modify (map_defaults_modify hrouters fun _ => rfl) hgroups]
  constructor
  · rintro ⟨z, members, hz, hmembers, hmem⟩
    refine ⟨⟨z, members, hz, hmembers, ?_⟩, fun w hw hdefaults => ?_⟩
    · split at hmem
      · exact (List.mem_filter.mp hmem).1
      · exact hmem
    · obtain rfl : z = w := Option.some.inj (hz.symm.trans hw)
      rw [if_pos hdefaults.symm] at hmem
      simpa using (List.mem_filter.mp hmem).2
  · rintro ⟨⟨z, members, hz, hmembers, hmem⟩, hne⟩
    refine ⟨z, members, hz, hmembers, ?_⟩
    split
    · exact List.mem_filter.mpr ⟨hmem, by simpa using hne z hz (by simp_all)⟩
    · exact hmem

/-- The attached engines after a slot was taken out. -/
lemma lists_detached {y : Router} (hy : a.routers[r]? = some y) :
    (a.detached r id).Lists r' id' e ↔ a.Lists r' id' e ∧ (r' = r → id' ≠ id) := by
  have hrouters : (a.detached r id).routers = a.routers.modify r fun y =>
      { y with aspects := y.aspects.filter fun entry => entry.1 != id } := by
    simp [detached, hy]
  rw [lists_iff_of_modify hrouters, Lists]
  constructor
  · rintro ⟨z, hz, hmem⟩
    split at hmem
    · simp_all
    · exact ⟨⟨z, hz, hmem⟩, fun hr => by simp_all⟩
  · rintro ⟨⟨z, hz, hmem⟩, hne⟩
    refine ⟨z, hz, ?_⟩
    split
    · simp_all
    · exact hmem

/-- A router that an engine leaves goes on as it is, but for its list of attached engines. -/
lemma router_released {z : Router} (hz : (a.released x).routers[r]? = some z) :
    ∃ y, a.routers[r]? = some y ∧ z.defaults = y.defaults ∧ z.shutDown = y.shutDown ∧
      z.filter = y.filter := by
  have hdetached : ∀ {r' : RouterId} {id : SlotId}, (a.detached r' id).routers[r]? = some z →
      ∃ y, a.routers[r]? = some y ∧ z.defaults = y.defaults ∧ z.shutDown = y.shutDown ∧
        z.filter = y.filter := by
    intro r' id hz
    unfold detached at hz
    split at hz
    · exact ⟨z, hz, rfl, rfl, rfl⟩
    · simp only [List.getElem?_modify, Option.map_eq_map, Option.map_eq_some_iff] at hz
      obtain ⟨y, hy, rfl⟩ := hz
      refine ⟨y, hy, ?_⟩
      split <;> exact ⟨rfl, rfl, rfl⟩
  unfold released at hz
  repeat' split at hz
  · exact hdetached hz
  · exact ⟨z, hz, rfl, rfl, rfl⟩
  · exact ⟨z, hz, rfl, rfl, rfl⟩

/-- The routers are the same when an engine has left one of them: none is new, and none is up that
was down. -/
lemma sameRouters_released : a.SameRouters (a.released x) where
  last := routersLast_released
  back r z hz := by
    obtain ⟨y, hy, hdefaults, hdown, hfilter⟩ := router_released hz
    exact ⟨y, hy, hdefaults, fun hup => ⟨hdown ▸ hup, fun h => hfilter ▸ h⟩⟩

/-- An engine that leaves its router leaves its slot behind: no slot is lost. -/
@[simp]
lemma slots_released : (a.released x).slots = a.slots := by
  unfold released detached
  repeat' split
  all_goals rfl

/-- An engine that leaves its router changes the members of a group, but not the number of
groups. -/
@[simp]
lemma groups_length_released : (a.released x).groups.length = a.groups.length := by
  unfold released detached
  repeat' split
  all_goals simp

end Assembly

end NamespaceLogging
