import NamespaceLogging.Proofs.Wiring

/-!
# Changes keep engines wired

The changes that matter to the rules by which engines, slots and routers belong together: a group gets
or loses members, a router is founded or shut down, an engine is attached to a router or leaves it.
Each of them keeps the rules, and so all changes do.

## Main definitions

* `System.Sound`: the rules that every change keeps.

## Main results

* `System.Wired.regroup`: a group that changes keeps the rules.
* `System.Wired.attached`, `System.Wired.left`: an engine gets its place, and leaves it.
* `System.Change.wired`: every change keeps the rules.
* `System.Evolves.sound`: whatever changes, the rules are kept.
-/

set_option autoImplicit false

namespace NamespaceLogging

open History

namespace System

section

variable {s t : System} {e : EngineId} {r : RouterId} {id : SlotId}

/-! ## What matters -/

/-- **A group that changes** keeps the rules, if only new slots join it, and if the engines that lose
their place are allowed to. -/
lemma Wired.regroup (hwired : s.Wired) {g : GroupId} {f : List SlotId → List SlotId}
    (new : List Moment) (hengines : t.engines = s.engines) (hrouters : t.routers = s.routers)
    (hslots : s.slots <+: t.slots) (hgroups : t.groups = s.groups.modify g f)
    (hmoments : t.moments = s.moments ++ new)
    (hnew : ∀ m ∈ new, (∀ e, ¬ Engine.Landmark e m.entry) ∧ m.assembly.routers = s.routers)
    (hjoin : ∀ members id, id ∈ f members → id ∈ members ∨ s.slot? id = none)
    (hleave : ∀ e x r id y members, s.engines[e]? = some x → x.state = .active →
      Entry.activated e r id ∈ s.history → s.routers[r]? = some y → y.defaults = g →
      s.groups[g]? = some members → id ∈ members → id ∈ f members ∨ t.Withdrawn id ∨ t.Swept e r) :
    t.Wired := by
  -- first everything but the group, which does not matter
  have hmid : ({ t with groups := s.groups } : System).Wired :=
    hwired.neutral {
      engines := fun e y hy hstate => ⟨y, hengines ▸ hy, hstate⟩
      slots := hslots
      groups := List.prefix_rfl
      routerCount := by rw [hrouters]
      routers := fun r y z hy hz => by
        obtain rfl : y = z := Option.some.inj (hy.symm.trans (hrouters ▸ hz))
        exact ⟨rfl, rfl, rfl, fun h => h⟩
      moments := ⟨new, hmoments, by simpa [hrouters] using hnew⟩ }
  have hmember : ∀ {r id}, t.Member r id ↔ ∃ y members, s.routers[r]? = some y ∧
      s.groups[y.defaults]? = some members ∧ id ∈ if g = y.defaults then f members else members :=
    Assembly.member_iff_of_modify (fun r => by rw [hrouters]) hgroups
  have hactivated : ∀ {e r id}, Entry.activated e r id ∈ t.history →
      Entry.activated e r id ∈ s.history := by
    intro e r id hmem
    rw [history, hmoments, List.map_append, List.mem_append] at hmem
    refine hmem.resolve_right fun hmem => ?_
    obtain ⟨m, hm, heq⟩ := List.mem_map.mp hmem
    exact (hnew m hm).1 e (by rw [heq]; rfl)
  refine { hmid with defaults := ?_, member := ?_, gone := ?_ }
  · intro r y hy
    rw [hgroups, List.length_modify]
    exact hmid.defaults r y hy
  · intro e x r id hx hstate hmem
    rcases hwired.member e x r id (hengines ▸ hx) hstate (hactivated hmem) with hold | hgone | hswept
    · obtain ⟨y, members, hy, hmembers, hid⟩ := hold
      by_cases hg : g = y.defaults
      · subst hg
        refine (hleave e x r id y members (hengines ▸ hx) hstate (hactivated hmem) hy rfl
          hmembers hid).imp_left fun hid => hmember.mpr ⟨y, members, hy, hmembers, ?_⟩
        rwa [if_pos rfl]
      · refine .inl (hmember.mpr ⟨y, members, hy, hmembers, ?_⟩)
        rwa [if_neg hg]
    · exact .inr (.inl (hgone.mono hmoments))
    · exact .inr (.inr (hswept.mono hmoments))
  · intro e r id hmem hfreed
    obtain ⟨hnotMember, hnotListed⟩ := hmid.gone e r id hmem hfreed
    refine ⟨fun h => ?_, hnotListed⟩
    obtain ⟨y, members, hy, hmembers, hid⟩ := hmember.mp h
    refine hnotMember ⟨y, members, hrouters ▸ hy, hmembers, ?_⟩
    split at hid
    · refine (hjoin members id hid).resolve_right fun hnone => ?_
      obtain ⟨lock, hslot⟩ := hwired.slot e r id (hactivated hmem)
      simp [hslot] at hnone
    · exact hid

/-- The number of a new slot is not taken. -/
lemma slot?_length : s.slot? (s.slots.length + 1) = none := by
  simp [Assembly.slot?]

/-- A new slot in a group keeps the rules: no engine had that slot before. -/
lemma Wired.enlisted (hwired : s.Wired) (g : GroupId) (slot : Slot) : (s.enlisted g slot).Wired := by
  refine hwired.regroup [] rfl rfl (List.prefix_append _ _) rfl (by simp [moments, System.enlisted])
    (by simp) (fun members id hid => ?_) fun e x r id y members _ _ _ _ _ _ hid => .inl ?_
  · rw [List.mem_append, List.mem_singleton] at hid
    refine hid.imp_right fun h => ?_
    rw [h]
    exact slot?_length
  · exact List.mem_append_left _ hid

/-- Slots that are taken out of a group by hand keep the rules: their engines may lose their
places. -/
lemma Wired.withdrawn (hwired : s.Wired) {g : GroupId} {keep : SlotId → Bool} {gone : List SlotId}
    (hall : ∀ members, s.groups[g]? = some members → ∀ id ∈ members, keep id = false → id ∈ gone) :
    ((s.onGroup g fun members => members.filter keep).noted (.withdrawn gone)).Wired := by
  refine hwired.regroup [⟨.withdrawn gone, (s.onGroup g fun members =>
      members.filter keep).toAssembly⟩] rfl rfl List.prefix_rfl rfl (moments_noted _)
    ?_ (fun members id hid => .inl (List.mem_filter.mp hid).1) ?_
  · simp [Engine.Landmark, onGroup]
  · intro e x r id y members _ _ _ _ _ hmembers hid
    cases hkeep : keep id with
    | true => exact .inl (List.mem_filter.mpr ⟨hid, hkeep⟩)
    | false =>
      refine .inr (.inl ⟨gone, ?_, hall members hmembers id hid hkeep⟩)
      rw [history_noted]
      exact List.mem_append_right _ (List.mem_singleton_self _)

/-- A router that is shut down and lets its default handlers go keeps the rules: the engines among
them that are active were attached too late. -/
lemma Wired.cleared (hwired : s.Wired) (hcareers : s.Careers) {y : Router} (members : List SlotId)
    (hrouter : s.routers[r]? = some y)
    (hended : ∀ e x, s.engines[e]? = some x → x.state = .active → x.router = some r → s.Late e r) :
    ((s.onGroup y.defaults fun _ => []).noted (.cleared r members)).Wired := by
  refine hwired.regroup [⟨.cleared r members, (s.onGroup y.defaults fun _ => []).toAssembly⟩]
    rfl rfl List.prefix_rfl rfl (moments_noted _) ?_ (by simp) ?_
  · simp [Engine.Landmark, onGroup]
  · intro e x r' id z members' hx hstate hmem hz hdefaults _ _
    obtain rfl : r' = r := hwired.apart r' r z y hz hrouter hdefaults
    obtain ⟨m, hm, id', w, hentry, hw, hdown⟩ :=
      hended e x hx hstate ((hcareers e x hx).router r' id hmem)
    obtain ⟨before, after, heq⟩ := List.append_of_mem hm
    refine .inr (.inr ⟨before, m,
      after ++ [⟨.cleared r' members, (s.onGroup y.defaults fun _ => []).toAssembly⟩], ?_,
      ⟨id', hentry⟩, ⟨w, hw, hdown⟩, members, ?_⟩)
    · rw [moments_noted]
      change s.moments ++ _ = _
      simp [heq]
    · simp

/-- A new router keeps the rules: its group is new, and no engine was attached to it. -/
lemma Wired.founded (hwired : s.Wired) (filter : LevelSet) : (s.founded filter).Wired := by
  have hold : ∀ {r : RouterId} {y}, s.routers[r]? = some y →
      (s.founded filter).routers[r]? = some y := fun h =>
    (getElem?_of_extends (List.prefix_append _ _) (List.getElem?_eq_some_iff.mp h).1).trans h
  have hcases : ∀ {r : RouterId} {y}, (s.founded filter).routers[r]? = some y →
      s.routers[r]? = some y ∨ y = .fresh filter s.groups.length ∧ r = s.routers.length := by
    intro r y hy
    rw [System.founded, List.getElem?_append] at hy
    split at hy
    · exact .inl hy
    · rename_i hge
      rw [List.getElem?_singleton] at hy
      split at hy
      · rename_i hle
        exact .inr ⟨(Option.some.inj hy).symm,
          Nat.le_antisymm (Nat.sub_eq_zero_iff_le.mp hle) (Nat.not_lt.mp hge)⟩
      · simp at hy
  have hlists : ∀ {r id e}, (s.founded filter).Lists r id e → s.Lists r id e := by
    rintro r id e ⟨y, hy, hmem⟩
    rcases hcases hy with hy | ⟨rfl, -⟩
    · exact ⟨y, hy, hmem⟩
    · simp [Router.fresh] at hmem
  have hgroup : ∀ {r : RouterId} {y}, s.routers[r]? = some y →
      (s.founded filter).groups[y.defaults]? = s.groups[y.defaults]? := fun h =>
    getElem?_of_extends (List.prefix_append _ _) (hwired.defaults _ _ h)
  refine ⟨hwired.slot, ?_, ?_, ?_, ?_, ?_, ?_, ?_, ?_, ?_⟩
  · intro e r id hmem
    obtain ⟨y, hy⟩ := hwired.router e r id hmem
    exact ⟨y, hold hy⟩
  · exact fun r id e h => hwired.lists r id e (hlists h)
  · intro r y hy
    simp only [System.founded, List.length_append, List.length_singleton]
    rcases hcases hy with hy | ⟨rfl, -⟩
    · exact Nat.lt_succ_of_lt (hwired.defaults r y hy)
    · simp [Router.fresh]
  · intro r r' y z hy hz heq
    rcases hcases hy with hy | ⟨rfl, rfl⟩ <;> rcases hcases hz with hz | ⟨rfl, rfl⟩
    · exact hwired.apart r r' y z hy hz heq
    · exact absurd heq (Nat.ne_of_lt (hwired.defaults r y hy))
    · exact absurd heq.symm (Nat.ne_of_lt (hwired.defaults r' z hz))
    · rfl
  · intro r y hy hup
    rcases hcases hy with hy | ⟨rfl, -⟩
    · exact hwired.filter r y hy hup
    · rfl
  · intro e x r id hx hstate hmem
    refine (hwired.member e x r id hx hstate hmem).imp_left ?_
    rintro ⟨y, members, hy, hmembers, hid⟩
    exact ⟨y, members, hold hy, (hgroup hy).trans hmembers, hid⟩
  · intro e x r id y hx hstate hmem hy hup
    obtain ⟨z, hz⟩ := hwired.router e r id hmem
    obtain rfl : z = y := Option.some.inj ((hold hz).symm.trans hy)
    obtain ⟨w, hw, hid⟩ := hwired.listed e x r id z hx hstate hmem hz hup
    exact ⟨w, hold hw, hid⟩
  · intro e r id hmem hfreed
    obtain ⟨hmember, hnot⟩ := hwired.gone e r id hmem hfreed
    refine ⟨fun h => hmember ?_, fun e' h => hnot e' (hlists h)⟩
    obtain ⟨y, members, hy, hmembers, hid⟩ := h
    obtain ⟨z, hz⟩ := hwired.router e r id hmem
    obtain rfl : z = y := Option.some.inj ((hold hz).symm.trans hy)
    exact ⟨z, members, hz, (hgroup hz).symm.trans hmembers, hid⟩
  · exact fun m hm => ⟨(hwired.past m hm).1.trans fun r y hy => ⟨y, hold hy, rfl, fun h => h⟩,
      (hwired.past m hm).2⟩

/-- A router that is shut down keeps the rules: it need not list its engines any more, and they stay
among its default handlers. -/
lemma Wired.shut (hwired : s.Wired) (r : RouterId) : (s.onRouter r Router.shut).Wired := by
  set t := s.onRouter r Router.shut
  have hrouters : t.routers = s.routers.modify r Router.shut := rfl
  have hsame : s.toAssembly.SameRouters t.toAssembly :=
    .modify hrouters fun _ => ⟨rfl, fun _ => rfl, fun hup => by simp [Router.shut] at hup⟩
  have hmember : ∀ {r' id}, t.Member r' id ↔ s.Member r' id :=
    Assembly.member_congr (Assembly.map_defaults_modify hrouters fun _ => rfl) rfl
  have hlists : ∀ {r' id e}, t.Lists r' id e → s.Lists r' id e := by
    intro r' id e h
    obtain ⟨y, hy, hmem⟩ := (Assembly.lists_iff_of_modify (a := s.toAssembly) hrouters).mp h
    refine ⟨y, hy, ?_⟩
    split at hmem
    · simp [Router.shut] at hmem
    · exact hmem
  refine hwired.carried hsame (Nat.le_refl _) (List.append_nil _).symm (by simp)
    (fun e r' id hmem => ⟨hwired.slot e r' id hmem, hwired.router e r' id hmem⟩)
    (fun r' id e h => hwired.lists r' id e (hlists h)) (fun e x r' id hx hstate hmem =>
      (hwired.member e x r' id hx hstate hmem).imp_left hmember.mpr) ?_ ?_
  · intro e x r' id z hx hstate hmem hz hup
    have hne : r ≠ r' := by
      rintro rfl
      rw [hrouters, List.getElem?_modify_eq, Option.map_eq_map, Option.map_eq_some_iff] at hz
      obtain ⟨y, -, rfl⟩ := hz
      simp [Router.shut] at hup
    have hkept : s.routers[r']? = some z := by
      rwa [hrouters, List.getElem?_modify_ne _ _ hne] at hz
    obtain ⟨w, hw, hid⟩ := hwired.listed e x r' id z hx hstate hmem hkept hup
    obtain rfl : w = z := Option.some.inj (hw.symm.trans hkept)
    exact ⟨w, hz, hid⟩
  · intro e r' id hmem hfreed
    obtain ⟨hnotMember, hnotListed⟩ := hwired.gone e r' id hmem hfreed
    exact ⟨fun h => hnotMember (hmember.mp h), fun e' h => hnotListed e' (hlists h)⟩

/-- An engine that is attached is listed by its router, as all others are that were listed. -/
lemma lists_attached {y : Router} {r' : RouterId} {id' : SlotId} {e' : EngineId} (lock : LockId)
    (hrouter : s.routers[r]? = some y) : (s.attached e r y lock).Lists r' id' e' ↔
      s.Lists r' id' e' ∨ r' = r ∧ id' = s.slots.length + 1 ∧ e' = e := by
  have hrouters : (s.attached e r y lock).routers = s.routers.modify r fun y =>
      { y with aspects := y.aspects ++ [(s.slots.length + 1, e)] } := rfl
  rw [Assembly.lists_iff_of_modify (a := s.toAssembly) hrouters, Assembly.Lists]
  constructor
  · rintro ⟨w, hw, hmem⟩
    split at hmem
    · simp only [List.mem_append, List.mem_singleton, Prod.mk.injEq] at hmem
      exact hmem.imp (fun h => ⟨w, hw, h⟩) fun h => ⟨by simp_all, h⟩
    · exact .inl ⟨w, hw, hmem⟩
  · rintro (⟨w, hw, hmem⟩ | ⟨rfl, rfl, rfl⟩)
    · refine ⟨w, hw, ?_⟩
      split
      · exact List.mem_append_left _ hmem
      · exact hmem
    · exact ⟨y, hrouter, by simp⟩

/-- **An engine that is attached** gets a slot of its own, and its place in both lists. -/
lemma Wired.attached {x : Engine} {y : Router} (hwired : s.Wired) (hcareers : s.Careers)
    (lock : LockId) (hengine : s.engines[e]? = some x) (hstate : x.state = .uninitialized)
    (hrouter : s.routers[r]? = some y) : (s.attached e r y lock).Wired := by
  set slot : Slot := ⟨.engine e, lock⟩
  set id := s.slots.length + 1
  have hmid := hwired.enlisted y.defaults slot
  set u := s.enlisted y.defaults slot
  set t := s.attached e r y lock
  have hcareer := hcareers e x hengine
  have hrouters : t.routers = u.routers.modify r fun y =>
      { y with aspects := y.aspects ++ [(id, e)] } := rfl
  have hmoments : t.moments = u.moments ++ [⟨.activated e r id, t.toAssembly⟩] := moments_noted _
  have hslot : u.slot? id = some slot := by
    simp [u, id, System.enlisted, Assembly.slot?]
  have hsame : u.toAssembly.SameRouters t.toAssembly :=
    .modify hrouters fun _ => ⟨rfl, fun h => h, fun _ h => h⟩
  have hmember : ∀ {r' id'}, t.Member r' id' ↔ u.Member r' id' :=
    Assembly.member_congr (Assembly.map_defaults_modify hrouters fun _ => rfl) rfl
  have hlists : ∀ {r' id' e'}, t.Lists r' id' e' ↔
      u.Lists r' id' e' ∨ r' = r ∧ id' = id ∧ e' = e := by
    exact lists_attached lock hrouter
  have hactivated : ∀ {e' r' id'}, Entry.activated e' r' id' ∈ t.history ↔
      Entry.activated e' r' id' ∈ s.history ∨ e' = e ∧ r' = r ∧ id' = id := by
    intro e' r' id'
    change _ ∈ ((_ : System).noted _).history ↔ _
    rw [history_noted, List.mem_append, List.mem_singleton, Entry.activated.injEq]
    rfl
  have hnone : ∀ r' id', Entry.activated e r' id' ∉ s.history := hcareer.not_started hstate
  have hothers : ∀ {e'}, e ≠ e' → t.engines[e']? = u.engines[e']? := fun hne =>
    engines_onEngine_of_ne hne
  have hplace : t.Member r id := by
    have hgroup : u.groups[y.defaults]? =
        some (s.groups.get ⟨y.defaults, hwired.defaults r y hrouter⟩ ++ [id]) := by
      simp [u, id, System.enlisted, hwired.defaults r y hrouter]
    exact hmember.mpr ⟨y, _, hrouter, hgroup, by simp⟩
  refine hmid.carried hsame (Nat.le_refl _) hmoments (fun m hm => ?_) ?_ ?_ ?_ ?_ ?_
  · rw [List.mem_singleton.mp hm]
    exact .inr rfl
  · intro e' r' id' hmem
    rcases hactivated.mp hmem with h | ⟨rfl, rfl, rfl⟩
    · exact ⟨hmid.slot e' r' id' h, hmid.router e' r' id' h⟩
    · exact ⟨⟨lock, hslot⟩, y, hrouter⟩
  · intro r' id' e' h
    rcases hlists.mp h with h | ⟨rfl, rfl, rfl⟩
    · exact hactivated.mpr (.inl (hmid.lists r' id' e' h))
    · exact hactivated.mpr (.inr ⟨rfl, rfl, rfl⟩)
  · intro e' x' r' id' hx' hactive hmem
    by_cases hne : e = e'
    · subst hne
      obtain ⟨-, rfl, rfl⟩ := (hactivated.mp hmem).resolve_left (hnone r' id')
      exact .inl hplace
    · rw [hothers hne] at hx'
      have hmem' := (hactivated.mp hmem).resolve_right fun h => hne h.1.symm
      rcases hmid.member e' x' r' id' hx' hactive hmem' with h | h | h
      · exact .inl (hmember.mpr h)
      · exact .inr (.inl (h.mono hmoments))
      · exact .inr (.inr (h.mono hmoments))
  · intro e' x' r' id' z hx' hactive hmem hz hup
    by_cases hne : e = e'
    · subst hne
      obtain ⟨-, rfl, rfl⟩ := (hactivated.mp hmem).resolve_left (hnone r' id')
      exact hlists.mpr (.inr ⟨rfl, rfl, rfl⟩)
    · rw [hothers hne] at hx'
      have hmem' := (hactivated.mp hmem).resolve_right fun h => hne h.1.symm
      obtain ⟨w, hw, -, hkept⟩ := hsame.back r' z hz
      exact hlists.mpr (.inl (hmid.listed e' x' r' id' w hx' hactive hmem' hw (hkept hup).1))
  · rintro e' r' id' hmem ⟨m, hm, ⟨why, hwhy⟩, halive⟩
    have hold : m ∈ u.moments := by
      rw [hmoments, List.mem_append, List.mem_singleton] at hm
      refine hm.resolve_right fun h => ?_
      simp [h] at hwhy
    have hne : e' ≠ e := by
      rintro rfl
      refine hcareer.not_ended (by simp [hstate]) why ?_
      exact hwhy ▸ List.mem_map_of_mem hold
    have hmem' := (hactivated.mp hmem).resolve_right fun h => hne h.1
    obtain ⟨hnotMember, hnotListed⟩ := hmid.gone e' r' id' hmem' ⟨m, hold, ⟨why, hwhy⟩, halive⟩
    refine ⟨fun h => hnotMember (hmember.mp h), fun e'' h => ?_⟩
    rcases hlists.mp h with h | ⟨-, rfl, -⟩
    · exact hnotListed e'' h
    · obtain ⟨lock', hslot'⟩ := hmid.slot e' r' _ hmem'
      rw [hslot] at hslot'
      simp [slot, hne.symm] at hslot'

section Left

variable {x : Engine}

/-- An engine that takes its last record leaves its router, if that can be reached. -/
lemma toAssembly_left (why : Ending) (hrouter : x.router = some r) (hslot : x.slot = some id) :
    (s.left e x why).toAssembly =
      if s.isAlive r then (s.onEngine e Engine.deactivate).toAssembly.detached r id
      else (s.onEngine e Engine.deactivate).toAssembly := by
  change ((s.onEngine e Engine.deactivate).noted (.deactivated e why)).toAssembly.released x = _
  simp [Assembly.released, hrouter, hslot]
  rfl

/-- Nobody else leaves a list of attached engines with it. -/
lemma lists_left {y : Router} {r' : RouterId} {id' : SlotId} {e' : EngineId} (why : Ending)
    (hrouter : x.router = some r) (hslot : x.slot = some id) (hy : s.routers[r]? = some y) :
    (s.left e x why).Lists r' id' e' ↔
      s.Lists r' id' e' ∧ (s.isAlive r = true → r' = r → id' ≠ id) := by
  rw [toAssembly_left why hrouter hslot]
  split
  · rename_i halive
    rw [Assembly.lists_detached (a := (s.onEngine e Engine.deactivate).toAssembly) hy]
    simp only [halive, true_implies]
    rfl
  · rename_i halive
    exact (and_iff_left fun h => absurd h halive).symm

/-- Nobody else leaves a group of default handlers with it. -/
lemma member_left {y : Router} {r' : RouterId} {id' : SlotId} (why : Ending)
    (hrouter : x.router = some r) (hslot : x.slot = some id) (hy : s.routers[r]? = some y) :
    (s.left e x why).Member r' id' ↔ s.Member r' id' ∧ (s.isAlive r = true →
      ∀ z, s.routers[r']? = some z → z.defaults = y.defaults → id' ≠ id) := by
  rw [toAssembly_left why hrouter hslot]
  split
  · rename_i halive
    rw [Assembly.member_detached (a := (s.onEngine e Engine.deactivate).toAssembly) hy]
    simp only [halive, true_implies]
    rfl
  · rename_i halive
    exact (and_iff_left fun h => absurd h halive).symm

end Left

/-- **An engine that takes its last record** leaves its router, and nobody else does.

**Proof sketch.** If the router can be reached, the engine's slot is taken out of both lists.  The
slots of other engines are different ones, so that they stay. -/
lemma Wired.left {x : Engine} (hwired : s.Wired) (why : Ending) (hengine : s.engines[e]? = some x)
    (hactivated : Entry.activated e r id ∈ s.history) (hrouter : x.router = some r)
    (hslot : x.slot = some id)
    (hunique : ∀ r' id', Entry.activated e r' id' ∈ s.history → r' = r ∧ id' = id) :
    (s.left e x why).Wired := by
  set u := (s.onEngine e Engine.deactivate).noted (.deactivated e why)
  set t := s.left e x why
  obtain ⟨y, hy⟩ := hwired.router e r id hactivated
  obtain ⟨lock, hown⟩ := hwired.slot e r id hactivated
  have hleft : u.toAssembly.SameRouters t.toAssembly := Assembly.sameRouters_released
  have hsame : s.toAssembly.SameRouters t.toAssembly := ⟨hleft.last, hleft.back⟩
  have hslots : t.slots = s.slots := Assembly.slots_released
  have hcount : t.groups.length = s.groups.length := Assembly.groups_length_released
  have hmoments : t.moments = s.moments ++
      [⟨.deactivated e why, (s.onEngine e Engine.deactivate).toAssembly⟩] := moments_left why
  have hmember : ∀ {r' id'}, t.Member r' id' ↔ s.Member r' id' ∧ (s.isAlive r = true →
      ∀ z, s.routers[r']? = some z → z.defaults = y.defaults → id' ≠ id) :=
    member_left why hrouter hslot hy
  have hlists : ∀ {r' id' e'}, t.Lists r' id' e' ↔ s.Lists r' id' e' ∧
      (s.isAlive r = true → r' = r → id' ≠ id) :=
    lists_left why hrouter hslot hy
  have hmem : ∀ {e' r' id'}, Entry.activated e' r' id' ∈ t.history ↔
      Entry.activated e' r' id' ∈ s.history := by
    intro e' r' id'
    rw [history, hmoments, List.map_append, List.mem_append, history]
    simp
  have hother : ∀ {e' r' id'}, Entry.activated e' r' id' ∈ s.history → e ≠ e' → id' ≠ id := by
    rintro e' r' _ h hne rfl
    obtain ⟨lock', hslot'⟩ := hwired.slot e' r' _ h
    rw [hown] at hslot'
    simp [hne] at hslot'
  have hactive : ∀ {e' x'}, t.engines[e']? = some x' → x'.state = .active →
      e ≠ e' ∧ s.engines[e']? = some x' := by
    intro e' x' hx' hstate
    rw [engines_left] at hx'
    by_cases hne : e = e'
    · subst hne
      rw [engines_onEngine_self hengine, Option.some.injEq] at hx'
      rw [← hx'] at hstate
      simp [Engine.deactivate] at hstate
    · rw [engines_onEngine_of_ne hne] at hx'
      exact ⟨hne, hx'⟩
  refine hwired.carried hsame (Nat.le_of_eq hcount.symm) hmoments (fun m hm => ?_) ?_ ?_ ?_ ?_ ?_
  · rw [List.mem_singleton.mp hm]
    exact .inl rfl
  · intro e' r' id' h
    obtain ⟨lock', hslot'⟩ := hwired.slot e' r' id' (hmem.mp h)
    exact ⟨⟨lock', slot?_of_extends (hslots ▸ List.prefix_rfl) hslot'⟩,
      hwired.router e' r' id' (hmem.mp h)⟩
  · exact fun r' id' e' h => hmem.mpr (hwired.lists r' id' e' (hlists.mp h).1)
  · intro e' x' r' id' hx' hstate h
    obtain ⟨hne, hx⟩ := hactive hx' hstate
    rcases hwired.member e' x' r' id' hx hstate (hmem.mp h) with hold | hgone | hswept
    · exact .inl (hmember.mpr ⟨hold, fun _ _ _ _ => hother (hmem.mp h) hne⟩)
    · exact .inr (.inl (hgone.mono hmoments))
    · exact .inr (.inr (hswept.mono hmoments))
  · intro e' x' r' id' z hx' hstate h hz hup
    obtain ⟨hne, hx⟩ := hactive hx' hstate
    obtain ⟨w, hw, -, hkept⟩ := hsame.back r' z hz
    exact hlists.mpr ⟨hwired.listed e' x' r' id' w hx hstate (hmem.mp h) hw (hkept hup).1,
      fun _ _ => hother (hmem.mp h) hne⟩
  · rintro e' r' id' h ⟨m, hm, ⟨why', hwhy⟩, halive⟩
    rw [hmoments, List.mem_append, List.mem_singleton] at hm
    rcases hm with hm | rfl
    · obtain ⟨hnotMember, hnotListed⟩ :=
        hwired.gone e' r' id' (hmem.mp h) ⟨m, hm, ⟨why', hwhy⟩, halive⟩
      exact ⟨fun h => hnotMember (hmember.mp h).1, fun e'' h => hnotListed e'' (hlists.mp h).1⟩
    · obtain rfl : e = e' := (Entry.deactivated.inj hwhy).1
      obtain ⟨rfl, rfl⟩ := hunique r' id' (hmem.mp h)
      have halive' : s.isAlive r' = true := halive
      exact ⟨fun h => (hmember.mp h).2 halive' y hy rfl rfl, fun e' h => (hlists.mp h).2 halive' rfl rfl⟩

/-! ## All changes -/

/-- An engine that is not started by a change, with an entry that is no landmark, keeps the
rules. -/
lemma Wired.onEngine_noted (hwired : s.Wired) {f : Engine → Engine} (entry : Entry) {x : Engine}
    (hx : s.engines[e]? = some x) (hstate : (f x).state = .active → x.state = .active)
    (hmark : ∀ e, ¬ Engine.Landmark e entry) : ((s.onEngine e f).noted entry).Wired :=
  (hwired.neutral (neutral_onEngine hx hstate)).neutral (neutral_noted entry hmark)

/-- A step that is a turn of its own does not matter to the rules. -/
lemma Wired.event (hwired : s.Wired) {f : Engine → Engine} {entry : Entry} {x y : Engine}
    (hx : s.engines[e]? = some x) (heq : f x = y) (hevent : x.Event e s.history y entry)
    (halone : x.Alone e s.history entry) : ((s.onEngine e f).noted entry).Wired := by
  obtain ⟨hstate, hmark⟩ := event_neutral hevent halone
  exact hwired.onEngine_noted entry hx (heq ▸ hstate) hmark

/-- An active engine was attached, once, to the router and in the slot that it knows. -/
lemma Careers.place {x : Engine} (hcareers : s.Careers) (hengine : s.engines[e]? = some x)
    (hstate : x.state = .active) : ∃ r id, Entry.activated e r id ∈ s.history ∧
      x.router = some r ∧ x.slot = some id ∧
      ∀ r' id', Entry.activated e r' id' ∈ s.history → r' = r ∧ id' = id := by
  have hcareer := hcareers e x hengine
  obtain ⟨r, id, hmem⟩ := hcareer.started.mp (by simp [hstate])
  exact ⟨r, id, hmem, hcareer.router r id hmem, hcareer.slot r id hmem hstate,
    fun r' id' h => hcareer.unique r' id' r id h hmem⟩

/-- **Every change keeps the rules.** -/
theorem Change.wired (hcareers : s.Careers) (hwired : s.Wired)
    (hchange : Change s t) : t.Wired := by
  cases hchange with
  | quiet quiet => exact hwired.neutral quiet.neutral
  | noted entry about => exact hwired.neutral (neutral_noted_of_none about)
  | made sink threshold => exact hwired.neutral (neutral_made sink threshold)
  | founded filter => exact hwired.founded filter
  | shift f engine eq shift => exact hwired.neutral (neutral_shift engine eq shift)
  | event f engine eq event alone => exact hwired.event engine eq event alone
  | enlisted g slot => exact hwired.enlisted g slot
  | withdrawn g keep gone all => exact hwired.withdrawn all
  | shut router up => exact hwired.shut _
  | cleared members router ended => exact hwired.cleared hcareers members router ended
  | attached lock engine state starting init router =>
    exact hwired.attached hcareers lock engine state router
  | left engine state =>
    obtain ⟨r, id, hmem, hrouter, hslot, hunique⟩ := hcareers.place engine state
    exact hwired.left .asked engine hmem hrouter hslot hunique
  | @tripped u e x error engine state busy limit quiet =>
    obtain ⟨r, id, hmem, hrouter, hslot, hunique⟩ := hcareers.place engine state
    have hover := hwired.onEngine_noted (f := Engine.countFailure) (.batchOver e (some error)) engine
      (fun h => h) fun i h => h
    have hmid := hover.neutral quiet.neutral
    have hengine : u.engines[e]? = some x.countFailure := by
      rw [quiet.engines]
      exact engines_onEngine_self engine
    have hhistory : u.history = s.history ++ [.batchOver e (some error)] := by
      rw [history, moments, quiet.journal]
      exact history_noted _
    have hleft := hmid.left .failing hengine (by simp [hhistory, hmem]) hrouter hslot fun r' id' h =>
      hunique r' id' (by simpa [hhistory] using h)
    refine hleft.onEngine_noted _ (x := x.countFailure.deactivate) ?_ (fun h => h) fun i h => h
    rw [engines_left, engines_onEngine_self hengine]
  | @finished e x before trip after error through engine closed once moments tripped router
      unheard =>
    have h₁ := hwired.neutral (neutral_noted (.closed e) fun i h => h)
    have h₂ := h₁.onEngine_noted (f := Engine.takeAll) (.discarded e x.queue) engine (fun h => h)
      fun i h => h
    have h₃ := h₂.neutral (neutral_noted (.disabled e x.errors error) fun i h => h)
    cases through with
    | none => exact h₃
    | some r => exact h₃.neutral (neutral_noted _ fun i h => h)

end

/-! ## Sound states -/

/-- The rules that every change keeps. -/
structure Sound (s : System) : Prop where
  lives : s.Lives
  careers : s.Careers
  wired : s.Wired

/-- **Whatever changes, the rules are kept.** -/
theorem Evolves.sound {s t : System} (hsound : s.Sound) (h : s.Evolves t) : t.Sound := by
  induction h with
  | refl => exact hsound
  | tail _ hchange ih =>
    exact ⟨hchange.lives ih.lives, hchange.careers ih.lives ih.careers,
      hchange.wired ih.careers ih.wired⟩

end System

end NamespaceLogging
