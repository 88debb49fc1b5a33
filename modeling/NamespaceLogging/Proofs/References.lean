import NamespaceLogging.Proofs.Edits

/-!
# References

Names, routers and groups lead to slots, slots to handlers, and gates to groups.  Whatever is edited, each
of these references leads to something that is there, and no slot stands in two groups.

## Main definitions

* `Router.Sorted`: what a router says of itself is in order.
* `System.Linked`: every reference leads somewhere, and no slot stands in two groups.
* `System.Shrinks`: no slot gets a new place.

## Main results

* `System.Edited.linked`: edits keep the references in order.
-/

set_option autoImplicit false

namespace NamespaceLogging

namespace Router

/-- A router is in order, where there are so many groups and slots.  Its engines are listed by the age of
their slots. -/
structure Sorted (groups slots : Nat) (y : Router) : Prop where
  defaults : y.defaults < groups
  dark : y.shutDown = true → y.filter = none
  once : (y.registry.entries.map Prod.snd).Nodup
  coherent : ∃ spaces, y.registry.Coherent spaces
  ascending : (y.aspects.map Prod.fst).Pairwise (· < ·)
  aspects : ∀ id ∈ y.aspects.map Prod.fst, id ≤ slots

variable {y z : Router}

/-- A router whose references are in order stays so when there are more groups and slots. -/
lemma Sorted.mono {groups groups' slots slots' : Nat} (h : Sorted groups slots y)
    (hgroups : groups ≤ groups') (hslots : slots ≤ slots') : Sorted groups' slots' y :=
  { h with
    defaults := Nat.lt_of_lt_of_le h.defaults hgroups
    aspects := fun id hid => Nat.le_trans (h.aspects id hid) hslots }

/-- A router that goes on is in order still. -/
lemma Sorted.follows {groups slots : Nat} (h : Sorted groups slots y) (hyz : y.Follows z) :
    Sorted groups slots z where
  defaults := hyz.defaults ▸ h.defaults
  dark := hyz.dark h.dark
  once := h.once.sublist (hyz.entries.map _)
  coherent := hyz.coherent h.coherent
  ascending := h.ascending.sublist (hyz.aspects.map _)
  aspects id hid := h.aspects id ((hyz.aspects.map _).subset hid)

end Router

namespace System

variable {s t u : System} {secret : RecordId → Prop}

/-- Every reference leads somewhere.  No slot stands in two groups, and none that is registered stands in
a group.  Groups list their slots by age. -/
structure Linked (secret : RecordId → Prop) (s : System) : Prop where
  handlers : ∀ x ∈ s.slots, s.Knows x.handler
  gates : ∀ (n : HandlerId) filter g, s.handlers[n]? = some (.gate filter g) → g < s.groups.length
  routers : ∀ (r : RouterId) y, s.routers[r]? = some y → y.Sorted s.groups.length s.slots.length
  members : ∀ (g : GroupId) members, s.groups[g]? = some members → ∀ id ∈ members, s.HasSlot id
  ascending : ∀ (g : GroupId) members, s.groups[g]? = some members → members.Pairwise (· < ·)
  apart : ∀ (g g' : GroupId) members members', s.groups[g]? = some members →
    s.groups[g']? = some members' → ∀ id ∈ members, id ∈ members' → g = g'
  routes : ∀ (r : RouterId) y, s.routers[r]? = some y → ∀ id ∈ y.registry.entries.map Prod.snd,
    s.HasSlot id ∧ ∀ (g : GroupId) members, s.groups[g]? = some members → id ∉ members
  named : s.Fits secret s.names
  secrets : ∀ k, secret k → k < s.records.size

/-! ## References stay in order -/

/-- A handler that is known stays known. -/
lemma Retains.knows (h : s.Retains t) {ref : HandlerRef} (hknows : s.Knows ref) :
    t.Knows ref := by
  cases ref with
  | plain n =>
    obtain ⟨h', hh', -⟩ := h.handlers n _ (List.getElem?_eq_getElem hknows)
    exact (List.getElem?_eq_some_iff.mp hh').1
  | engine e => exact Nat.lt_of_lt_of_le hknows h.engines

/-- A slot that is there stays there. -/
lemma Retains.hasSlot (h : s.Retains t) {id : SlotId} (hslot : s.HasSlot id) :
    t.HasSlot id :=
  ⟨hslot.1, Nat.le_trans hslot.2 h.slots.length_le⟩

/-- A record that is there stays there. -/
lemma Retains.records (h : s.Retains t) {id : RecordId} (hid : id < s.records.size) :
    id < t.records.size := by
  obtain ⟨x', hx', -⟩ := h.levels id _ (Array.getElem?_eq_getElem hid)
  exact (Array.getElem?_eq_some_iff.mp hx').1

/-- Names that lead to things that are there go on doing so. -/
lemma Retains.fits (h : s.Retains t) {names : Names} (hfits : s.Fits secret names) :
    t.Fits secret names where
  handlers entry hmem := h.knows (hfits.handlers entry hmem)
  engines entry hmem := Nat.lt_of_lt_of_le (hfits.engines entry hmem) h.engines
  groups entry hmem := Nat.lt_of_lt_of_le (hfits.groups entry hmem) h.groups
  records entry hmem := ⟨h.records (hfits.records entry hmem).1, (hfits.records entry hmem).2⟩

/-- No slot gets a new place: groups lose members at most, and new groups have none; what is registered
now was registered before. -/
structure Shrinks (s t : System) : Prop where
  slots : t.slots = s.slots
  groups : ∀ (g : GroupId) members, t.groups[g]? = some members →
    members = [] ∨ ∃ before, s.groups[g]? = some before ∧ members.Sublist before
  routers : ∀ (r : RouterId) z, t.routers[r]? = some z →
    z.Sorted t.groups.length t.slots.length ∧
    ∀ id ∈ z.registry.entries.map Prod.snd, ∃ (r' : RouterId) (y : Router),
      s.routers[r']? = some y ∧ id ∈ y.registry.entries.map Prod.snd

/-- Where no slot gets a new place, references stay in order. -/
lemma Linked.shrink (hlinked : s.Linked secret) (hretains : s.Retains t) (h : s.Shrinks t)
    (hgates : ∀ (n : HandlerId) filter g, t.handlers[n]? = some (.gate filter g) →
      g < t.groups.length)
    (hnames : t.Fits secret t.names) : t.Linked secret where
  handlers x hx := hretains.knows (hlinked.handlers x (h.slots ▸ hx))
  gates := hgates
  routers r z hz := (h.routers r z hz).1
  members g members hmembers id hid := by
    rcases h.groups g members hmembers with rfl | ⟨before, hbefore, hsub⟩
    · simp at hid
    · exact hretains.hasSlot (hlinked.members g before hbefore id (hsub.subset hid))
  ascending g members hmembers := by
    rcases h.groups g members hmembers with rfl | ⟨before, hbefore, hsub⟩
    · exact List.Pairwise.nil
    · exact (hlinked.ascending g before hbefore).sublist hsub
  apart g g' members members' hmembers hmembers' id hid hid' := by
    rcases h.groups g members hmembers with rfl | ⟨before, hbefore, hsub⟩
    · simp at hid
    · rcases h.groups g' members' hmembers' with rfl | ⟨before', hbefore', hsub'⟩
      · simp at hid'
      · exact hlinked.apart g g' before before' hbefore hbefore' id (hsub.subset hid)
          (hsub'.subset hid')
  routes r z hz id hid := by
    obtain ⟨r', y, hy, hmem⟩ := (h.routers r z hz).2 id hid
    obtain ⟨hslot, hout⟩ := hlinked.routes r' y hy id hmem
    refine ⟨hretains.hasSlot hslot, fun g members hmembers hin => ?_⟩
    rcases h.groups g members hmembers with rfl | ⟨before, hbefore, hsub⟩
    · simp at hin
    · exact hout g before hbefore (hsub.subset hin)
  named := hnames
  secrets k hk := hretains.records (hlinked.secrets k hk)

/-- Nothing happens to slots, groups and routers. -/
lemma Linked.of_same (hlinked : s.Linked secret) (hretains : s.Retains t)
    (hslots : t.slots = s.slots) (hgroups : t.groups = s.groups) (hrouters : t.routers = s.routers)
    (hgates : ∀ (n : HandlerId) filter g, t.handlers[n]? = some (.gate filter g) →
      g < s.groups.length)
    (hnames : t.Fits secret t.names) : t.Linked secret := by
  refine hlinked.shrink hretains ⟨hslots, fun g members hmembers => ?_, fun r z hz => ?_⟩
    (by rwa [hgroups]) hnames
  · exact .inr ⟨members, hgroups ▸ hmembers, List.Sublist.refl _⟩
  · rw [hgroups, hslots]
    rw [hrouters] at hz
    exact ⟨hlinked.routers r z hz, fun id hid => ⟨r, z, hz, hid⟩⟩

/-- A router that stays in order, without a new registration. -/
lemma Linked.routed (hlinked : s.Linked secret) {r : RouterId} {f : Router → Router}
    (hretains : s.Retains (s.onRouter r f))
    (hf : ∀ y, s.routers[r]? = some y → (f y).Sorted s.groups.length s.slots.length ∧
      (f y).registry.entries.Sublist y.registry.entries) : (s.onRouter r f).Linked secret := by
  refine hlinked.shrink hretains ⟨rfl, fun g members hmembers =>
    .inr ⟨members, hmembers, List.Sublist.refl _⟩, fun i z hz => ?_⟩ hlinked.gates
    (hretains.fits hlinked.named)
  by_cases hi : r = i
  · subst hi
    obtain ⟨y, hy, rfl⟩ : ∃ y, s.routers[r]? = some y ∧ f y = z := by
      simpa [onRouter] using hz
    obtain ⟨hsorted, hentries⟩ := hf y hy
    exact ⟨hsorted, fun id hid => ⟨r, y, hy, (hentries.map _).subset hid⟩⟩
  · have hz' : s.routers[i]? = some z := by simpa [onRouter, hi] using hz
    exact ⟨hlinked.routers i z hz', fun id hid => ⟨i, z, hz', hid⟩⟩

/-- A new slot among the members of a group. -/
lemma Linked.enlisted (hlinked : s.Linked secret) (g : GroupId) {slot : Slot}
    (hknown : s.Knows slot.handler) : (s.enlisted g slot).Linked secret := by
  have hupholds : Upholds secret s (s.enlisted g slot) := (Edit.enlisted s g hknown).upholds
  set t := s.enlisted g slot
  have hgroup : ∀ (i : GroupId) members, t.groups[i]? = some members →
      ∃ before, s.groups[i]? = some before ∧
        members = if g = i then before ++ [s.slots.length + 1] else before :=
    fun i members h => group_of_onGroup (s := { s with slots := s.slots ++ [slot] }) h
  have hlength : t.slots.length = s.slots.length + 1 := List.length_append
  have hold : ∀ {i : GroupId} {before : List SlotId} {id : SlotId}, s.groups[i]? = some before →
      id ∈ before → id ≤ s.slots.length :=
    fun hbefore hid => (hlinked.members _ _ hbefore _ hid).2
  -- the new slot is younger than all members
  have hmem : ∀ {i : GroupId} {members : List SlotId} {id : SlotId}, t.groups[i]? = some members →
      id ∈ members → (g = i ∧ id = s.slots.length + 1) ∨
        ∃ before, s.groups[i]? = some before ∧ id ∈ before := by
    intro i members id hmembers hid
    obtain ⟨before, hbefore, rfl⟩ := hgroup i members hmembers
    by_cases hi : g = i
    · rw [if_pos hi, List.mem_append, List.mem_singleton] at hid
      exact hid.elim (fun h => .inr ⟨before, hbefore, h⟩) fun h => .inl ⟨hi, h⟩
    · rw [if_neg hi] at hid
      exact .inr ⟨before, hbefore, hid⟩
  refine {
    handlers := fun x hx => ?_
    gates := fun n filter i h => Nat.lt_of_lt_of_le (hlinked.gates n filter i h) hupholds.groups
    routers := fun r y hy => (hlinked.routers r y hy).mono hupholds.groups hupholds.slots.length_le
    members := fun i members hmembers id hid => ?_
    ascending := fun i members hmembers => ?_
    apart := fun i i' members members' hmembers hmembers' id hid hid' => ?_
    routes := fun r y hy id hid => ?_
    named := hupholds.fits hlinked.named
    secrets := hlinked.secrets }
  · rcases List.mem_append.mp hx with hx | hx
    · exact hlinked.handlers x hx
    · rw [List.mem_singleton.mp hx]
      exact hknown
  · rcases hmem hmembers hid with ⟨-, rfl⟩ | ⟨before, hbefore, hid⟩
    · exact ⟨Nat.succ_pos _, Nat.le_of_eq hlength.symm⟩
    · exact hupholds.hasSlot (hlinked.members i before hbefore id hid)
  · obtain ⟨before, hbefore, rfl⟩ := hgroup i members hmembers
    split
    · refine List.pairwise_append.mpr ⟨hlinked.ascending i before hbefore, by simp, ?_⟩
      intro id hid new hnew
      rw [List.mem_singleton.mp hnew]
      exact Nat.lt_succ_of_le (hold hbefore hid)
    · exact hlinked.ascending i before hbefore
  · rcases hmem hmembers hid with ⟨hi, rfl⟩ | ⟨before, hbefore, hid⟩ <;>
      rcases hmem hmembers' hid' with ⟨hi', heq⟩ | ⟨before', hbefore', hid'⟩
    · exact hi.symm.trans hi'
    · exact absurd (hold hbefore' hid') (Nat.not_succ_le_self _)
    · rw [heq] at hid
      exact absurd (hold hbefore hid) (Nat.not_succ_le_self _)
    · exact hlinked.apart i i' before before' hbefore hbefore' id hid hid'
  · obtain ⟨hslot, hout⟩ := hlinked.routes r y hy id hid
    refine ⟨hupholds.hasSlot hslot, fun i members hmembers hin => ?_⟩
    rcases hmem hmembers hin with ⟨-, rfl⟩ | ⟨before, hbefore, hin⟩
    · exact absurd hslot.2 (Nat.not_succ_le_self _)
    · exact hout i before hbefore hin

/-- What is registered together with the new slot `id`. -/
lemma mem_insert {key : List Char} {id i : SlotId} {entries : List (List Char × SlotId)}
    (hi : i ∈ (Registry.insert key id entries).map Prod.snd) :
    i ∈ entries.map Prod.snd ∨ i = id := by
  rw [Registry.insert, List.map_append, List.mem_append] at hi
  refine hi.imp (fun hi => ?_) List.mem_singleton.mp
  exact (List.filter_sublist.map _).subset hi

/-- A new slot that is registered. -/
lemma Linked.enrolled (hlinked : s.Linked secret) (r : RouterId) (key : List Char) {slot : Slot}
    (hknown : s.Knows slot.handler) : (s.enrolled r key slot).Linked secret := by
  have hupholds : Upholds secret s (s.enrolled r key slot) := (Edit.enrolled s r key hknown).upholds
  set t := s.enrolled r key slot
  have hlength : t.slots.length = s.slots.length + 1 := List.length_append
  -- a router is as it was, or has the new slot behind its old ones
  have hrouter : ∀ (i : RouterId) z, t.routers[i]? = some z → ∃ y, s.routers[i]? = some y ∧
      (z = y ∨ z = { y with
        registry := ⟨Registry.insert key (s.slots.length + 1) y.registry.entries, []⟩ }) := by
    intro i z hz
    have hback : ∃ y, s.routers[i]? = some y := by
      refine ⟨_, List.getElem?_eq_getElem ?_⟩
      have hlt := (List.getElem?_eq_some_iff.mp hz).1
      simpa [t, System.enrolled, onRouter] using hlt
    obtain ⟨y, hy⟩ := hback
    refine ⟨y, hy, ?_⟩
    have heq := router_of_onRouter (s := { s with slots := s.slots ++ [slot] }) hy hz
    by_cases hi : r = i
    · exact .inr (by rw [heq, if_pos hi])
    · exact .inl (by rw [heq, if_neg hi])
  refine {
    handlers := fun x hx => ?_
    gates := hlinked.gates
    routers := fun i z hz => ?_
    members := fun g members hmembers id hid =>
      hupholds.hasSlot (hlinked.members g members hmembers id hid)
    ascending := hlinked.ascending
    apart := hlinked.apart
    routes := fun i z hz id hid => ?_
    named := hupholds.fits hlinked.named
    secrets := hlinked.secrets }
  · rcases List.mem_append.mp hx with hx | hx
    · exact hlinked.handlers x hx
    · rw [List.mem_singleton.mp hx]
      exact hknown
  · obtain ⟨y, hy, hyz⟩ := hrouter i z hz
    have hsorted := (hlinked.routers i y hy).mono (Nat.le_refl _) hupholds.slots.length_le
    rcases hyz with rfl | rfl
    · exact hsorted
    · refine { hsorted with once := ?_, coherent := ⟨[], Registry.coherent_of_nil rfl⟩ }
      rw [Registry.insert, List.map_append]
      refine List.nodup_append.mpr ⟨hsorted.once.sublist (List.filter_sublist.map _), by simp,
        fun id hid new hnew heq => ?_⟩
      have hmem : id ∈ y.registry.entries.map Prod.snd := (List.filter_sublist.map _).subset hid
      have hle := (hlinked.routes i y hy id hmem).1.2
      rw [heq, List.mem_singleton.mp hnew] at hle
      exact Nat.not_succ_le_self _ hle
  · obtain ⟨y, hy, hyz⟩ := hrouter i z hz
    have hid' : id ∈ y.registry.entries.map Prod.snd ∨ id = s.slots.length + 1 := by
      rcases hyz with rfl | rfl
      · exact .inl hid
      · exact mem_insert hid
    rcases hid' with hid | rfl
    · obtain ⟨hslot, hout⟩ := hlinked.routes i y hy id hid
      exact ⟨hupholds.hasSlot hslot, hout⟩
    · refine ⟨⟨Nat.succ_pos _, Nat.le_of_eq hlength.symm⟩, fun g members hmembers hin => ?_⟩
      exact Nat.not_succ_le_self _ (hlinked.members g members hmembers _ hin).2

/-- An engine that is attached gets a new slot, among the default handlers of its router. -/
lemma Linked.attached (hlinked : s.Linked secret) {r : RouterId} {y : Router} {e : EngineId}
    (lock : LockId) (hknown : s.Knows (.engine e)) : (s.attached e r y lock).Linked secret := by
  have hslot : (s.enlisted y.defaults ⟨.engine e, lock⟩).Linked secret :=
    hlinked.enlisted y.defaults hknown
  set t := s.enlisted y.defaults ⟨.engine e, lock⟩
  set f := fun y : Router => { y with aspects := y.aspects ++ [(s.slots.length + 1, e)] }
  have hlisted : (t.onRouter r f).Linked secret := by
    refine hslot.routed ⟨List.prefix_rfl, Nat.le_refl _, Nat.le_refl _, fun _ h hh => ⟨h, hh, rfl⟩,
      fun _ x hx => ⟨x, hx, rfl⟩⟩ fun z hz => ⟨?_, .refl _⟩
    -- the new slot is younger than those of the other engines
    have hold := (hlinked.routers r z hz).aspects
    have hsorted := hslot.routers r z hz
    have hlength : t.slots.length = s.slots.length + 1 := List.length_append
    refine { hsorted with ascending := ?_, aspects := fun id hid => ?_ }
    · rw [List.map_append]
      refine List.pairwise_append.mpr ⟨hsorted.ascending, by simp, fun id hid new hnew => ?_⟩
      rw [List.mem_singleton.mp hnew]
      exact Nat.lt_succ_of_le (hold id hid)
    · rw [List.map_append, List.mem_append] at hid
      rcases hid with hid | hid
      · exact hsorted.aspects id hid
      · exact Nat.le_of_eq ((List.mem_singleton.mp hid).trans hlength.symm)
  have hretains : (t.onRouter r f).Retains (s.attached e r y lock) :=
    ⟨List.prefix_rfl, Nat.le_refl _, Nat.le_of_eq (List.length_modify ..).symm,
      fun _ h hh => ⟨h, hh, rfl⟩, fun _ x hx => ⟨x, hx, rfl⟩⟩
  exact hlisted.of_same hretains rfl rfl rfl hlisted.gates (hretains.fits hlisted.named)

/-- A group in a list with a new one behind it has no members, or was there before. -/
lemma group_of_grouped {groups : List (List SlotId)} {g : GroupId} {members : List SlotId}
    (h : (groups ++ [[]])[g]? = some members) : members = [] ∨ groups[g]? = some members := by
  rcases Nat.lt_or_ge g groups.length with hlt | hge
  · exact .inr ((List.getElem?_append_left hlt).symm.trans h)
  · rw [List.getElem?_append_right hge] at h
    exact .inl (List.mem_singleton.mp (List.mem_of_getElem? h))

/-- **An edit keeps the references in order.** -/
lemma Edit.linked (hlinked : s.Linked secret) (h : Edit secret s t) : t.Linked secret := by
  have hretains := h.upholds.toRetains
  cases h with
  | beside h =>
    refine hlinked.of_same hretains h.slots h.groups h.routers (by rw [h.handlers]; exact hlinked.gates)
      (h.names ▸ hretains.fits hlinked.named)
  | noted entry hopen =>
    exact hlinked.of_same hretains rfl rfl rfl hlinked.gates (hretains.fits hlinked.named)
  | recorded r => exact hlinked.of_same hretains rfl rfl rfl hlinked.gates (hretains.fits hlinked.named)
  | housed h gate =>
    refine hlinked.of_same hretains rfl rfl rfl (fun n filter g hn => ?_) (hretains.fits hlinked.named)
    rcases Nat.lt_or_ge n s.handlers.length with hlt | hge
    · rw [List.getElem?_append_left hlt] at hn
      exact hlinked.gates n filter g hn
    · rw [List.getElem?_append_right hge] at hn
      exact gate filter g (List.mem_singleton.mp (List.mem_of_getElem? hn)).symm
  | @worked n h h' handler nature =>
    refine hlinked.of_same hretains rfl rfl rfl (fun i filter g hi => ?_) (hretains.fits hlinked.named)
    by_cases hne : n = i
    · subst hne
      have hgate : h' = .gate filter g := by simpa [handler] using hi
      rw [hgate] at nature
      exact hlinked.gates n filter g (handler.trans (by cases h <;> simp_all [Handler.nature]))
    · exact hlinked.gates i filter g (by simpa [hne] using hi)
  | grouped =>
    refine hlinked.shrink hretains ⟨rfl, fun g members hmembers => ?_, fun r z hz => ?_⟩
      (fun n filter g h => Nat.lt_of_lt_of_le (hlinked.gates n filter g h) hretains.groups)
      (hretains.fits hlinked.named)
    · exact (group_of_grouped hmembers).imp_right fun h => ⟨members, h, List.Sublist.refl _⟩
    · exact ⟨(hlinked.routers r z hz).mono hretains.groups (Nat.le_refl _),
        fun id hid => ⟨r, z, hz, hid⟩⟩
  | founded filter =>
    refine hlinked.shrink hretains ⟨rfl, fun g members hmembers => ?_, fun r z hz => ?_⟩
      (fun n filter g h => Nat.lt_of_lt_of_le (hlinked.gates n filter g h) hretains.groups)
      (hretains.fits hlinked.named)
    · exact (group_of_grouped hmembers).imp_right fun h => ⟨members, h, List.Sublist.refl _⟩
    · rcases Nat.lt_or_ge r s.routers.length with hlt | hge
      · have hz' := (List.getElem?_append_left hlt).symm.trans hz
        exact ⟨(hlinked.routers r z hz').mono hretains.groups (Nat.le_refl _),
          fun id hid => ⟨r, z, hz', hid⟩⟩
      · have hz' := (List.getElem?_append_right hge).symm.trans hz
        obtain rfl := List.mem_singleton.mp (List.mem_of_getElem? hz')
        refine ⟨⟨?_, ?_, ?_, ⟨[], Registry.coherent_of_nil rfl⟩, ?_, ?_⟩, ?_⟩ <;>
          simp [Router.fresh, System.founded, Registry.empty]
  | enlisted g known => exact hlinked.enlisted g known
  | enrolled r key known => exact hlinked.enrolled r key known
  | expelled g keep =>
    refine hlinked.shrink hretains ⟨rfl, fun i members hmembers => ?_, fun r z hz => ?_⟩
      (fun n filter i h => Nat.lt_of_lt_of_le (hlinked.gates n filter i h) hretains.groups)
      (hretains.fits hlinked.named)
    · obtain ⟨before, hbefore, rfl⟩ := group_of_onGroup hmembers
      refine .inr ⟨before, hbefore, ?_⟩
      split
      · exact List.filter_sublist
      · exact List.Sublist.refl _
    · exact ⟨(hlinked.routers r z hz).mono hretains.groups (Nat.le_refl _),
        fun id hid => ⟨r, z, hz, hid⟩⟩
  | routed f router follows =>
    refine hlinked.routed hretains fun y hy => ?_
    obtain rfl := Option.some.inj (router.symm.trans hy)
    exact ⟨(hlinked.routers _ _ router).follows follows, follows.entries⟩
  | attached lock known router => exact hlinked.attached lock known
  | named fits => exact hlinked.of_same hretains rfl rfl rfl hlinked.gates (hretains.fits fits)
  | locked lock => exact hlinked.of_same hretains rfl rfl rfl hlinked.gates (hretains.fits hlinked.named)
  | unlocked lock =>
    exact hlinked.of_same hretains rfl rfl rfl hlinked.gates (hretains.fits hlinked.named)

/-- **Edits keep the references in order.** -/
theorem Edited.linked (hlinked : s.Linked secret) (h : s.Edited secret t) : t.Linked secret := by
  induction h with
  | refl => exact hlinked
  | tail _ hedit ih => exact hedit.linked ih

end System

end NamespaceLogging
