import NamespaceLogging.Proofs.Balance

/-!
# The list of a router that was shut down

When a router is shut down, its list of attached engines is emptied at once.  So an engine that the
router lists afterwards was attached afterwards; and an engine that was attached before is not listed
any more, even if it is active still because its turn to stop never came.

## Main definitions

* `System.Enrolled`: whom the routers list that were shut down.

## Main results

* `System.Evolves.enrolled`: whatever changes, this holds.
-/

set_option autoImplicit false

namespace NamespaceLogging

open History

namespace System

variable {s t : System} {e : EngineId} {r : RouterId} {id : SlotId} {x : Engine}

/-- The routers that were shut down list the active engines that were attached to them afterwards, and
nobody else. -/
structure Enrolled (s : System) : Prop where
  late : ∀ r id e y, s.Lists r id e → s.routers[r]? = some y → y.shutDown = true → s.Late e r
  listed : ∀ e x r id, s.engines[e]? = some x → x.state = .active →
    Entry.activated e r id ∈ s.history → s.Late e r → s.Lists r id e

/-- A change that is about no list of engines. -/
structure SameLists (s t : System) : Prop where
  lists : ∀ r id e, t.Lists r id e ↔ s.Lists r id e
  shutDown : ∀ (r : RouterId) z, t.routers[r]? = some z → z.shutDown = true →
    ∃ y, s.routers[r]? = some y ∧ y.shutDown = true
  engines : ∀ (e : EngineId) y, t.engines[e]? = some y → y.state = .active →
    ∃ x, s.engines[e]? = some x ∧ x.state = .active
  moments : ∃ new, t.moments = s.moments ++ new ∧ ∀ m ∈ new, ∀ e, ¬ Engine.Landmark e m.entry

/-! ## Late engines -/

/-- An engine that was attached too late was so for ever. -/
lemma Late.mono {new : List Moment} (hmoments : t.moments = s.moments ++ new) (h : s.Late e r) :
    t.Late e r := by
  obtain ⟨m, hm, hlate⟩ := h
  exact ⟨m, hmoments ▸ List.mem_append_left _ hm, hlate⟩

/-- An engine that is late was so before, unless it has just been attached. -/
lemma Late.of_append {new : List Moment} (hmoments : t.moments = s.moments ++ new)
    (hnew : ∀ m ∈ new, ∀ id, m.entry ≠ .activated e r id) (h : t.Late e r) : s.Late e r := by
  obtain ⟨m, hm, id, y, hentry, hy⟩ := h
  rw [hmoments, List.mem_append] at hm
  exact ⟨m, hm.resolve_right fun hm => hnew m hm id hentry, id, y, hentry, hy⟩

/-! ## What does not matter -/

/-- A change that is about no list keeps it true that routers which were shut down list just the
late engines. -/
lemma SameLists.enrolled (hsame : SameLists s t) (h : s.Enrolled) : t.Enrolled := by
  obtain ⟨new, hmoments, hnew⟩ := hsame.moments
  have hmark : ∀ m ∈ new, ∀ e r id, m.entry ≠ .activated e r id := by
    intro m hm e r id hentry
    refine hnew m hm e ?_
    rw [hentry]
    rfl
  refine ⟨fun r id e z hlists hz hdown => ?_, fun e y r id hy hactive hmem hlate => ?_⟩
  · obtain ⟨y, hy, hdown'⟩ := hsame.shutDown r z hz hdown
    exact (h.late r id e y ((hsame.lists r id e).mp hlists) hy hdown').mono hmoments
  · obtain ⟨x, hx, hactive'⟩ := hsame.engines e y hy hactive
    have hold : Entry.activated e r id ∈ s.history := by
      rw [history, hmoments, List.map_append, List.mem_append] at hmem
      refine hmem.resolve_right fun hmem => ?_
      obtain ⟨m, hm, heq⟩ := List.mem_map.mp hmem
      exact hmark m hm e r id heq
    have hlate' := hlate.of_append hmoments fun m hm id => hmark m hm e r id
    exact (hsame.lists r id e).mpr (h.listed e x r id hx hactive' hold hlate')

/-- A change that does not matter to the rules is about no list of engines. -/
lemma Neutral.sameLists (h : Neutral s t) : SameLists s t where
  lists _ _ _ := h.lists
  shutDown r z hz hdown := by
    obtain ⟨y, hy, hkeeps⟩ := h.router_back hz
    exact ⟨y, hy, hkeeps.shutDown ▸ hdown⟩
  engines := h.engines
  moments := by
    obtain ⟨new, hmoments, hnew⟩ := h.moments
    exact ⟨new, hmoments, fun m hm => (hnew m hm).1⟩

/-- A change that does not matter to the rules keeps the lists of routers that were shut down. -/
lemma Enrolled.neutral (h : s.Enrolled) (hneutral : Neutral s t) : t.Enrolled :=
  hneutral.sameLists.enrolled h

/-- A change of a group, or of what stands beside the routers. -/
lemma sameLists_of_routers (new : List Moment) (hrouters : t.routers = s.routers)
    (hengines : t.engines = s.engines) (hmoments : t.moments = s.moments ++ new)
    (hnew : ∀ m ∈ new, ∀ e, ¬ Engine.Landmark e m.entry) : SameLists s t where
  lists r id e := by simp [Assembly.Lists, hrouters]
  shutDown r z hz hdown := ⟨z, hrouters ▸ hz, hdown⟩
  engines e y hy hactive := ⟨y, hengines ▸ hy, hactive⟩
  moments := ⟨new, hmoments, hnew⟩

/-- A new slot in a group is about no list of engines. -/
lemma sameLists_enlisted (g : GroupId) (slot : Slot) : SameLists s (s.enlisted g slot) :=
  sameLists_of_routers [] rfl rfl (by simp [moments, System.enlisted]) (by simp)

/-- A group that changes with an entry which is no landmark is about no list of engines. -/
lemma sameLists_onGroup_noted (g : GroupId) (f : List SlotId → List SlotId) (entry : Entry)
    (hmark : ∀ e, ¬ Engine.Landmark e entry) : SameLists s ((s.onGroup g f).noted entry) :=
  sameLists_of_routers [⟨entry, (s.onGroup g f).toAssembly⟩] rfl rfl (moments_noted entry)
    (by simpa using hmark)

/-- A new router lists no engine. -/
lemma sameLists_founded (filter : LevelSet) : SameLists s (s.founded filter) := by
  have hrouters : ∀ (r : RouterId) z, (s.founded filter).routers[r]? = some z →
      s.routers[r]? = some z ∨ z = .fresh filter s.groups.length := by
    intro r z hz
    change (s.routers ++ [Router.fresh filter s.groups.length])[r]? = some z at hz
    rw [List.getElem?_append] at hz
    split at hz
    · exact .inl hz
    · exact .inr (List.mem_singleton.mp (List.mem_of_getElem? hz))
  refine ⟨fun r id e => ⟨?_, ?_⟩, fun r z hz hdown => ?_, fun e y hy hactive => ⟨y, hy, hactive⟩,
    [], by simp [moments, System.founded], by simp⟩
  · rintro ⟨z, hz, hmem⟩
    rcases hrouters r z hz with hz | rfl
    · exact ⟨z, hz, hmem⟩
    · simp [Router.fresh] at hmem
  · rintro ⟨y, hy, hmem⟩
    refine ⟨y, ?_, hmem⟩
    exact (getElem?_of_extends (List.prefix_append _ _) (List.getElem?_eq_some_iff.mp hy).1).trans hy
  · rcases hrouters r z hz with hz | rfl
    · exact ⟨z, hz, hdown⟩
    · simp [Router.fresh] at hdown

/-! ## What matters -/

/-- A router that is shut down lists nobody; nobody was late for it before. -/
lemma Enrolled.shut {y : Router} (h : s.Enrolled) (hwired : s.Wired) (hy : s.routers[r]? = some y)
    (hup : y.shutDown = false) : (s.onRouter r Router.shut).Enrolled := by
  have hrouters : (s.onRouter r Router.shut).routers = s.routers.modify r Router.shut := rfl
  have hlists : ∀ {r' id e}, (s.onRouter r Router.shut).Lists r' id e ↔
      s.Lists r' id e ∧ r ≠ r' := by
    intro r' id e
    rw [Assembly.lists_iff_of_modify (a := s.toAssembly) hrouters]
    by_cases hr : r = r' <;> simp [hr, Router.shut, Assembly.Lists]
  refine ⟨fun r' id e z hl hz hdown => ?_, fun e x r' id hx hactive hmem hlate => ?_⟩
  · obtain ⟨hold, hne⟩ := hlists.mp hl
    simp only [hrouters, List.getElem?_modify, hne, if_false, Option.map_eq_map, Option.map_id'] at hz
    exact h.late r' id e z hold hz hdown
  · refine hlists.mpr ⟨h.listed e x r' id hx hactive hmem hlate, ?_⟩
    rintro rfl
    obtain ⟨m, hm, -, w, -, hw, hdown⟩ := hlate
    obtain ⟨y', hy', -, hdown'⟩ := (hwired.past m hm).1 r w hw
    obtain rfl : y = y' := Option.some.inj (hy.symm.trans hy')
    have hboth := hdown' hdown
    simp [hup] at hboth

/-- An engine that is attached is listed. -/
lemma Enrolled.attached {y : Router} (h : s.Enrolled) (hlives : s.Lives) (lock : LockId)
    (hx : s.engines[e]? = some x) (hstate : x.state = .uninitialized)
    (hy : s.routers[r]? = some y) : (s.attached e r y lock).Enrolled := by
  set t := s.attached e r y lock
  have hnone := (hlives.life hx).marked.not_started hstate
  have hmoments : t.moments =
      s.moments ++ [⟨.activated e r (s.slots.length + 1), t.toAssembly⟩] := moments_noted _
  have hlists : ∀ {r' id' e'}, t.Lists r' id' e' ↔
      s.Lists r' id' e' ∨ r' = r ∧ id' = s.slots.length + 1 ∧ e' = e := lists_attached lock hy
  have hmem : ∀ {e' r' id'}, Entry.activated e' r' id' ∈ t.history ↔
      Entry.activated e' r' id' ∈ s.history ∨ e' = e ∧ r' = r ∧ id' = s.slots.length + 1 := by
    intro e' r' id'
    rw [history, hmoments, List.map_append, List.mem_append]
    simp [history]
  refine ⟨fun r' id' e' z hl hz hdown => ?_, fun e' x' r' id' hx' hactive hin hlate => ?_⟩
  · rcases hlists.mp hl with hold | ⟨rfl, rfl, rfl⟩
    · have hback : ∃ w, s.routers[r']? = some w ∧ w.shutDown = true := by
        change (s.routers.modify r _)[r']? = some z at hz
        rw [List.getElem?_modify, Option.map_eq_map, Option.map_eq_some_iff] at hz
        obtain ⟨w, hw, rfl⟩ := hz
        refine ⟨w, hw, ?_⟩
        split at hdown <;> exact hdown
      obtain ⟨w, hw, hdown'⟩ := hback
      exact (h.late r' id' e' w hold hw hdown').mono hmoments
    · exact ⟨_, hmoments ▸ List.mem_append_right _ (List.mem_singleton_self _), _, z, rfl, hz, hdown⟩
  · rcases hmem.mp hin with hold | hnew
    · have hne : e ≠ e' := by
        rintro rfl
        exact hnone r' id' hold
      have hx : s.engines[e']? = some x' := by
        rw [← hx']
        exact (engines_onEngine_of_ne hne).symm
      refine hlists.mpr (.inl (h.listed e' x' r' id' hx hactive hold (hlate.of_append hmoments ?_)))
      simp [hne]
    · obtain ⟨rfl, rfl, rfl⟩ := hnew
      exact hlists.mpr (.inr ⟨rfl, rfl, rfl⟩)

/-- An engine that takes its last record is the only one that leaves a list. -/
lemma Enrolled.left (h : s.Enrolled) (hwired : s.Wired) (why : Ending)
    (hx : s.engines[e]? = some x) (hactivated : Entry.activated e r id ∈ s.history)
    (hrouter : x.router = some r) (hslot : x.slot = some id) : (s.left e x why).Enrolled := by
  obtain ⟨y, hy⟩ := hwired.router e r id hactivated
  obtain ⟨lock, hown⟩ := hwired.slot e r id hactivated
  have hmoments := moments_left (s := s) (e := e) (x := x) why
  have hlists : ∀ {r' id' e'}, (s.left e x why).Lists r' id' e' ↔ s.Lists r' id' e' ∧
      (s.isAlive r = true → r' = r → id' ≠ id) := lists_left why hrouter hslot hy
  refine ⟨fun r' id' e' z hl hz hdown => ?_, fun e' x' r' id' hx' hactive hin hlate => ?_⟩
  · obtain ⟨w, hw, -, hsame, -⟩ := Assembly.router_released
      (a := (s.onEngine e Engine.deactivate).toAssembly) hz
    exact (h.late r' id' e' w (hlists.mp hl).1 hw (hsame ▸ hdown)).mono hmoments
  · have hne : e ≠ e' := by
      rintro rfl
      rw [engines_left, engines_onEngine_self hx, Option.some.injEq] at hx'
      rw [← hx'] at hactive
      simp [Engine.deactivate] at hactive
    rw [engines_left, engines_onEngine_of_ne hne] at hx'
    have hold : Entry.activated e' r' id' ∈ s.history := by
      rw [history, hmoments, List.map_append, List.mem_append] at hin
      simpa [history] using hin
    refine hlists.mpr ⟨h.listed e' x' r' id' hx' hactive hold (hlate.of_append hmoments ?_), ?_⟩
    · simp
    · rintro - - rfl
      obtain ⟨lock', hslot'⟩ := hwired.slot e' r' _ hold
      rw [hown] at hslot'
      simp [hne] at hslot'

/-! ## All changes -/

/-- An engine that is not started by a change, with an entry that is no landmark, stays in the lists
in which it was. -/
lemma Enrolled.onEngine_noted (h : s.Enrolled) {f : Engine → Engine} (entry : Entry)
    (hx : s.engines[e]? = some x) (hstate : (f x).state = .active → x.state = .active)
    (hmark : ∀ e, ¬ Engine.Landmark e entry) : ((s.onEngine e f).noted entry).Enrolled :=
  (h.neutral (neutral_onEngine hx hstate)).neutral (neutral_noted entry hmark)

/-- **Every change** keeps it true that routers which were shut down list just the active engines
that were attached later. -/
lemma Change.enrolled (hsound : s.Sound) (h : s.Enrolled) (hchange : Change s t) : t.Enrolled := by
  cases hchange with
  | quiet quiet => exact h.neutral quiet.neutral
  | noted entry about => exact h.neutral (neutral_noted_of_none about)
  | made sink threshold => exact h.neutral (neutral_made sink threshold)
  | founded filter => exact (sameLists_founded filter).enrolled h
  | shift f engine eq shift => exact h.neutral (neutral_shift engine eq shift)
  | event f engine eq event alone =>
    obtain ⟨hstate, hmark⟩ := event_neutral event alone
    exact h.onEngine_noted _ engine (eq ▸ hstate) hmark
  | enlisted g slot => exact (sameLists_enlisted g slot).enrolled h
  | withdrawn g keep gone all => exact (sameLists_onGroup_noted g _ (.withdrawn gone) fun i h => h).enrolled h
  | cleared members router ended =>
    exact (sameLists_onGroup_noted _ _ (.cleared _ members) fun i h => h).enrolled h
  | shut router up => exact h.shut hsound.wired router up
  | attached lock engine state starting init router =>
    exact h.attached hsound.lives lock engine state router
  | left engine state =>
    obtain ⟨r, id, hmem, hrouter, hslot, -⟩ := hsound.careers.place engine state
    exact h.left hsound.wired .asked engine hmem hrouter hslot
  | @tripped u e x error engine state busy limit quiet =>
    obtain ⟨r, id, hmem, hrouter, hslot, -⟩ := hsound.careers.place engine state
    have hcounted := h.onEngine_noted (f := Engine.countFailure) (.batchOver e (some error)) engine
      (fun h => h) fun i h => h
    have hengine := engine_quiet engine quiet
    have hmem' : Entry.activated e r id ∈ u.history := by
      have hhistory : u.history = s.history ++ [.batchOver e (some error)] := by
        rw [history, moments, quiet.journal]
        exact history_noted _
      simp [hhistory, hmem]
    have hleft := (hcounted.neutral quiet.neutral).left (wired_quiet hsound engine quiet) .failing
      hengine hmem' hrouter hslot
    refine hleft.onEngine_noted _ (x := x.countFailure.deactivate) ?_ (fun h => h) fun i h => h
    rw [engines_left, engines_onEngine_self hengine]
  | @finished e x before trip after error through engine closed once moments tripped router
      unheard =>
    have h₁ := h.neutral (neutral_noted (.closed e) fun i h => h)
    have h₂ := h₁.onEngine_noted (f := Engine.takeAll) (.discarded e x.queue) engine (fun h => h)
      fun i h => h
    have h₃ := h₂.neutral (neutral_noted (.disabled e x.errors error) fun i h => h)
    cases through with
    | none => exact h₃
    | some r => exact h₃.neutral (neutral_noted _ fun i h => h)

/-- **Whatever changes, the lists of routers that were shut down are kept.** -/
theorem Evolves.enrolled (hsound : s.Sound) (henrolled : s.Enrolled) (h : s.Evolves t) :
    t.Enrolled := by
  induction h with
  | refl => exact henrolled
  | tail hevolves hchange ih => exact hchange.enrolled (Evolves.sound hsound hevolves) ih

end System

end NamespaceLogging
