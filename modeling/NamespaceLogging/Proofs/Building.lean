import NamespaceLogging.Proofs.StreamEngines

/-!
# Routers that are built from settings

A router that is built from settings has a gate for each override that asks for more than the filter
does, and one default handler: an engine around a stream sink if there is a target that opens, and else
a handler that writes to the standard error stream.

## Main definitions

* `Settings.Opens`: the target of the settings, if there is one, can be opened.
* `System.Attended`: the default handler of settings.
* `System.Standing`: a router as it was built from settings, and as it stays while log calls are made.

## Main results

* `System.on_routerOf`: a router is arranged before it gets its default handler.
* `System.on_addTarget_of_some`, `System.on_addTarget_of_none`: the two default handlers.
* `System.standing_routerOf`: building a router succeeds if its target opens.
-/

set_option autoImplicit false

namespace NamespaceLogging

open Act Namespace

/-- The target of the settings can be opened, if there is one. -/
def Settings.Opens (st : Settings) (m : Media) : Prop :=
  ∀ target, st.target = some target →
    ((StreamSink.make target st.layout st.aspectFilter).start m).1 = .ok ()

namespace System

variable {s t : System} {r : RouterId} {y : Router} {st : Settings} {d : SlotId} {calls : Reentry}

/-! ## Arranging a router -/

/-- Without overrides there are no registrations. -/
lemma guards_nil (hentries : y.registry.entries = []) : s.Guards [] y := by
  constructor <;> simp [hentries]

/-- **A router is arranged** before it gets its default handler. -/
lemma on_routerOf (calls : Reentry) (hnames : ∀ o ∈ st.overrides, WellFormed o.namespaceName.toList) :
    ∃ t y, t.Arranged s.routers.length st y ∧ y.shutDown = false ∧ y.aspects = [] ∧
      t.groups[y.defaults]? = some [] ∧ t.held = s.held ∧ t.media = s.media ∧
      t.LocksFrom s.lockCount y ∧ ∀ u, (addTarget calls s.routers.length st).on t = (.ok (.ok ()), u) →
        (routerOf calls st).on s =
          (.ok (.ok s.routers.length), { u with inUse := u.inUse.erase s.routers.length }) := by
  set r := s.routers.length
  set y : Router := { Router.fresh st.filter s.groups.length with capture := st.captureStack }
  set s₁ := (s.founded st.filter).onRouter r fun x => { x with capture := st.captureStack }
  set s₂ : System := { s₁ with inUse := r :: s₁.inUse }
  have hfresh : (s.founded st.filter).routers[r]? = some (.fresh st.filter s.groups.length) := by
    simp [founded, r]
  have hy : s₂.routers[r]? = some y := router_onRouter hfresh _
  obtain ⟨t, z, hon, hfurnished⟩ := on_registerGates (s := s₂) hnames hy rfl (guards_nil rfl)
  obtain ⟨handlers, slots, lockCount, ht⟩ := hfurnished.state
  obtain ⟨locks, registry, hz⟩ := hfurnished.router
  refine ⟨t, z, ⟨hfurnished.router_at hy, by rw [hz]; rfl, by rw [hz],
    ⟨_, Registry.coherent_of_nil hfurnished.found⟩, hfurnished.guards⟩, by rw [hz]; rfl,
    by rw [hz]; rfl, ?_, by rw [ht]; rfl, by rw [ht]; rfl,
    hfurnished.locks _ ⟨Nat.le_refl _, fun entry h => ?_⟩, fun u hu => ?_⟩
  · rw [ht, hz]
    change (s.groups ++ [[]])[s.groups.length]? = _
    simp
  · simp [y, Router.fresh, SerialLocks.empty] at h
  · have hnew : (newRouter st.filter).on s = (.ok r, s.founded st.filter) := rfl
    have hcapture : (updateRouter r fun x => { x with capture := st.captureStack }).on
        (s.founded st.filter) = (.ok (), s₁) := rfl
    rw [routerOf, on_bind_of_ok hnew, on_bind_of_ok hcapture]
    refine on_keeping ?_ rfl
    rw [on_bind_of_ok hon]
    simp only
    rw [on_bind_of_ok hu]
    rfl

/-! ## The default handler -/

/-- Without a target, the default handler writes to the standard error stream. -/
lemma on_addTarget_of_none (calls : Reentry) (htarget : st.target = none) (h : t.Arranged r st y)
    (hgroup : t.groups[y.defaults]? = some []) {least : LockId} (hleast : t.LocksFrom least y) :
    ∃ u z d n lock, (addTarget calls r st).on t = (.ok (.ok ()), u) ∧ u.Arranged r st z ∧
      u.held = t.held ∧ u.groups[z.defaults]? = some [d] ∧ u.slot? d = some ⟨.plain n, lock⟩ ∧
      least ≤ lock ∧ u.handlers[n]? = some (.stderr st.layout) := by
  set t₁ : System := { t with handlers := t.handlers ++ [.stderr st.layout] }
  have hnew : (newHandler (.stderr st.layout)).on t = (.ok t.handlers.length, t₁) := rfl
  obtain ⟨lock, locks, hlock, hadd⟩ := on_addDefault (s := t₁) (.plain t.handlers.length) h.router
  set u := (t₁.relocked r locks).enlisted y.defaults ⟨.plain t.handlers.length, lock⟩
  refine ⟨u, { y with locks := locks }, t.slots.length + 1, t.handlers.length, lock, ?_, ?_, rfl, ?_,
    ?_, (LocksFrom.lockFor (s := t₁) hleast hlock).1, ?_⟩
  · rw [addTarget, htarget]
    simp only
    rw [on_bind_of_ok hnew, on_bind_of_ok hadd]
    rfl
  · exact h.continues ⟨[.stderr st.layout], rfl⟩ ⟨[⟨.plain t.handlers.length, lock⟩], rfl⟩
      (router_relocked (s := t₁) h.router locks) ⟨rfl, rfl, rfl, rfl, fun h => h⟩
  · exact group_onGroup (s := t₁.relocked r locks) hgroup _
  · simp [u, enlisted, relocked, onRouter, t₁, Assembly.slot?]
  · simp [u, enlisted, relocked, onRouter, t₁]

/-- The engine around the stream sink of settings, when it serves a router in a slot. -/
def servingEngine (st : Settings) (sink : StreamSink) (r : RouterId) (d : SlotId) : Engine :=
  { Engine.make (.stream sink) (.ofNat st.errorThreshold) with
    state := .active
    router := some r
    slot := some d }

/-- With a target that opens, the default handler is an engine around a stream sink. -/
lemma on_addTarget_of_some (calls : Reentry) {target : Target} (htarget : st.target = some target)
    {sink : StreamSink} {m : Media}
    (hopens : (StreamSink.make target st.layout st.aspectFilter).start t.media = (.ok (), sink, m))
    (h : t.Arranged r st y) (hgroup : t.groups[y.defaults]? = some []) {least : LockId}
    (hleast : t.LocksFrom least y) :
    ∃ u z d e lock, (addTarget calls r st).on t = (.ok (.ok ()), u) ∧ u.Arranged r st z ∧
      z.shutDown = y.shutDown ∧ z.aspects = y.aspects ++ [(d, e)] ∧ u.held = t.held ∧
      u.groups[z.defaults]? = some [d] ∧ u.slot? d = some ⟨.engine e, lock⟩ ∧ least ≤ lock ∧
      u.engines[e]? = some (servingEngine st sink r d) ∧ u.media = m := by
  set e := t.engines.length
  set x := Engine.make (.stream (.make target st.layout st.aspectFilter))
    (.ofNat st.errorThreshold)
  set t₁ : System := { t with engines := t.engines ++ [x] }
  have hnew : (newEngine x).on t = (.ok e, t₁) := rfl
  have hx : t₁.engines[e]? = some x := by simp [t₁, e]
  obtain ⟨t₂, hstart, haside, hmedia, hx₂⟩ := on_startEngine_of_stream calls hx rfl
  have hopens₁ : (StreamSink.make target st.layout st.aspectFilter).start t₁.media =
      (.ok (), sink, m) := hopens
  rw [hopens₁] at hstart hmedia hx₂
  have hy : t₂.routers[r]? = some y := haside.routers ▸ h.router
  obtain ⟨lock, locks, hlock, hattach⟩ := on_attachEngine e hy
  have hleast₂ : t₂.LocksFrom least y := ⟨haside.lockCount ▸ hleast.1, hleast.2⟩
  set d := t₂.slots.length + 1
  set z : Router := { y with locks := locks, aspects := y.aspects ++ [(d, e)] }
  set u := (t₂.relocked r locks).attached e r { y with locks := locks } lock
  have hz : u.routers[r]? = some z := router_onRouter (router_relocked hy locks) _
  refine ⟨u, z, d, e, lock, ?_, ?_, rfl, rfl, haside.held, ?_, ?_, (hleast₂.lockFor hlock).1, ?_,
    hmedia⟩
  · have hinit : (initEngine calls e r).on t₁ = (.ok (.ok ()), u) := by
      rw [on_initEngine hx rfl rfl, on_bind_of_ok hstart]
      simp only
      rw [on_bind_of_ok hattach]
      rfl
    rw [addTarget, htarget]
    simp only
    rw [on_bind_of_ok hnew, on_bind_of_ok hinit]
    rfl
  · refine h.continues ⟨[], ?_⟩ ⟨[⟨.engine e, lock⟩], ?_⟩ hz ⟨rfl, rfl, rfl, rfl, fun h => h⟩
    · rw [List.append_nil]
      exact haside.handlers.symm
    · rw [← haside.slots]
      rfl
  · have hgroup₂ : t₂.groups[y.defaults]? = some [] := haside.groups ▸ hgroup
    exact group_onGroup (s := t₂.relocked r locks) hgroup₂ _
  · simp [u, attached, enlisted, relocked, onRouter, onEngine, noted, d, Assembly.slot?]
  · exact engines_onEngine_self (f := Engine.attach r d) hx₂

/-! ## Routers as they were built -/

/-- The default handler of settings in the slot `d`, the only one in the group `g`, unless it is an
engine that has left.  Nobody holds the lock of the slot. -/
inductive Attended (s : System) (r : RouterId) (g : GroupId) (d : SlotId) : Prop
  | stderr {n : HandlerId} {lock : LockId} {layout : Layout}
      (slot : s.slot? d = some ⟨.plain n, lock⟩) (handler : s.handlers[n]? = some (.stderr layout))
      (members : s.groups[g]? = some [d]) (free : lock ∉ s.held)
  | engine {e : EngineId} {lock : LockId} {x : Engine} (slot : s.slot? d = some ⟨.engine e, lock⟩)
      (serves : Serves s r g d e x) (rest : x.drainer = none) (free : lock ∉ s.held)

/-- The router `r`, which is `y`, stands as it was built from settings, with its default handler in the
slot `d`. -/
structure Standing (s : System) (r : RouterId) (st : Settings) (d : SlotId) (y : Router) : Prop where
  arranged : s.Arranged r st y
  attended : s.Attended r y.defaults d

/-- The engine that was built for the target serves the router from its slot among the default
handlers. -/
lemma serves_servingEngine {sink : StreamSink} {e : EngineId} {g : GroupId}
    (he : s.engines[e]? = some (servingEngine st sink r d)) (hgroup : s.groups[g]? = some [d]) :
    Serves s r g d e (servingEngine st sink r d) :=
  ⟨he, ⟨sink, rfl⟩, rfl, rfl, fun _ => ⟨rfl, rfl, hgroup⟩, .inl hgroup⟩

/-- **Building a router succeeds** if its target opens, and the router stands as the settings say.  Of
the locks that are held, it is enough that they were made before. -/
lemma standing_routerOf (calls : Reentry)
    (hnames : ∀ o ∈ st.overrides, WellFormed o.namespaceName.toList)
    (hheld : ∀ lock ∈ s.held, lock < s.lockCount) (hopens : st.Opens s.media) :
    ∃ t d y, (routerOf calls st).on s = (.ok (.ok s.routers.length), t) ∧
      t.Standing s.routers.length st d y ∧ t.groups[y.defaults]? = some [d] := by
  obtain ⟨t, y, harranged, -, -, hgroup, hheld₁, hmedia, hleast, hbuild⟩ := on_routerOf calls hnames
  have hfree : ∀ u : System, u.held = t.held → ∀ lock, s.lockCount ≤ lock → lock ∉ u.held := by
    intro u hu lock hlock hmem
    rw [hu, hheld₁] at hmem
    exact Nat.not_lt.mpr hlock (hheld lock hmem)
  cases htarget : st.target with
  | none =>
    obtain ⟨u, z, d, n, lock, hadd, hu, hheld₂, hmembers, hslot, hlock, hhandler⟩ :=
      on_addTarget_of_none calls htarget harranged hgroup hleast
    refine ⟨_, d, z, hbuild u hadd, ⟨?_, ?_⟩, hmembers⟩
    · exact hu.continues List.prefix_rfl List.prefix_rfl hu.router (.refl z)
    · exact .stderr hslot hhandler hmembers (hfree u hheld₂ lock hlock)
  | some target =>
    obtain ⟨sink, m, hstart⟩ : ∃ sink m,
        (StreamSink.make target st.layout st.aspectFilter).start t.media = (.ok (), sink, m) :=
      ⟨_, _, by rw [hmedia, ← hopens target htarget]⟩
    obtain ⟨u, z, d, e, lock, hadd, hu, -, -, hheld₂, hmembers, hslot, hlock, he, -⟩ :=
      on_addTarget_of_some calls htarget hstart harranged hgroup hleast
    refine ⟨_, d, z, hbuild u hadd, ⟨?_, ?_⟩, hmembers⟩
    · exact hu.continues List.prefix_rfl List.prefix_rfl hu.router (.refl z)
    · exact .engine hslot (serves_servingEngine he hmembers) rfl (hfree u hheld₂ lock hlock)

end System

end NamespaceLogging
