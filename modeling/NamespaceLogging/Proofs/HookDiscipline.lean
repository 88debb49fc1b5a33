import NamespaceLogging.Proofs.Listing
import NamespaceLogging.Proofs.Order
import NamespaceLogging.Proofs.Programs

/-!
# The discipline of hooks

Whatever programs do, and whatever the hooks of a sink do in between, an engine goes its way from its
start to its end once, and calls the hooks of its sink in their order.  Between two steps of a program
it stands in the lists of its router exactly while it is active.

There is one exception.  A router that is shut down empties its list first and stops its engines then;
if the shutdown hook of one engine panics, the engines after it stay active and stay default handlers,
but are not listed any more.

## Main definitions

* `System.Forsaken`: the router was shut down after the engine had been attached.
* `System.Placed`: how an engine stands in the lists of its router.
* `System.Disciplined`: all the rules for one engine.

## Main results

* `System.Reachable.disciplined`: every program keeps the rules, for every engine.
-/

set_option autoImplicit false

namespace NamespaceLogging

open Act History

namespace System

variable {s t u : System} {e : EngineId} {x y : Engine} {r : RouterId} {id : SlotId}

/-! ## Rules -/

/-- The router was shut down after the engine had been attached to it. -/
def Forsaken (s : System) (e : EngineId) (r : RouterId) : Prop :=
  (∃ y, s.routers[r]? = some y ∧ y.shutDown = true) ∧ ¬ s.Late e r

/-- An engine, which is `x` and was attached to the router `r` in the slot `id`, is a default handler
exactly while it is active.  So long it is also listed, unless it was forsaken; that takes a shutdown
hook that panics. -/
structure Placed (s : System) (e : EngineId) (x : Engine) (r : RouterId) (id : SlotId) : Prop where
  member : s.Member r id ↔ x.state = .active
  listed : s.Lists r id e ↔ x.state = .active ∧ ¬ s.Forsaken e r
  whole : (∀ i, Entry.crashed i ∉ s.history) → (s.Lists r id e ↔ x.state = .active)

/-- The rules for one engine. -/
structure Disciplined (s : System) (e : EngineId) : Prop where
  /-- At any time, the state tells whether the engine was started, and whether it has ended. -/
  marked : ∀ {h : List Entry} {x : Engine}, s.Point e h x → x.Marked e h
  /-- The state never goes back. -/
  advances : ∀ {h h' : List Entry} {x y : Engine}, s.Point e h x → s.Point e h' y → h <+: h' →
    x.state.rank ≤ y.state.rank
  /-- Start and end, batches and hooks follow in their order. -/
  ordered : Engine.Ordered e s.history
  once : closings e s.history ≤ 1
  /-- When a step is over that has shut the engine down, the shutdown hook was called. -/
  closes : ∀ {u t : System} {y : Engine}, u.Passed → u.Finishes t →
    (∀ x, u.engines[e]? = some x → x.state ≠ .shutDown) → t.engines[e]? = some y →
    y.state = .shutDown → closings e t.history = 1
  /-- After a start that failed, the engine is as it was, and so are the lists of all routers unless
  the hook has changed them by its own steps. -/
  failed : ∀ {u t : System} {x : Engine} {depth : Nat} {r : RouterId}
    {result : Except Stop (Except AspectError Unit)}, u.Passed → u.engines[e]? = some x →
    x.state = .uninitialized → (initEngine (.upTo depth) e r).on u = (result, t) →
    isOver result = true → result ≠ .ok (.ok ()) →
    Unstarted e t ∧ (∀ r id, ¬ t.Lists r id e) ∧
      (x.Aloof → t.routers = u.routers ∧ t.groups = u.groups)
  /-- An engine that was not started yet can be started as soon as its init hook succeeds. -/
  retried : ∀ {u t : System} {depth : Nat} {r : RouterId} {y : Router}, u.Passed → Unstarted e u →
    u.routers[r]? = some y → (startEngine (.upTo depth) e).on u = (.ok (.ok ()), t) →
    ∃ v x, (initEngine (.upTo depth) e r).on u = (.ok (.ok ()), v) ∧ v.engines[e]? = some x ∧
      x.state = .active
  /-- Between two steps, an engine is in its place, unless it was taken out by hand or swept out by a
  shutdown in the middle of which it was attached, or its router was gone when it ended. -/
  placed : ∀ {x : Engine} {r : RouterId} {id : SlotId}, s.Rested → s.engines[e]? = some x →
    Entry.activated e r id ∈ s.history → ¬ s.Withdrawn id → ¬ s.Swept e r →
    (∀ m ∈ s.moments, ∀ why, m.entry = .deactivated e why → m.assembly.isAlive r = true) →
    s.Placed e x r id

/-! ## They are kept -/

/-- A system that has just begun has no router, and so there is nothing to list. -/
lemma enrolled_initial (machinery : String) (callStack : List Frame) (clock : Instant) :
    (initial machinery callStack clock).Enrolled := by
  constructor <;> simp [initial, Assembly.Lists]

/-- In every state that a program passes, routers that were shut down list just the active engines that
were attached to them later. -/
lemma Passed.enrolled (hs : s.Passed) : s.Enrolled := by
  obtain ⟨machinery, callStack, clock, hs⟩ := hs
  exact hs.enrolled (sound_initial machinery callStack clock)
    (enrolled_initial machinery callStack clock)

/-- At every point of the journal, the state of an engine is the one that the entries before it
tell. -/
lemma Point.marked {h : List Entry} (hpoint : s.Point e h x) (hs : s.Reachable) : x.Marked e h := by
  obtain ⟨ms, rfl, hlife⟩ := hpoint.life hs
  exact hlife.marked

/-- The state of an engine follows from its landmarks, which never go. -/
lemma rank_le_of_marked {h h' : List Entry} (hx : x.Marked e h) (hy : y.Marked e h')
    (hearlier : h <+: h') : x.state.rank ≤ y.state.rank := by
  cases hstate : x.state with
  | uninitialized => exact Nat.zero_le _
  | active =>
    obtain ⟨r, id, hmem⟩ := hx.started.mp (by simp [hstate])
    have hstarted := hy.started.mpr ⟨r, id, hearlier.subset hmem⟩
    cases hstate' : y.state with
    | uninitialized => exact absurd hstate' hstarted
    | active => exact Nat.le_refl _
    | shutDown => exact Nat.le_succ 1
  | shutDown =>
    obtain ⟨why, hmem⟩ := hx.ended.mp hstate
    have hended := hy.ended.mpr ⟨why, hearlier.subset hmem⟩
    exact Nat.le_of_eq (congrArg EngineState.rank hended.symm)

/-- An act that shuts an engine down closes it before it is over. -/
lemma closings_of_finishes (hsound : u.Sound) (hfinish : u.Finishes t)
    (hup : ∀ x, u.engines[e]? = some x → x.state ≠ .shutDown) (hy : t.engines[e]? = some y)
    (hdown : y.state = .shutDown) : closings e t.history = 1 := by
  have hbalanced := (hfinish.balanced hsound).each e
  have hclosed : y.closed = true := by
    cases hx : u.engines[e]? with
    | none => exact (hbalanced.new hx y hy).closed hdown
    | some x =>
      obtain ⟨y', hy', hxy⟩ := hbalanced.old x hx
      obtain rfl : y' = y := Option.some.inj (hy'.symm.trans hy)
      exact hxy.ending (hup x hx) hdown
  have htsound := (hfinish.takes.evolves hsound).sound hsound
  rw [(htsound.lives.vital hy).closings, hclosed]
  rfl

/-- **Between two steps, an engine is in its place.**

**Proof sketch.** An active engine is a default handler; it is listed if its router is up, and if it
was attached after the shutdown of its router.  An engine that has ended has left both lists. -/
lemma Rested.placed (hs : s.Rested) (hx : s.engines[e]? = some x)
    (hmem : Entry.activated e r id ∈ s.history) (hkept : ¬ s.Withdrawn id)
    (hunswept : ¬ s.Swept e r) (halive : ∀ m ∈ s.moments, ∀ why, m.entry = .deactivated e why →
      m.assembly.isAlive r = true) : s.Placed e x r id := by
  have hsound := hs.reachable.sound
  have hcareer := hsound.careers e x hx
  obtain ⟨y, hy⟩ := hsound.wired.router e r id hmem
  have hended : x.state ≠ .active → ¬ s.Member r id ∧ ¬ s.Lists r id e := by
    intro hnot
    have hdown : x.state = .shutDown := by
      cases hstate : x.state with
      | uninitialized => exact absurd hstate (hcareer.started.mpr ⟨r, id, hmem⟩)
      | active => exact absurd hstate hnot
      | shutDown => rfl
    obtain ⟨why, hdeactivated⟩ := hcareer.ended.mp hdown
    obtain ⟨m, hm, hentry⟩ := List.mem_map.mp hdeactivated
    obtain ⟨hout, hunlisted⟩ :=
      hsound.wired.gone e r id hmem ⟨m, hm, ⟨why, hentry⟩, halive m hm why hentry⟩
    exact ⟨hout, hunlisted e⟩
  refine ⟨⟨fun hin => ?_, fun hactive => ?_⟩, ⟨fun hlists => ⟨?_, ?_⟩, ?_⟩, fun hcalm =>
    ⟨fun hlists => ?_, fun hactive => ?_⟩⟩
  · by_contra hnot
    exact (hended hnot).1 hin
  · exact (hsound.wired.member e x r id hx hactive hmem).resolve_right fun h =>
      h.elim hkept hunswept
  · by_contra hnot
    exact (hended hnot).2 hlists
  · rintro ⟨⟨z, hz, hdown⟩, hearly⟩
    exact hearly (hs.reachable.passed.enrolled.late r id e z hlists hz hdown)
  · rintro ⟨hactive, hkeeps⟩
    cases hup : y.shutDown with
    | false => exact hsound.wired.listed e x r id y hx hactive hmem hy hup
    | true =>
      have hlate : s.Late e r := by
        by_contra hearly
        exact hkeeps ⟨⟨y, hy, hup⟩, hearly⟩
      exact hs.reachable.passed.enrolled.listed e x r id hx hactive hmem hlate
  · by_contra hnot
    exact (hended hnot).2 hlists
  · have hlisted := hs.listed.resolve_left fun ⟨i, hcrashed⟩ => hcalm i hcrashed
    obtain ⟨r', id', -, -, hlists⟩ := hlisted e x hx hactive
    obtain ⟨rfl, rfl⟩ := hcareer.unique r' id' r id (hsound.wired.lists r' id' e hlists) hmem
    exact hlists

/-- **Every program keeps the rules, for every engine.** -/
theorem Reachable.disciplined (hs : s.Reachable) (e : EngineId) : s.Disciplined e where
  marked hpoint := hpoint.marked hs
  advances hx hy hearlier := rank_le_of_marked (hx.marked hs) (hy.marked hs) hearlier
  ordered := (hs.sound.lives e).ordered
  once := by
    cases hx : s.engines[e]? with
    | none =>
      have hlife := hs.sound.lives e
      rw [hx] at hlife
      have hnone : closings e s.history = 0 := (silent_of_forall hlife.unheard).closings
      rw [hnone]
      exact Nat.zero_le 1
    | some x =>
      rw [(hs.sound.lives.vital hx).closings]
      split <;> simp
  closes hu hfinish hup hy hdown := closings_of_finishes hu.sound hfinish hup hy hdown
  failed {u t x depth r result} hu hx hstate hon hover hfailed := by
    have hunstarted := unstarted_of_failed (Reentry.regular_upTo depth) hu.sound hx hstate hon hover
      hfailed
    refine ⟨hunstarted, fun r' id hlists => ?_, fun haloof =>
      lists_of_failed hx hstate haloof hon hover hfailed⟩
    obtain ⟨y, hy, hystate, -⟩ := hunstarted
    have htsound : t.Sound := by
      have hregular := regular_initEngine (Reentry.regular_upTo depth) e r u hu.sound
      rw [hon] at hregular
      exact hregular.1.sound hu.sound
    exact (htsound.careers e y hy).not_started hystate r' id (htsound.wired.lists r' id e hlists)
  retried hu hunstarted hy hstart :=
    initEngine_succeeds (Reentry.regular_upTo _) hu.sound hunstarted hy hstart
  placed hrested hx hmem hkept hunswept halive := hrested.placed hx hmem hkept hunswept halive

/-! ## The exception -/

/-- A router is shut down to which two engines are attached; the shutdown hook of the first one
panics. -/
def forsakingProgram : List Step :=
  [.makeRouter "router" (.ok (.startingAt .info)),
    .makeEngine "first" 5 (.scripted (smallSink (fun _ _ => []) fun _ => [.panic (.text "boom")])),
    .makeEngine "second" 5 (.scripted (smallSink (fun _ _ => []) fun _ => [])),
    .onEngine "first" (.init "router"),
    .onEngine "second" (.init "router"),
    .onRouter "router" .shutdown]

/-- Nothing in the history takes the second engine out of its place. -/
def undisturbed : Entry → Bool
  | .withdrawn _ | .cleared _ _ => false
  | .deactivated i _ => i != 1
  | _ => true

/-- The second engine is active and a default handler, but its router does not list it. -/
theorem disciplined_of_forsaken : (smallRun forsakingProgram).Rested ∧
    ∃ x, (smallRun forsakingProgram).engines[1]? = some x ∧ x.state = .active ∧
      (smallRun forsakingProgram).Member 0 2 ∧ ¬ (smallRun forsakingProgram).Lists 0 2 1 := by
  have hreachable := reachable_smallRun forsakingProgram
  have hrested : (smallRun forsakingProgram).Rested := rested_smallRun (by decide +kernel)
  obtain ⟨x, hx⟩ := Option.isSome_iff_exists.mp
    (by decide +kernel : (smallRun forsakingProgram).engines[1]?.isSome = true)
  have hview : (smallRun forsakingProgram).engines[1]?.map
      (fun x => (x.state, x.router, x.slot)) = some (.active, some 0, some 2) := by decide +kernel
  rw [hx, Option.map_some, Option.some.injEq, Prod.mk.injEq, Prod.mk.injEq] at hview
  obtain ⟨hactive, hrouter, hslot⟩ := hview
  obtain ⟨r, id, hmem, hr, hid, -⟩ := hreachable.sound.careers.place hx hactive
  obtain rfl : 0 = r := Option.some.inj (hrouter.symm.trans hr)
  obtain rfl : 2 = id := Option.some.inj (hslot.symm.trans hid)
  have hcalm : ∀ entry ∈ (smallRun forsakingProgram).history, undisturbed entry = true :=
    List.all_eq_true.mp (by decide +kernel)
  have hup : ∀ m ∈ (smallRun forsakingProgram).moments, m.entry.engine? = some 1 →
      m.assembly.routers[0]?.map Router.shutDown ≠ some true := by
    intro m hm
    have hnone := List.all_eq_true.mp (by decide +kernel :
      ((smallRun forsakingProgram).moments.all fun m => decide (m.entry.engine? = some 1 →
        m.assembly.routers[0]?.map Router.shutDown ≠ some true)) = true) m hm
    exact of_decide_eq_true hnone
  have hplaced := (hreachable.disciplined 1).placed hrested hx hmem
    (fun ⟨gone, hgone, _⟩ => by simpa [undisturbed] using hcalm _ hgone)
    (fun ⟨before, m, after, heq, _, _, gone, hgone⟩ => by
      refine absurd (hcalm (.cleared 0 gone) ?_) (by simp [undisturbed])
      rw [history, heq]
      simpa using .inr (.inr (by simpa using hgone)))
    (fun m hm why hentry => by
      have hin : Entry.deactivated 1 why ∈ (smallRun forsakingProgram).history :=
        hentry ▸ List.mem_map_of_mem hm
      simpa [undisturbed] using hcalm _ hin)
  refine ⟨hrested, x, hx, hactive, hplaced.member.mpr hactive, fun hlists => ?_⟩
  have hdown : (smallRun forsakingProgram).routers[0]?.map Router.shutDown = some true := by
    decide +kernel
  rw [Option.map_eq_some_iff] at hdown
  refine (hplaced.listed.mp hlists).2 ⟨hdown, ?_⟩
  rintro ⟨m, hm, id, y, hentry, hy, hshut⟩
  exact hup m hm (by simp [hentry, Entry.engine?]) (by simp [hy, hshut])

end System

end NamespaceLogging
