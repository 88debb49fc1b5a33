import NamespaceLogging.Proofs.RegularEngines

/-!
# How engines start

An engine is started by its init hook and then attached to a router.  If the hook fails, nothing has
happened to the engine but that the hook was called: it can be started again.

## Main definitions

* `System.Unstarted`: an engine that was not started yet.
* `Engine.Aloof`: the init hook of the engine's sink leaves the system alone.

## Main results

* `System.regular_initEngine`: starting an engine is regular.
* `System.unstarted_of_failed`: an engine whose start failed can be started again.
* `System.lists_of_failed`: if the hook leaves the system alone, no router notices.
* `System.initEngine_succeeds`: if the hook succeeds, the engine is active.
-/

set_option autoImplicit false

namespace NamespaceLogging

open Act History

/-- The init hook of the engine's sink leaves the system alone. -/
def Engine.Aloof (x : Engine) : Prop :=
  match x.sink with
  | .scripted behaviour => ∀ word step, Move.take word step ∉ behaviour.onInit x.calls.init
  | .stream _ => True

namespace System

variable {s t u : System} {e : EngineId} {x y : Engine}

/-! ## Regular starts -/

/-- An engine that was not started yet, and is not being started. -/
def Unstarted (e : EngineId) (t : System) : Prop :=
  ∃ y, t.engines[e]? = some y ∧ y.state = .uninitialized ∧ y.starting = false

/-- Attaching an engine to the router `r`, which is `y`. -/
lemma on_attachEngine {r : RouterId} {y : Router} (e : EngineId) (hy : s.routers[r]? = some y) :
    ∃ lock locks, y.locks.lockFor s.lockAlive s.lockCount (.engine e) = (lock, locks) ∧
      (attachEngine e r).on s =
        (.ok (), (s.relocked r locks).attached e r { y with locks := locks } lock) := by
  obtain ⟨lock, locks, hlock, hon⟩ := on_addDefault (.engine e) hy
  exact ⟨lock, locks, hlock, on_bind_of_ok hon _⟩

/-- An engine is not attached to a router that does not exist, and nothing is changed then. -/
lemma on_attachEngine_of_none {r : RouterId} (e : EngineId) (hy : s.routers[r]? = none) :
    (attachEngine e r).on s = (.error (.missing "router"), s) := by
  rw [attachEngine, on_bind_of_error (on_addDefault_of_none _ hy)]

/-- An engine that was started takes its place at its router. -/
lemma leaves_attachEngine {r : RouterId} (hx : s.engines[e]? = some x)
    (hstate : x.state = .uninitialized) (hstarting : x.starting = false)
    (hinit : Entry.hook e .init ∈ s.history) :
    (attachEngine e r).Leaves s s.Balanced s.Balanced := by
  cases hy : s.routers[r]? with
  | none =>
    rw [Leaves, on_attachEngine_of_none e hy]
    exact ⟨.refl, trivial⟩
  | some y =>
    obtain ⟨lock, locks, -, hon⟩ := on_attachEngine e hy
    have hquiet := quiet_relocked (s := s) r locks
    have hz := router_relocked hy locks
    set t := s.relocked r locks
    set z : Router := { y with locks := locks }
    have hx' : t.engines[e]? = some x := by rw [hquiet.engines, hx]
    have hst : s.Evolves t := .single (.quiet hquiet)
    have hattach : t.Evolves (t.attached e r z lock) :=
      .single (.attached lock hx' hstate hstarting (hst.lasts.mem_history hinit) hz)
    have hlast : t.Balanced (t.attached e r z lock) := by
      have hhistory : (t.attached e r z lock).history =
          t.history ++ [.activated e r (t.slots.length + 1)] := history_noted _
      refine balanced_of_but (balancedBut_attached lock hx' hz) hx' (engines_onEngine_self hx') ?_
      rw [hhistory]
      refine { drainer := rfl, idle := ?_, spared := fun _ => ?_, settled := fun _ htidy => ?_,
               toSteady := .of_ending rfl ?_ ?_ ?_ }
      · simp [hstate, EngineState.rank]
      · simp [hstate]
      · simp [Engine.attach]
      · simp [Idle, batches, outcomes]
      · rintro ⟨n, error, hmem⟩
        exact ⟨n, error, by simpa using hmem⟩
      · rintro ⟨n, error, hmem⟩
        exact htidy ⟨n, error, by simpa using hmem⟩
    exact .of_ok hon (hst.trans hattach)
      (hquiet.balanced.trans hst.lasts hattach.lasts hlast)

/-- An engine that is new may begin its init hook: its failures are counted from zero, and the call
is written down. -/
lemma evolves_init (hx : s.engines[e]? = some x) (hstate : x.state = .uninitialized)
    (hstarting : x.starting = false) :
    s.Evolves ((s.onEngine e Engine.beginInit).noted (.hook e .init)) := by
  have hbegin : s.Evolves (s.onEngine e Engine.beginInit) :=
    .single (.shift Engine.beginInit hx rfl (.beginInit hstate hstarting))
  have hevent : (s.onEngine e Engine.beginInit).Evolves
      (((s.onEngine e Engine.beginInit).onEngine e id).noted (.hook e .init)) :=
    .single (.event id (engines_onEngine_self hx) rfl (.init hstate rfl) trivial)
  rw [onEngine_id] at hevent
  exact hbegin.trans hevent

section Regular

variable {calls : Reentry} (hcalls : calls.Regular)

include hcalls

/-- The init hook runs: the engine is being started meanwhile, and nothing else happens to it. -/
lemma leaves_startEngine (hsound : s.Sound) (hx : s.engines[e]? = some x)
    (hstate : x.state = .uninitialized) (hstarting : x.starting = false) :
    (startEngine calls e).Leaves s
      (fun t => s.Balanced t ∧ Entry.hook e .init ∈ t.history ∧ Unstarted e t)
      (fun t => s.Balanced t ∧ Entry.hook e .init ∈ t.history ∧ Unstarted e t) := by
  set w := (s.onEngine e Engine.beginInit).noted (.hook e .init)
  have hw : w.engines[e]? = some x.beginInit := engines_onEngine_self hx
  have hsw : s.Evolves w := evolves_init hx hstate hstarting
  have hbut : BalancedBut e s w := balancedBut_event hx rfl rfl rfl rfl
  have hwsound := hsw.sound hsound
  have hend : ∀ t, w.Evolves t → w.Balanced t → t.Evolves (t.onEngine e Engine.endInit) ∧
      s.Balanced (t.onEngine e Engine.endInit) ∧
        Entry.hook e .init ∈ (t.onEngine e Engine.endInit).history ∧
          Unstarted e (t.onEngine e Engine.endInit) := by
    intro t hwt hbalanced
    obtain ⟨y, hy, hxy⟩ := (hbalanced.each e).old _ hw
    have hystarting : y.starting = true := hxy.starting
    have hystate := ((hwt.sound hwsound).lives.vital hy).starting hystarting
    have hstop : t.Evolves (t.onEngine e Engine.endInit) :=
      .single (.shift Engine.endInit hy rfl (.endInit hystarting))
    have hmid := hbut.trans hsw.lasts hwt.lasts (hbalanced.but e)
    have hall := hmid.trans (hsw.trans hwt).lasts hstop.lasts
      (balancedBut_onEngine (f := Engine.endInit) hy rfl rfl rfl)
    have hdisabled : Disabled e w.history → Disabled e s.history := by
      rintro ⟨n, error, hmem⟩
      exact ⟨n, error, by simpa [w] using hmem⟩
    have hidle : Idle e w.history ↔ Idle e s.history := by simp [w, Idle, batches, outcomes]
    refine ⟨hstop, balanced_of_but hall hx (engines_onEngine_self hy) ?_,
      hwt.lasts.mem_history (by simp [w]), _, engines_onEngine_self hy, hystate, rfl⟩
    refine { drainer := hxy.drainer, idle := hxy.idle.trans hidle,
             spared := fun hd h => hdisabled (hxy.spared hd h),
             settled := fun hd htidy => hxy.settled hd fun h => htidy (hdisabled h),
             toSteady := .of_ending hstarting.symm ?_ ?_ ?_ }
    · simp [hstate, EngineState.rank]
    · simp [hstate]
    · simp [Engine.endInit, hystate]
  refine .of_on ((on_bind_of_ok (on_updateEngine _ _) _).trans (on_bind_of_ok (on_note _) _)) hsw ?_
  exact Ends.after ((regular_runInit hcalls e w).leaves hwsound) hend hend

/-- **Starting an engine.** -/
lemma regular_initEngine (e : EngineId) (r : RouterId) : (initEngine calls e r).Regular := by
  refine fun s => regularAt_engine fun x hx => ?_
  cases hstarting : x.starting with
  | true =>
    refine regularAt_of_eq ?_
    simp only [if_true]
    rw [on_bind_of_error (on_throw _)]
  | false =>
    simp only [Bool.false_eq_true, if_false]
    cases hstate : x.state with
    | active => exact regular_pure _ s
    | shutDown => exact regular_pure _ s
    | uninitialized =>
      refine regularAt_of_leaves fun hsound => Leaves.bind
        (leaves_startEngine hcalls hsound hx hstate hstarting) (fun result t _ hst h => ?_)
        fun t _ h => h.1
      obtain ⟨hbalanced, hinit, y, hy, hystate, hystarting⟩ := h
      cases result with
      | error error => exact .of_ok rfl .refl hbalanced
      | ok _ =>
        have hall : ∀ u, t.Evolves u → t.Balanced u → s.Balanced u := fun u htu h =>
          hbalanced.trans hst.lasts htu.lasts h
        exact Leaves.bind (leaves_attachEngine hy hystate hystarting hinit)
          (fun _ u _ htu h => .of_ok rfl .refl (hall u htu h)) hall

end Regular

/-! ## What an engine is after its start -/

section Results

variable {calls : Reentry} {r : RouterId} {result : Except Stop (Except AspectError Unit)}

/-- Starting an engine that was not started: its init hook runs, and if that succeeds the engine is
attached. -/
lemma on_initEngine (hx : s.engines[e]? = some x) (hstate : x.state = .uninitialized)
    (hstarting : x.starting = false) : (initEngine calls e r).on s =
      (do
        match ← startEngine calls e with
        | .error error => return .error error
        | .ok () =>
          attachEngine e r
          return .ok () : Act (Except AspectError Unit)).on s := by
  rw [initEngine, on_bind_of_ok (on_engine_of_some hx), hstarting, hstate]
  rfl

/-- A start that failed went no further than the init hook. -/
lemma on_initEngine_of_failed (hx : s.engines[e]? = some x) (hstate : x.state = .uninitialized)
    (hon : (initEngine calls e r).on s = (result, t)) (hover : isOver result = true)
    (hfailed : result ≠ .ok (.ok ())) :
    x.starting = false ∧ ((startEngine calls e).on s).2 = t ∧
      isOver ((startEngine calls e).on s).1 = true := by
  cases hstarting : x.starting with
  | true =>
    rw [initEngine, on_bind_of_ok (on_engine_of_some hx)] at hon
    simp only [hstarting, if_true] at hon
    rw [on_bind_of_error (on_throw _)] at hon
    rw [← (Prod.mk.inj hon).1] at hover
    simp [isOver] at hover
  | false =>
    refine ⟨rfl, ?_⟩
    rw [on_initEngine hx hstate hstarting] at hon
    rcases hstart : (startEngine calls e).on s with ⟨stop | error | ⟨⟩, u⟩
    · rw [on_bind_of_error hstart] at hon
      cases hon
      exact ⟨rfl, by cases stop <;> exact hover⟩
    · rw [on_bind_of_ok hstart] at hon
      cases hon
      exact ⟨rfl, rfl⟩
    · rw [on_bind_of_ok hstart] at hon
      cases hy : u.routers[r]? with
      | none =>
        simp only [on_bind_of_error (on_attachEngine_of_none e hy)] at hon
        rw [← (Prod.mk.inj hon).1] at hover
        simp [isOver] at hover
      | some y =>
        obtain ⟨lock, locks, -, hattach⟩ := on_attachEngine e hy
        simp only [on_bind_of_ok hattach, on_pure] at hon
        exact absurd (Prod.mk.inj hon).1.symm hfailed

/-- **An engine whose start failed can be started again.** -/
theorem unstarted_of_failed (hcalls : calls.Regular) (hsound : s.Sound)
    (hx : s.engines[e]? = some x) (hstate : x.state = .uninitialized)
    (hon : (initEngine calls e r).on s = (result, t)) (hover : isOver result = true)
    (hfailed : result ≠ .ok (.ok ())) : Unstarted e t := by
  obtain ⟨hstarting, rfl, hover'⟩ := on_initEngine_of_failed hx hstate hon hover hfailed
  obtain ⟨-, hend⟩ := leaves_startEngine hcalls hsound hx hstate hstarting
  rcases hstart : (startEngine calls e).on s with ⟨(payload | _ | _ | _) | value, u⟩ <;>
    rw [hstart] at hend hover'
  · exact hend.2.2
  · simp [isOver] at hover'
  · simp [isOver] at hover'
  · simp [isOver] at hover'
  · exact hend.2.2

/-- A script that takes no step leaves the system alone. -/
lemma on_runScript_of_aloof {moves : List (Move Step)} (name : String)
    (haloof : ∀ word step, Move.take word step ∉ moves) :
    ((runScript calls name moves).on s).2 = s := by
  cases moves with
  | nil => rfl
  | cons move moves =>
    cases move with
    | panic payload => rfl
    | fail error => rfl
    | take word step => exact absurd List.mem_cons_self (haloof word step)

/-- An init hook that leaves the system alone leaves all routers and groups as they are. -/
lemma lists_of_aloof (hx : s.engines[e]? = some x) (haloof : x.Aloof) :
    ((startEngine calls e).on s).2.routers = s.routers ∧
      ((startEngine calls e).on s).2.groups = s.groups := by
  set w := (s.onEngine e Engine.beginInit).noted (.hook e .init)
  have hw : w.engines[e]? = some x.beginInit := engines_onEngine_self hx
  have hrun : ((runInit calls e).on w).2.routers = w.routers ∧
      ((runInit calls e).on w).2.groups = w.groups := by
    rw [runInit, on_bind_of_ok (on_engine_of_some hw)]
    unfold Engine.Aloof at haloof
    cases hsink : x.sink with
    | scripted behaviour =>
      simp only [hsink] at haloof
      simp only [Engine.beginInit, hsink]
      rw [on_bind_of_ok (on_updateEngine _ _), on_runScript_of_aloof _ haloof]
      exact ⟨rfl, rfl⟩
    | stream sink =>
      simp only [Engine.beginInit, hsink]
      exact ⟨rfl, rfl⟩
  have hon : (startEngine calls e).on s = ((runInit calls e).after fun s =>
      { s with engines := s.engines.modify e Engine.endInit }).on w :=
    (on_bind_of_ok (on_updateEngine _ _) _).trans (on_bind_of_ok (on_note _) _)
  rw [hon, on_after]
  split <;> exact hrun

/-- **If an init hook fails that leaves the system alone, no router notices.** -/
theorem lists_of_failed (hx : s.engines[e]? = some x) (hstate : x.state = .uninitialized)
    (haloof : x.Aloof) (hon : (initEngine calls e r).on s = (result, t))
    (hover : isOver result = true) (hfailed : result ≠ .ok (.ok ())) :
    t.routers = s.routers ∧ t.groups = s.groups := by
  obtain ⟨-, rfl, -⟩ := on_initEngine_of_failed hx hstate hon hover hfailed
  exact lists_of_aloof hx haloof

/-- **If the init hook succeeds, the engine is active.** -/
theorem initEngine_succeeds (hcalls : calls.Regular) (hsound : s.Sound) (h : Unstarted e s)
    {y : Router} (hy : s.routers[r]? = some y)
    (hstart : (startEngine calls e).on s = (.ok (.ok ()), t)) :
    ∃ u x, (initEngine calls e r).on s = (.ok (.ok ()), u) ∧ u.engines[e]? = some x ∧
      x.state = .active := by
  obtain ⟨x, hx, hstate, hstarting⟩ := h
  have hleaves := leaves_startEngine hcalls hsound hx hstate hstarting
  rw [Leaves, hstart] at hleaves
  obtain ⟨hst, -, -, z, hz, -⟩ := hleaves
  obtain ⟨w, hw, -⟩ := hst.lasts.routers r y hy
  obtain ⟨lock, locks, -, hattach⟩ := on_attachEngine e hw
  have hseen : ((t.relocked r locks).attached e r { w with locks := locks } lock).engines[e]? =
      some (z.attach r (t.slots.length + 1)) :=
    engines_onEngine_self (f := Engine.attach r (t.slots.length + 1)) hz
  refine ⟨_, _, ?_, hseen, rfl⟩
  rw [on_initEngine hx hstate hstarting, on_bind_of_ok hstart]
  simp only [on_bind_of_ok hattach, on_pure]

end Results

end System

end NamespaceLogging
