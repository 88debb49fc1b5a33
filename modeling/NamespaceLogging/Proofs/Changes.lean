import Mathlib.Logic.Relation
import NamespaceLogging.Proofs.Turns

/-!
# The changes of a system

Whatever acts do to a system, they do it by changes of a few kinds.  This module lists the kinds,
each with the circumstances in which it happens; that every act is made of such changes is proved in
later modules.  A rule that every change keeps is therefore kept by every program.

A change is small, but it is not the least one: for each engine, it is one of its turns.

## Main definitions

* `System.Quiet`: a change that no engine notices.
* `System.Change`: all changes.
* `System.Evolves`: one change after the other.
* `System.Lives`, `System.Careers`: every engine has a life and a career.

## Main results

* `System.Change.turn`: for each engine, a change is a turn.
* `System.Change.lives`, `System.Change.careers`: with every change, engines live on.
-/

set_option autoImplicit false

namespace NamespaceLogging

open History

/-- A router goes on as it is, but for its filter, its routes and its locks. -/
structure Router.Keeps (y z : Router) : Prop where
  defaults : z.defaults = y.defaults
  aspects : z.aspects = y.aspects
  shutDown : z.shutDown = y.shutDown
  filter : y.filter.isSome → z.filter.isSome

/-- A new router. -/
def Router.fresh (filter : LevelSet) (defaults : GroupId) : Router where
  filter := some filter
  capture := false
  shutDown := false
  registry := .empty
  locks := .empty
  defaults := defaults
  aspects := []

/-- The router after its shutdown. -/
def Router.shut (y : Router) : Router := { y with shutDown := true, filter := none, aspects := [] }

namespace System

/-! ## States after a change -/

/-- The state with an engine changed. -/
def onEngine (s : System) (e : EngineId) (change : Engine → Engine) : System :=
  { s with engines := s.engines.modify e change }

/-- The state with a router changed. -/
def onRouter (s : System) (r : RouterId) (change : Router → Router) : System :=
  { s with routers := s.routers.modify r change }

/-- The state with a group changed. -/
def onGroup (s : System) (g : GroupId) (change : List SlotId → List SlotId) : System :=
  { s with groups := s.groups.modify g change }

/-- The state with a new router and its group of default handlers. -/
def founded (s : System) (filter : LevelSet) : System :=
  { s with
    groups := s.groups ++ [[]]
    routers := s.routers ++ [.fresh filter s.groups.length] }

/-- The state with a new slot at the end of a group. -/
def enlisted (s : System) (g : GroupId) (slot : Slot) : System :=
  { s with
    slots := s.slots ++ [slot]
    groups := s.groups.modify g fun members => members ++ [s.slots.length + 1] }

/-- The state after an engine was attached to the router `r`, which is `y`, in a new slot. -/
def attached (s : System) (e : EngineId) (r : RouterId) (y : Router) (lock : LockId) : System :=
  let id := s.slots.length + 1
  (((s.enlisted y.defaults ⟨.engine e, lock⟩).onRouter r fun y =>
    { y with aspects := y.aspects ++ [(id, e)] }).onEngine e (Engine.attach r id)).noted
      (.activated e r id)

/-- The state after an engine, which was `x`, took its last record. -/
def left (s : System) (e : EngineId) (x : Engine) (why : Ending) : System :=
  let t := (s.onEngine e Engine.deactivate).noted (.deactivated e why)
  { t with toAssembly := t.toAssembly.released x }

/-- The state after an engine began to close. -/
def closing (s : System) (e : EngineId) : System :=
  (s.onEngine e Engine.close).noted (.hook e .shutdown)

/-- The state after an engine, which was `x`, has dropped its queue and announced its end, through a
router if there is one that lets it. -/
def finished (s : System) (e : EngineId) (x : Engine) (error : AspectError)
    (through : Option RouterId) : System :=
  let t := (((s.noted (.closed e)).onEngine e Engine.takeAll).noted (.discarded e x.queue)).noted
    (.disabled e x.errors error)
  match through with
  | some r => t.noted (.logged r (lastRecord x.sink.name x.errors error))
  | none => t

/-! ## Changes -/

/-- A change that no engine notices, and that is not written into the journal. -/
structure Quiet (s t : System) : Prop where
  engines : t.engines = s.engines
  journal : t.journal = s.journal
  slots : s.slots <+: t.slots
  groups : ∃ n, t.groups = s.groups ++ List.replicate n []
  routerCount : t.routers.length = s.routers.length
  routers : ∀ (r : RouterId) (y z : Router), s.routers[r]? = some y → t.routers[r]? = some z →
    y.Keeps z

/-- The engine was attached to the router after that was shut down. -/
def Late (s : System) (e : EngineId) (r : RouterId) : Prop :=
  ∃ m ∈ s.moments, ∃ id y, m.entry = .activated e r id ∧ m.assembly.routers[r]? = some y ∧
    y.shutDown = true

/-- One change of a system. -/
inductive Change : System → System → Prop
  | quiet {s t : System} (quiet : Quiet s t) : Change s t
  | noted (s : System) (entry : Entry) (about : entry.engine? = none) : Change s (s.noted entry)
  | made (s : System) (sink : Sink) (threshold : UInt32) :
      Change s { s with engines := s.engines ++ [.make sink threshold] }
  | founded (s : System) (filter : LevelSet) : Change s (s.founded filter)
  | shift {s : System} {e : EngineId} {x y : Engine} (f : Engine → Engine)
      (engine : s.engines[e]? = some x) (eq : f x = y) (shift : x.Shift e s.history y) :
      Change s (s.onEngine e f)
  | event {s : System} {e : EngineId} {x y : Engine} {entry : Entry} (f : Engine → Engine)
      (engine : s.engines[e]? = some x) (eq : f x = y) (event : x.Event e s.history y entry)
      (alone : x.Alone e s.history entry) : Change s ((s.onEngine e f).noted entry)
  | enlisted (s : System) (g : GroupId) (slot : Slot) : Change s (s.enlisted g slot)
  /-- Slots are taken out of a group by hand: those that `keep` does not keep. -/
  | withdrawn (s : System) (g : GroupId) (keep : SlotId → Bool) (gone : List SlotId)
      (all : ∀ members, s.groups[g]? = some members → ∀ id ∈ members, keep id = false → id ∈ gone) :
      Change s ((s.onGroup g fun members => members.filter keep).noted (.withdrawn gone))
  | shut {s : System} {r : RouterId} {y : Router} (router : s.routers[r]? = some y)
      (up : y.shutDown = false) : Change s (s.onRouter r Router.shut)
  /-- A router that was shut down lets its default handlers go; its engines have ended by then. -/
  | cleared {s : System} {r : RouterId} {y : Router} (members : List SlotId)
      (router : s.routers[r]? = some y)
      (ended : ∀ e x, s.engines[e]? = some x → x.state = .active → x.router = some r → s.Late e r) :
      Change s ((s.onGroup y.defaults fun _ => []).noted (.cleared r members))
  | attached {s : System} {e : EngineId} {x : Engine} {r : RouterId} {y : Router} (lock : LockId)
      (engine : s.engines[e]? = some x) (state : x.state = .uninitialized)
      (starting : x.starting = false) (init : Entry.hook e .init ∈ s.history)
      (router : s.routers[r]? = some y) : Change s (s.attached e r y lock)
  | left {s : System} {e : EngineId} {x : Engine} (engine : s.engines[e]? = some x)
      (state : x.state = .active) : Change s (s.left e x .asked)
  /-- A batch failed, and it is one too many. -/
  | tripped {s t : System} {e : EngineId} {x : Engine} (error : AspectError)
      (engine : s.engines[e]? = some x) (state : x.state = .active) (busy : ¬ Idle e s.history)
      (limit : x.threshold ≤ x.errors + 1)
      (quiet : Quiet ((s.onEngine e Engine.countFailure).noted (.batchOver e (some error))) t) :
      Change s ((t.left e x.countFailure .failing).closing e)
  /-- An engine that failed too often is done; its shutdown hook has returned. -/
  | finished {s : System} {e : EngineId} {x : Engine} {before trip after : List Moment}
      (error : AspectError) (through : Option RouterId)
      (engine : s.engines[e]? = some x) (closed : x.closed = true)
      (once : Entry.closed e ∉ s.history) (moments : s.moments = before ++ trip ++ after)
      (tripped : Engine.Tripped e x.threshold error before trip after)
      (router : ∀ r, through = some r → x.router = some r)
      (unheard : through = none → ∀ r, x.router = some r →
        (∃ m ∈ trip, m.assembly.isAlive r = false) ∨
          ∃ y, s.routers[r]? = some y ∧ y.filter = none) :
      Change s (s.finished e x error through)

/-- One change after the other. -/
def Evolves : System → System → Prop := Relation.ReflTransGen Change

/-- A system that has evolved may go on evolving. -/
lemma Evolves.trans {s t u : System} (hst : s.Evolves t) (htu : t.Evolves u) : s.Evolves u :=
  Relation.ReflTransGen.trans hst htu

/-! ## Fields of changed states -/

section Fields

variable {s : System} {e i : EngineId} {x : Engine} {f : Engine → Engine}

/-- An entry that is noted is the last moment, with the assembly as it stands. -/
@[simp]
lemma moments_noted (entry : Entry) :
    (s.noted entry).moments = s.moments ++ [⟨entry, s.toAssembly⟩] := by
  simp [moments, noted]

/-- An entry that is noted is the last one of the history. -/
@[simp]
lemma history_noted (entry : Entry) : (s.noted entry).history = s.history ++ [entry] := by
  simp [history]

/-- Noting an entry leaves engines, slots, groups and routers as they are. -/
@[simp]
lemma toAssembly_noted (entry : Entry) : (s.noted entry).toAssembly = s.toAssembly := rfl

/-- Changing an engine writes nothing down. -/
@[simp]
lemma moments_onEngine : (s.onEngine e f).moments = s.moments := rfl

/-- Changing an engine leaves the history as it is. -/
@[simp]
lemma history_onEngine : (s.onEngine e f).history = s.history := rfl

/-- The engines after one of them was changed: that one is changed, all others are as they were. -/
lemma engines_onEngine : (s.onEngine e f).engines[i]? =
    if e = i then s.engines[i]?.map f else s.engines[i]? :=
  s.toAssembly.engines_onEngine e i f

/-- An engine that is there and is changed is the changed one. -/
lemma engines_onEngine_self (hengine : s.engines[e]? = some x) :
    (s.onEngine e f).engines[e]? = some (f x) := by
  simp [engines_onEngine, hengine]

/-- Changing one engine leaves the others as they are. -/
lemma engines_onEngine_of_ne (hne : e ≠ i) : (s.onEngine e f).engines[i]? = s.engines[i]? := by
  simp [engines_onEngine, hne]

/-- An engine that is changed into itself changes nothing. -/
lemma onEngine_id : s.onEngine e id = s := by
  simp [onEngine]

/-- A router that is there and is changed is the changed one. -/
lemma router_onRouter {r : RouterId} {y : Router} (hrouter : s.routers[r]? = some y)
    (f : Router → Router) : (s.onRouter r f).routers[r]? = some (f y) := by
  simp [onRouter, hrouter]

/-- A group that is there and is changed has the changed members. -/
lemma group_onGroup {g : GroupId} {members : List SlotId} (hgroup : s.groups[g]? = some members)
    (f : List SlotId → List SlotId) : (s.onGroup g f).groups[g]? = some (f members) := by
  simp [onGroup, hgroup]

end Fields

/-! ## Changes and turns -/

/-- For an engine, the way from one state to another is a turn. -/
def TurnsTo (s t : System) (e : EngineId) : Prop :=
  ∃ new, t.moments = s.moments ++ new ∧ Engine.Turn e s.moments s.engines[e]? new t.engines[e]?

section Turns

variable {s t : System} {e i : EngineId} {x y : Engine}

/-- What leaves the engines and the journal as they are is a turn for nobody. -/
lemma turnsTo_of_same (hengines : t.engines = s.engines) (hjournal : t.journal = s.journal) :
    TurnsTo s t e := by
  refine ⟨[], by simp [moments, hjournal], ?_⟩
  rw [hengines]
  exact .elsewhere (by simp) (by simp)

/-- An entry about another engine, or about none, is no turn in the life of an engine. -/
lemma turnsTo_noted {entry : Entry} (hengines : t.engines = s.engines)
    (hjournal : t.journal = s.journal) (habout : entry.engine? ≠ some e) :
    TurnsTo s (t.noted entry) e := by
  refine ⟨[⟨entry, t.toAssembly⟩], by simp [moments, noted, hjournal], ?_⟩
  change Engine.Turn e _ _ _ t.engines[e]?
  rw [hengines]
  exact .elsewhere (by simpa using habout) (by simp [hengines])

/-- What happens to one engine is a turn for that engine, and for all others it happens elsewhere. -/
lemma turnsTo_of_turn (new : List Moment) (hmoments : t.moments = s.moments ++ new)
    (hengine : s.engines[e]? = some x)
    (hturn : Engine.Turn e s.moments (some x) new t.engines[e]?)
    (hothers : ∀ i, e ≠ i → t.engines[i]? = s.engines[i]?)
    (habout : ∀ m ∈ new, ∀ i, e ≠ i → m.entry.engine? ≠ some i)
    (hseen : ∀ m ∈ new, ∀ i, e ≠ i → m.assembly.engines[i]? = s.engines[i]?) :
    TurnsTo s t i := by
  refine ⟨new, hmoments, ?_⟩
  by_cases hne : e = i
  · subst hne
    rwa [hengine]
  · rw [hothers i hne]
    exact .elsewhere (fun m hm => habout m hm i hne) fun m hm => hseen m hm i hne

/-- A shift that the journal does not show is one turn of the engine, and none of any other. -/
lemma turnsTo_shift {f : Engine → Engine} (hengine : s.engines[e]? = some x) (heq : f x = y)
    (hshift : x.Shift e s.history y) : TurnsTo s (s.onEngine e f) i := by
  refine turnsTo_of_turn [] (by simp) hengine ?_ (fun i hne => engines_onEngine_of_ne hne)
    (by simp) (by simp)
  rw [engines_onEngine_self hengine, heq]
  exact .shift hshift

/-- A step with a single entry is one turn of the engine, and none of any other. -/
lemma turnsTo_event {f : Engine → Engine} {entry : Entry} (hengine : s.engines[e]? = some x)
    (heq : f x = y) (hevent : x.Event e s.history y entry) (halone : x.Alone e s.history entry) :
    TurnsTo s ((s.onEngine e f).noted entry) i := by
  have habout : entry.engine? = some e := by cases hevent <;> rfl
  have hseen : (s.onEngine e f).engines[e]? = some y := by rw [engines_onEngine_self hengine, heq]
  refine turnsTo_of_turn _ (moments_noted entry) hengine ?_ (fun i hne => engines_onEngine_of_ne hne)
    ?_ ?_
  · change Engine.Turn e _ _ _ (s.onEngine e f).engines[e]?
    rw [hseen]
    exact .event hevent halone hseen
  · simp [habout]
  · simpa using fun i hne => engines_onEngine_of_ne hne

/-- A new engine begins its life when it is made, and all others go on with theirs. -/
lemma turnsTo_made (sink : Sink) (threshold : UInt32) :
    TurnsTo s { s with engines := s.engines ++ [.make sink threshold] } e := by
  refine ⟨[], by simp [moments], ?_⟩
  change Engine.Turn e s.moments s.engines[e]? [] (s.engines ++ [Engine.make sink threshold])[e]?
  rcases Nat.lt_trichotomy e s.engines.length with hlt | rfl | hgt
  · rw [List.getElem?_append_left hlt]
    exact .elsewhere (by simp) (by simp)
  · rw [List.getElem?_concat_length, List.getElem?_eq_none (Nat.le_refl _)]
    exact .made sink threshold
  · have hnone : (s.engines ++ [Engine.make sink threshold])[e]? = none :=
      List.getElem?_eq_none (by simp; omega)
    rw [hnone, List.getElem?_eq_none (Nat.le_of_lt hgt)]
    exact .elsewhere (by simp) (by simp)

/-- Being attached to a router is one turn of the engine, and none of any other. -/
lemma turnsTo_attached {r : RouterId} {z : Router} (lock : LockId)
    (hengine : s.engines[e]? = some x) (hstate : x.state = .uninitialized)
    (hstarting : x.starting = false) (hinit : Entry.hook e .init ∈ s.history) :
    TurnsTo s (s.attached e r z lock) i := by
  have hengines : (s.attached e r z lock).engines =
      (s.onEngine e (Engine.attach r (s.slots.length + 1))).engines := rfl
  have hseen := engines_onEngine_self (f := Engine.attach r (s.slots.length + 1)) hengine
  refine turnsTo_of_turn _ (moments_noted _) hengine ?_ (fun i hne => ?_) ?_ ?_
  · rw [hengines, hseen]
    exact .attached r _ hstate hstarting hinit rfl (hengines ▸ hseen)
  · rw [hengines, engines_onEngine_of_ne hne]
  · simp [Entry.engine?]
  · intro m hm i hne
    rw [List.mem_singleton.mp hm]
    exact engines_onEngine_of_ne hne

/-- Leaving a router changes no engine but the one that leaves, which is deactivated. -/
lemma engines_left (why : Ending) :
    (s.left e x why).engines = (s.onEngine e Engine.deactivate).engines :=
  Assembly.engines_released _ _

/-- An engine that leaves its router is deactivated. -/
lemma engine_left (hengine : s.engines[e]? = some x) (why : Ending) :
    (s.left e x why).engines[e]? = some x.deactivate := by
  rw [engines_left, engines_onEngine_self hengine]

/-- Leaving a router is written down once, when the engine is deactivated but still listed. -/
lemma moments_left (why : Ending) : (s.left e x why).moments =
    s.moments ++ [⟨.deactivated e why, (s.onEngine e Engine.deactivate).toAssembly⟩] :=
  moments_noted _

/-- Leaving its router is one turn of the engine, and none of any other. -/
lemma turnsTo_left (hengine : s.engines[e]? = some x) (hstate : x.state = .active) :
    TurnsTo s (s.left e x .asked) i := by
  have hseen := engines_onEngine_self (f := Engine.deactivate) hengine
  refine turnsTo_of_turn _ (moments_left _) hengine ?_ (fun i hne => ?_) ?_ ?_
  · rw [engines_left, hseen]
    exact .left hstate rfl hseen
  · rw [engines_left, engines_onEngine_of_ne hne]
  · simp [Entry.engine?]
  · simpa using fun i hne => engines_onEngine_of_ne hne

/-- The three moments of an engine's last failure. -/
lemma moments_tripped {error : AspectError}
    (hquiet : Quiet ((s.onEngine e Engine.countFailure).noted (.batchOver e (some error))) t) :
    ((t.left e x .failing).closing e).moments = s.moments ++ [
      ⟨.batchOver e (some error), (s.onEngine e Engine.countFailure).toAssembly⟩,
      ⟨.deactivated e .failing, (t.onEngine e Engine.deactivate).toAssembly⟩,
      ⟨.hook e .shutdown, ((t.left e x .failing).onEngine e Engine.close).toAssembly⟩] := by
  have hmoments : t.moments =
      s.moments ++ [⟨.batchOver e (some error), (s.onEngine e Engine.countFailure).toAssembly⟩] := by
    rw [moments, hquiet.journal, ← moments_onEngine (f := Engine.countFailure), ← moments_noted]
    rfl
  rw [closing, moments_noted, moments_onEngine, moments_left, hmoments]
  simp

/-- While nothing happens that matters to engines, one whose failure was counted stays as it is. -/
lemma engine_quiet {error : AspectError} (hengine : s.engines[e]? = some x)
    (hquiet : Quiet ((s.onEngine e Engine.countFailure).noted (.batchOver e (some error))) t) :
    t.engines[e]? = some x.countFailure := by
  rw [hquiet.engines]
  exact engines_onEngine_self hengine

/-- An engine that has failed too often is deactivated and closed when its shutdown hook begins. -/
lemma engines_tripped {error : AspectError} (hengine : s.engines[e]? = some x)
    (hquiet : Quiet ((s.onEngine e Engine.countFailure).noted (.batchOver e (some error))) t) :
    ((t.left e x.countFailure .failing).closing e).engines[e]? =
      some x.countFailure.deactivate.close := by
  refine engines_onEngine_self ?_
  rw [engines_left, engines_onEngine_self (engine_quiet hengine hquiet)]

/-- The three moments in which an engine fails too often: its batch is over, it leaves its router,
and its shutdown hook begins. -/
lemma trip_tripped {error : AspectError} (hengine : s.engines[e]? = some x)
    (hquiet : Quiet ((s.onEngine e Engine.countFailure).noted (.batchOver e (some error))) t) :
    Engine.Trip e x.countFailure error [
      ⟨.batchOver e (some error), (s.onEngine e Engine.countFailure).toAssembly⟩,
      ⟨.deactivated e .failing, (t.onEngine e Engine.deactivate).toAssembly⟩,
      ⟨.hook e .shutdown, ((t.left e x.countFailure .failing).onEngine e Engine.close).toAssembly⟩] :=
  ⟨rfl, rfl, rfl, engines_onEngine_self hengine,
    engines_onEngine_self (engine_quiet hengine hquiet), rfl⟩

/-- An engine's last failure is a turn.

**Proof sketch.** The three moments are those of the failed batch, of the end and of the shutdown
hook.  Between them, only this engine and the lists of its router change. -/
lemma turnsTo_tripped (error : AspectError) (hengine : s.engines[e]? = some x)
    (hstate : x.state = .active) (hbusy : ¬ Idle e s.history) (hlimit : x.threshold ≤ x.errors + 1)
    (hquiet : Quiet ((s.onEngine e Engine.countFailure).noted (.batchOver e (some error))) t) :
    TurnsTo s ((t.left e x.countFailure .failing).closing e) i := by
  have hothers : ∀ i, e ≠ i → t.engines[i]? = s.engines[i]? := by
    intro i hne
    rw [hquiet.engines]
    exact engines_onEngine_of_ne hne
  have hleft : ∀ i, e ≠ i → (t.left e x.countFailure .failing).engines[i]? = s.engines[i]? := by
    intro i hne
    rw [engines_left, engines_onEngine_of_ne hne, hothers i hne]
  refine turnsTo_of_turn _ (moments_tripped hquiet) hengine ?_ (fun i hne => ?_) ?_ ?_
  · rw [engines_tripped hengine hquiet]
    exact .tripped error hstate hbusy hlimit (trip_tripped hengine hquiet)
  · exact (engines_onEngine_of_ne hne).trans (hleft i hne)
  · simp [Entry.engine?]
  · intro m hm i hne
    simp only [List.mem_cons, List.not_mem_nil, or_false] at hm
    rcases hm with rfl | rfl | rfl
    · exact engines_onEngine_of_ne hne
    · exact (engines_onEngine_of_ne hne).trans (hothers i hne)
    · exact (engines_onEngine_of_ne hne).trans (hleft i hne)

/-- When its last record is logged, the queue of an engine has been dropped; all other engines are
as they were. -/
lemma engines_finished (error : AspectError) (through : Option RouterId) :
    (s.finished e x error through).engines = (s.onEngine e Engine.takeAll).engines := by
  cases through <;> rfl

/-- The moments of an engine's farewell. -/
lemma moments_finished (error : AspectError) (through : Option RouterId) :
    (s.finished e x error through).moments = s.moments ++ ([
      ⟨.closed e, s.toAssembly⟩,
      ⟨.discarded e x.queue, (s.onEngine e Engine.takeAll).toAssembly⟩,
      ⟨.disabled e x.errors error, (s.onEngine e Engine.takeAll).toAssembly⟩] ++
      through.toList.map fun r => ⟨.logged r (lastRecord x.sink.name x.errors error),
        (s.onEngine e Engine.takeAll).toAssembly⟩) := by
  cases through <;> simp [System.finished] <;> rfl

/-- What is written down at the end of an engine that failed too often: the hook is over, the queue
is dropped, and the last record is logged if a router is there. -/
lemma history_finished (error : AspectError) (through : Option RouterId) :
    (s.finished e x error through).history = s.history ++ (([.closed e, .discarded e x.queue,
      .disabled e x.errors error] : List Entry) ++ through.toList.map fun r =>
        .logged r (lastRecord x.sink.name x.errors error)) := by
  simp [history, moments_finished, Function.comp_def]

/-- An engine's farewell is a turn.

**Proof sketch.** The moments are those of the closing, of the objects that are dropped and of the
end, and one more if there is a router to announce it.  The engine has dropped its queue in all but
the first. -/
lemma turnsTo_finished {before trip after : List Moment} (error : AspectError)
    (through : Option RouterId) (hengine : s.engines[e]? = some x) (hclosed : x.closed = true)
    (honce : Entry.closed e ∉ s.history) (hmoments : s.moments = before ++ trip ++ after)
    (htripped : Engine.Tripped e x.threshold error before trip after)
    (hrouter : ∀ r, through = some r → x.router = some r)
    (hunheard : through = none → ∀ r, x.router = some r →
      (∃ m ∈ trip, m.assembly.isAlive r = false) ∨ ∃ y, s.routers[r]? = some y ∧ y.filter = none) :
    TurnsTo s (s.finished e x error through) i := by
  have hseen := engines_onEngine_self (f := Engine.takeAll) hengine
  have hothers : ∀ i, e ≠ i → (s.onEngine e Engine.takeAll).engines[i]? = s.engines[i]? :=
    fun i hne => engines_onEngine_of_ne hne
  have hturn : ∀ {new : List Moment}, Engine.Farewell e x error trip new →
      Engine.Turn e s.moments (some x) new (s.finished e x error through).engines[e]? := by
    intro new hfarewell
    rw [engines_finished, hseen]
    exact .finished error hclosed honce hmoments htripped hfarewell
  have hrest : ∀ i, e ≠ i → (s.finished e x error through).engines[i]? = s.engines[i]? := by
    intro i hne
    rw [engines_finished, hothers i hne]
  refine turnsTo_of_turn _ (moments_finished error through) hengine ?_ hrest ?_ ?_
  · cases through with
    | none => exact hturn (.unheard rfl rfl rfl hengine hseen rfl (hunheard rfl))
    | some r => exact hturn (.heard r rfl rfl rfl rfl (hrouter r rfl) hengine hseen rfl rfl)
  · cases through <;> simp [Entry.engine?]
  · cases through <;> simpa using hothers

/-- **For each engine, a change is a turn.** -/
theorem Change.turn (hchange : Change s t) (i : EngineId) : TurnsTo s t i := by
  cases hchange with
  | quiet quiet => exact turnsTo_of_same quiet.engines quiet.journal
  | noted entry about => exact turnsTo_noted rfl rfl (by simp [about])
  | made sink threshold => exact turnsTo_made sink threshold
  | founded filter => exact turnsTo_of_same rfl rfl
  | shift f engine eq shift => exact turnsTo_shift engine eq shift
  | event f engine eq event alone => exact turnsTo_event engine eq event alone
  | enlisted g slot => exact turnsTo_of_same rfl rfl
  | withdrawn g keep gone all =>
    exact turnsTo_noted (t := s.onGroup g fun members => members.filter keep) rfl rfl
      (by simp [Entry.engine?])
  | shut router up => exact turnsTo_of_same rfl rfl
  | @cleared r y members router ended =>
    exact turnsTo_noted (t := s.onGroup y.defaults fun _ => []) rfl rfl (by simp [Entry.engine?])
  | attached lock engine state starting init router =>
    exact turnsTo_attached lock engine state starting init
  | left engine state => exact turnsTo_left engine state
  | tripped error engine state busy limit quiet =>
    exact turnsTo_tripped error engine state busy limit quiet
  | finished error through engine closed once moments tripped router unheard =>
    exact turnsTo_finished error through engine closed once moments tripped router unheard

end Turns

/-! ## What every change keeps -/

/-- Every engine lives a life of the steps that there are. -/
def Lives (s : System) : Prop := ∀ e, Engine.Life e s.moments s.engines[e]?

/-- Every engine has a career. -/
def Careers (s : System) : Prop :=
  ∀ e x, s.engines[e]? = some x → Engine.Career e s.moments x

section Kept

variable {s t : System} {e : EngineId} {x : Engine}

/-- The life of an engine, as the journal tells it. -/
lemma Lives.life (hlives : s.Lives) (hengine : s.engines[e]? = some x) :
    Engine.Life e s.moments (some x) :=
  hengine ▸ hlives e

/-- What holds of an engine at any time. -/
lemma Lives.vital (hlives : s.Lives) (hengine : s.engines[e]? = some x) : x.Vital e s.history :=
  (hlives.life hengine).vital

/-- Whatever is known of an engine, it was made. -/
lemma Lives.exists_engine {entry : Entry} (hlives : s.Lives) (habout : entry.engine? = some e)
    (hmem : entry ∈ s.history) : ∃ x, s.engines[e]? = some x := by
  cases hx : s.engines[e]? with
  | some x => exact ⟨x, rfl⟩
  | none =>
    have hlife := hlives e
    rw [hx] at hlife
    exact absurd habout (hlife.unheard entry hmem)

/-- Every change continues the lives of all engines. -/
lemma Change.lives (hlives : s.Lives) (hchange : Change s t) : t.Lives := by
  intro e
  obtain ⟨new, hmoments, hturn⟩ := hchange.turn e
  rw [hmoments]
  exact (hlives e).turn hturn

/-- Every change continues the careers of all engines. -/
lemma Change.careers (hlives : s.Lives) (hcareers : s.Careers) (hchange : Change s t) :
    t.Careers := by
  intro e y hengine
  obtain ⟨new, hmoments, hturn⟩ := hchange.turn e
  rw [hmoments]
  exact Engine.Career.turn (hlives e) (hcareers e) hturn y hengine

end Kept

end System

end NamespaceLogging
