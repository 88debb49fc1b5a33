import Mathlib.Tactic.Common
import NamespaceLogging.Proofs.Lives
import NamespaceLogging.System.Draining

/-!
# The turns of an engine

Some steps of an engine always come together: an engine that fails once too often leaves its router
and begins to close in one breath, and nobody else is called meanwhile.  A turn is what one change of
the whole system is for one engine.  Every turn is made of steps, so that lives go on by turns; but
a rule may be broken in the middle of a turn, and still hold whenever a hook runs.

## Main definitions

* `Assembly.detached`, `Assembly.released`: an assembly without the slot of an engine.
* `Engine.Trip`, `Engine.Farewell`: the two turns by which an engine ends that failed too often.
* `Engine.Turn`: all turns.
* `Engine.Career`: what holds of an engine between its turns.

## Main results

* `Engine.Life.turn`: a turn is made of steps.
* `Engine.Career.turn`: a career goes on by turns.
-/

set_option autoImplicit false

namespace NamespaceLogging

open History

/-! ## Assemblies -/

namespace Assembly

/-- The assembly with an engine changed. -/
def onEngine (a : Assembly) (e : EngineId) (change : Engine → Engine) : Assembly :=
  { a with engines := a.engines.modify e change }

/-- The assembly without a slot among the default handlers and attached engines of a router. -/
def detached (a : Assembly) (r : RouterId) (id : SlotId) : Assembly :=
  match a.routers[r]? with
  | none => a
  | some y =>
    { a with
      groups := a.groups.modify y.defaults fun members => members.filter (· != id)
      routers := a.routers.modify r fun y =>
        { y with aspects := y.aspects.filter fun entry => entry.1 != id } }

/-- The assembly after an engine has left its router, if that can still be reached. -/
def released (a : Assembly) (x : Engine) : Assembly :=
  match x.router, x.slot with
  | some r, some id => if a.isAlive r then a.detached r id else a
  | _, _ => a

/-- Taking a slot out of a router changes no engine. -/
@[simp]
lemma engines_detached (a : Assembly) (r : RouterId) (id : SlotId) :
    (a.detached r id).engines = a.engines := by
  unfold detached
  split <;> rfl

/-- Letting an engine leave its router changes no engine in any other way. -/
@[simp]
lemma engines_released (a : Assembly) (x : Engine) : (a.released x).engines = a.engines := by
  unfold released
  repeat' split
  all_goals simp

/-- The engines of an assembly after one of them was changed: that one is changed, all others are as
they were. -/
lemma engines_onEngine (a : Assembly) (e i : EngineId) (f : Engine → Engine) :
    (a.onEngine e f).engines[i]? = if e = i then a.engines[i]?.map f else a.engines[i]? := by
  simp only [onEngine, List.getElem?_modify]
  split <;> simp_all

end Assembly

namespace Engine

/-! ## Turns -/

/-- A step that is a turn of its own; `h` is the history so far. -/
def Alone (e : EngineId) (h : List Entry) (x : Engine) : Entry → Prop
  | .batchOver _ (some _) => x.state = .active → x.errors + 1 < x.threshold
  | .closed _ => Entry.deactivated e .asked ∈ h
  | .activated _ _ _ | .deactivated _ _ | .disabled _ _ _ => False
  | .hook _ .shutdown => Entry.deactivated e .asked ∈ h
  | _ => True

/-- The moments at which an engine ends that has failed too often: its last batch is over, and with
that the engine is `x`; it leaves its router, and its shutdown hook begins. -/
inductive Trip (e : EngineId) (x : Engine) (error : AspectError) : List Moment → Prop
  | intro {m₀ m₁ m₂ : Moment} (failed : m₀.entry = .batchOver e (some error))
      (deactivated : m₁.entry = .deactivated e .failing) (shutdown : m₂.entry = .hook e .shutdown)
      (seen₀ : m₀.assembly.engines[e]? = some x)
      (seen₁ : m₁.assembly.engines[e]? = some x.deactivate)
      (released : m₂.assembly = (m₁.assembly.released x).onEngine e close) :
      Trip e x error [m₀, m₁, m₂]

/-- The moments after the shutdown hook of such an engine has returned: what is queued is dropped, and
the end is announced through the router, unless that could not be reached when the engine failed, or
lets nothing through any more. -/
inductive Farewell (e : EngineId) (x : Engine) (error : AspectError) (trip : List Moment) :
    List Moment → Prop
  | heard {m₀ m₁ m₂ m₃ : Moment} (r : RouterId) (closed : m₀.entry = .closed e)
      (discarded : m₁.entry = .discarded e x.queue)
      (disabled : m₂.entry = .disabled e x.errors error)
      (logged : m₃.entry = .logged r (System.lastRecord x.sink.name x.errors error))
      (router : x.router = some r)
      (seen₀ : m₀.assembly.engines[e]? = some x)
      (seen₁ : m₁.assembly.engines[e]? = some x.takeAll)
      (same₂ : m₂.assembly = m₁.assembly) (same₃ : m₃.assembly = m₁.assembly) :
      Farewell e x error trip [m₀, m₁, m₂, m₃]
  | unheard {m₀ m₁ m₂ : Moment} (closed : m₀.entry = .closed e)
      (discarded : m₁.entry = .discarded e x.queue)
      (disabled : m₂.entry = .disabled e x.errors error)
      (seen₀ : m₀.assembly.engines[e]? = some x)
      (seen₁ : m₁.assembly.engines[e]? = some x.takeAll)
      (same₂ : m₂.assembly = m₁.assembly)
      (why : ∀ r, x.router = some r → (∃ m ∈ trip, m.assembly.isAlive r = false) ∨
        ∃ y, m₂.assembly.routers[r]? = some y ∧ y.filter = none) :
      Farewell e x error trip [m₀, m₁, m₂]

/-- Among the moments are those at which the engine failed once too often; afterwards it was handed
no batch any more. -/
structure Tripped (e : EngineId) (threshold : Nat) (error : AspectError)
    (before trip after : List Moment) : Prop where
  trip : ∃ x r id, Trip e x error trip ∧ x.router = some r ∧ x.slot = some id ∧
    Entry.activated e r id ∈ before.map Moment.entry
  count : failures e (before.map Moment.entry) + 1 = threshold
  idle : batches e (after.map Moment.entry) = []

/-- Later, the engine announced its end. -/
structure Finished (e : EngineId) (threshold : Nat) (error : AspectError)
    (before trip middle farewell after : List Moment) : Prop where
  tripped : Tripped e threshold error before trip (middle ++ farewell ++ after)
  farewell : ∃ x, Farewell e x error trip farewell ∧ x.errors = threshold

/-- What is written down when an engine fails once too often, before its shutdown hook runs. -/
lemma Trip.entries {e : EngineId} {x : Engine} {error : AspectError} {new : List Moment}
    (h : Trip e x error new) : new.map Moment.entry =
      [.batchOver e (some error), .deactivated e .failing, .hook e .shutdown] := by
  obtain ⟨failed, deactivated, shutdown, _, _, _⟩ := h
  simp [failed, deactivated, shutdown]

/-- What is written down when that hook has returned; the entries behind it, for the log call, are
about no engine. -/
lemma Farewell.entries {e : EngineId} {x : Engine} {error : AspectError} {trip new : List Moment}
    (h : Farewell e x error trip new) : ∃ logged : List Entry, (∀ entry ∈ logged, entry.engine? = none) ∧
      new.map Moment.entry =
        [.closed e, .discarded e x.queue, .disabled e x.errors error] ++ logged := by
  cases h with
  | heard r closed discarded disabled logged =>
    exact ⟨[.logged r (System.lastRecord x.sink.name x.errors error)], by simp [Entry.engine?],
      by simp [closed, discarded, disabled, logged]⟩
  | unheard closed discarded disabled => exact ⟨[], by simp, by simp [closed, discarded, disabled]⟩

/-- An engine that has failed too often was deactivated for that reason. -/
lemma Tripped.mem {e : EngineId} {threshold : Nat} {error : AspectError}
    {before trip after : List Moment} (h : Tripped e threshold error before trip after) :
    Entry.deactivated e .failing ∈ trip.map Moment.entry := by
  obtain ⟨_, _, _, trip, _⟩ := h.trip
  simp [trip.entries]

/-- What one change of the system is for one engine: `ms` are the moments before it. -/
inductive Turn (e : EngineId) (ms : List Moment) :
    Option Engine → List Moment → Option Engine → Prop
  /-- The change is not about this engine. -/
  | elsewhere {x : Option Engine} {new : List Moment} (about : ∀ m ∈ new, m.entry.engine? ≠ some e)
      (seen : ∀ m ∈ new, m.assembly.engines[e]? = x) : Turn e ms x new x
  | made (sink : Sink) (threshold : UInt32) : Turn e ms none [] (some (.make sink threshold))
  | shift {x y : Engine} (shift : x.Shift e (ms.map Moment.entry) y) : Turn e ms (some x) [] (some y)
  | event {x y : Engine} {m : Moment} (event : x.Event e (ms.map Moment.entry) y m.entry)
      (alone : x.Alone e (ms.map Moment.entry) m.entry) (seen : m.assembly.engines[e]? = some y) :
      Turn e ms (some x) [m] (some y)
  | attached {x : Engine} {m : Moment} (r : RouterId) (id : SlotId) (state : x.state = .uninitialized)
      (starting : x.starting = false) (init : Entry.hook e .init ∈ ms.map Moment.entry)
      (entry : m.entry = .activated e r id) (seen : m.assembly.engines[e]? = some (x.attach r id)) :
      Turn e ms (some x) [m] (some (x.attach r id))
  | left {x : Engine} {m : Moment} (state : x.state = .active)
      (entry : m.entry = .deactivated e .asked)
      (seen : m.assembly.engines[e]? = some x.deactivate) : Turn e ms (some x) [m] (some x.deactivate)
  | tripped {x : Engine} {new : List Moment} (error : AspectError) (state : x.state = .active)
      (busy : ¬ Idle e (ms.map Moment.entry)) (limit : x.threshold ≤ x.errors + 1)
      (trip : Trip e x.countFailure error new) :
      Turn e ms (some x) new (some x.countFailure.deactivate.close)
  | finished {x : Engine} {new before trip after : List Moment} (error : AspectError)
      (closed : x.closed = true) (once : Entry.closed e ∉ ms.map Moment.entry)
      (moments : ms = before ++ trip ++ after) (tripped : Tripped e x.threshold error before trip after)
      (farewell : Farewell e x error trip new) : Turn e ms (some x) new (some x.takeAll)

/-! ## Lives go on by turns -/

variable {e : EngineId} {ms new : List Moment}

/-- Failing for the last time, an engine takes three steps. -/
lemma Life.trip {x : Engine} {error : AspectError} (hlife : Life e ms (some x))
    (hstate : x.state = .active) (hbusy : ¬ Idle e (ms.map Moment.entry))
    (htrip : Trip e x.countFailure error new) :
    Life e (ms ++ new) (some x.countFailure.deactivate.close) := by
  have hclosed : x.closed = false := hlife.vital.not_closed (by simp [hstate])
  obtain @⟨m₀, m₁, m₂, failed, deactivated, shutdown, seen₀, seen₁, released⟩ := htrip
  have h₁ := hlife.event (failed ▸ .failed error hbusy) seen₀
  have h₂ := h₁.event (deactivated ▸ .deactivated .failing hstate) seen₁
  have seen₂ : m₂.assembly.engines[e]? = some x.countFailure.deactivate.close := by
    rw [released, Assembly.engines_onEngine]
    simp [seen₁]
  have h₃ := h₂.event (shutdown ▸ .shutdown rfl hclosed) seen₂
  simpa using h₃

/-- Announcing its end, an engine takes three steps. -/
lemma Life.farewell {x : Engine} {error : AspectError} {trip : List Moment} (hlife : Life e ms (some x))
    (hclosed : x.closed = true) (honce : Entry.closed e ∉ ms.map Moment.entry)
    (hfarewell : Farewell e x error trip new) : Life e (ms ++ new) (some x.takeAll) := by
  have hdisabled := hlife.vital.disabled
  have key : ∀ {m₀ m₁ m₂ : Moment}, m₀.entry = .closed e → m₁.entry = .discarded e x.queue →
      m₂.entry = .disabled e x.errors error → m₀.assembly.engines[e]? = some x →
      m₁.assembly.engines[e]? = some x.takeAll → m₂.assembly = m₁.assembly →
      Life e (ms ++ [m₀, m₁, m₂]) (some x.takeAll) := by
    intro m₀ m₁ m₂ closed discarded disabled seen₀ seen₁ same₂
    have h₁ := hlife.event (closed ▸ .closed hclosed honce) seen₀
    have h₂ := h₁.event (discarded ▸ .discarded hclosed) seen₁
    have h₃ := h₂.event (y := x.takeAll) (disabled ▸ .disabled x.errors error (by simp [closed]) (by
      intro n err hmem
      simp only [List.map_append, List.map_cons, List.map_nil, closed, discarded,
        List.append_assoc] at hmem
      exact honce (hdisabled n err (by simpa using hmem)))) (same₂ ▸ seen₁)
    simpa using h₃
  cases hfarewell with
  | heard r closed discarded disabled logged router seen₀ seen₁ same₂ same₃ =>
    have h := (key closed discarded disabled seen₀ seen₁ same₂).elsewhere
      (by rw [logged]; simp [Entry.engine?]) (same₃ ▸ seen₁)
    simpa using h
  | unheard closed discarded disabled seen₀ seen₁ same₂ =>
    exact key closed discarded disabled seen₀ seen₁ same₂

/-- **A turn is made of steps.** -/
theorem Life.turn {x y : Option Engine} (hlife : Life e ms x) (hturn : Turn e ms x new y) :
    Life e (ms ++ new) y := by
  cases hturn with
  | elsewhere about seen => exact hlife.elsewhere_all about seen
  | made sink threshold => simpa using hlife.made sink threshold
  | shift shift => simpa using hlife.shift shift
  | event event alone seen => exact hlife.event event seen
  | attached r id state starting init entry seen =>
    exact hlife.event (entry ▸ .activated r id state starting init) seen
  | left state entry seen => exact hlife.event (entry ▸ .deactivated .asked state) seen
  | tripped error state busy limit trip => exact hlife.trip state busy trip
  | finished error closed once moments tripped farewell => exact hlife.farewell closed once farewell

/-! ## Careers -/

/-- The engine failed once too often, and has announced its end. -/
def AllOver (e : EngineId) (threshold : Nat) (ms : List Moment) : Prop :=
  ∃ error before trip middle farewell after,
    ms = before ++ trip ++ middle ++ farewell ++ after ∧
      Finished e threshold error before trip middle farewell after

/-- What holds of an engine between its turns. -/
structure Career (e : EngineId) (ms : List Moment) (x : Engine) : Prop
    extends Marked e (ms.map Moment.entry) x where
  below : x.state = .active → x.errors < x.threshold
  slot : ∀ r id, Entry.activated e r id ∈ ms.map Moment.entry → x.state = .active → x.slot = some id
  slotless : x.state ≠ .active → x.slot = none
  tripped : Entry.deactivated e .failing ∈ ms.map Moment.entry →
    x.errors = x.threshold ∧ x.closed = true ∧ Idle e (ms.map Moment.entry) ∧
      Entry.deactivated e .asked ∉ ms.map Moment.entry ∧
      ∃ error before trip after, ms = before ++ trip ++ after ∧
        Tripped e x.threshold error before trip after
  finished : Entry.closed e ∈ ms.map Moment.entry →
    Entry.deactivated e .asked ∈ ms.map Moment.entry ∨ AllOver e x.threshold ms

namespace Career

variable {x y : Engine}

/-- The counter of an active engine stays below its threshold, and so within 32 bits. -/
lemma errors_lt_of_active (hcareer : Career e ms x) (hstate : x.state = .active) :
    x.errors < UInt32.size :=
  Nat.lt_trans (hcareer.below hstate) x.threshold_lt

/-- **A career goes on** as long as no landmark is passed. -/
lemma extend (hcareer : Career e ms x) (hmarked : Marked e ((ms ++ new).map Moment.entry) y)
    (hnew : ∀ m ∈ new, ¬ Landmark e m.entry)
    (hthreshold : y.threshold = x.threshold) (hstate : y.state = x.state)
    (hslot : y.slot = x.slot)
    (hbelow : y.state = .active → y.errors < y.threshold)
    (hclosed : x.closed = true → Idle e (ms.map Moment.entry) →
      y.errors = x.errors ∧ y.closed = true ∧ batches e (new.map Moment.entry) = [] ∧
        outcomes e (new.map Moment.entry) = [])
    (hfinished : Entry.closed e ∈ new.map Moment.entry →
      Entry.deactivated e .asked ∈ ms.map Moment.entry ∨ AllOver e y.threshold (ms ++ new)) :
    Career e (ms ++ new) y := by
  have hmem : ∀ {entry : Entry}, Landmark e entry →
      (entry ∈ (ms ++ new).map Moment.entry ↔ entry ∈ ms.map Moment.entry) := by
    intro entry hmark
    rw [List.map_append, List.mem_append, or_iff_left]
    intro h
    obtain ⟨m, hm, rfl⟩ := List.mem_map.mp h
    exact hnew m hm hmark
  have hactivated : ∀ {r id}, Landmark e (.activated e r id) := rfl
  have hdeactivated : ∀ {why}, Landmark e (.deactivated e why) := rfl
  refine ⟨hmarked, hbelow, ?_, ?_, ?_, ?_⟩
  · simp only [hmem hactivated, hstate, hslot]
    exact hcareer.slot
  · simp only [hstate, hslot]
    exact hcareer.slotless
  · simp only [hmem hdeactivated, hthreshold]
    intro h
    obtain ⟨herrors, hx, hidle, hunasked, error, before, trip, after, rfl, htripped⟩ :=
      hcareer.tripped h
    obtain ⟨hy, hyclosed, hbatches, houtcomes⟩ := hclosed hx hidle
    refine ⟨hy.trans herrors, hyclosed, ?_, hunasked, error, before, trip, after ++ new, by simp, ?_⟩
    · simpa [Idle, hbatches, houtcomes] using hidle
    · exact { htripped with idle := by simp [htripped.idle, hbatches] }
  · rw [hmem hdeactivated, List.map_append, List.mem_append]
    rintro (h | h)
    · refine (hcareer.finished h).imp_right ?_
      rintro ⟨error, before, trip, middle, farewell, after, rfl, hover⟩
      obtain ⟨-, hx, hidle, -⟩ := hcareer.tripped (by simp [hover.tripped.mem])
      obtain ⟨-, -, hbatches, -⟩ := hclosed hx hidle
      rw [hthreshold]
      refine ⟨error, before, trip, middle, farewell, after ++ new, by simp, ?_, hover.farewell⟩
      refine { hover.tripped with idle := ?_ }
      rw [← List.append_assoc, List.map_append, batches_append, hover.tripped.idle, hbatches]
      rfl
    · exact hfinished h

/-- Something that is not about the engine does not matter to its career. -/
lemma elsewhere (hcareer : Career e ms x) (hmarked : Marked e ((ms ++ new).map Moment.entry) x)
    (hnew : ∀ m ∈ new, m.entry.engine? ≠ some e) : Career e (ms ++ new) x := by
  have hsilent : Silent e (new.map Moment.entry) := by
    refine silent_of_forall fun entry h => ?_
    obtain ⟨m, hm, rfl⟩ := List.mem_map.mp h
    exact hnew m hm
  refine hcareer.extend hmarked (fun m hm hmark => ?_) rfl rfl rfl hcareer.below
    (fun hx _ => ⟨rfl, hx, hsilent.batches, hsilent.outcomes⟩) fun h => ?_
  · have := hnew m hm
    revert hmark this
    cases m.entry <;> simp [Landmark, Entry.engine?]
  · obtain ⟨m, hm, hentry⟩ := List.mem_map.mp h
    exact absurd (by simp [hentry, Entry.engine?]) (hnew m hm)

/-- A shift does not matter to the career: the counter begins anew before the start only. -/
lemma shift (hcareer : Career e ms x) (hvital : Vital e (ms.map Moment.entry) x)
    (hshift : x.Shift e (ms.map Moment.entry) y) : Career e ms y := by
  have key : y.threshold = x.threshold → y.state = x.state → y.slot = x.slot →
      y.closed = x.closed → (y.errors = x.errors ∨ x.state = .uninitialized) → Career e ms y := by
    intro hthreshold hstate hslot hclosed herrors
    have hmarked := hcareer.toMarked.shift hshift
    rw [← List.append_nil ms] at hmarked ⊢
    refine hcareer.extend hmarked (by simp) hthreshold hstate hslot ?_ (fun hx _ => ?_) (by simp)
    · rcases herrors with h | h
      · rw [hthreshold, hstate, h]
        exact hcareer.below
      · simp [hstate, h]
    · rcases herrors with h | h
      · exact ⟨h, hclosed.trans hx, rfl, rfl⟩
      · rw [hvital.closed_state hx] at h
        simp at h
  cases hshift with
  | tune sink calls name => exact key rfl rfl rfl rfl (.inl rfl)
  | beginInit state starting => exact key rfl rfl rfl rfl (.inr state)
  | endInit starting => exact key rfl rfl rfl rfl (.inl rfl)
  | beginDrain thread drainer => exact key rfl rfl rfl rfl (.inl rfl)
  | endDrain idle => exact key rfl rfl rfl rfl (.inl rfl)

/-- A step that is a turn of its own passes no landmark. -/
lemma event {m : Moment} (hcareer : Career e ms x)
    (hevent : x.Event e (ms.map Moment.entry) y m.entry)
    (halone : x.Alone e (ms.map Moment.entry) m.entry) : Career e (ms ++ [m]) y := by
  generalize hentry : m.entry = entry at hevent halone
  have key : ¬ Landmark e entry → y.threshold = x.threshold → y.state = x.state →
      y.router = x.router → y.slot = x.slot → (y.state = .active → y.errors < y.threshold) →
      (x.closed = true → Idle e (ms.map Moment.entry) →
        y.errors = x.errors ∧ y.closed = true ∧ batches e [entry] = [] ∧ outcomes e [entry] = []) →
      Career e (ms ++ [m]) y := by
    intro hmark hthreshold hstate hrouter hslot hbelow hclosed
    refine hcareer.extend ?_ ?_ hthreshold hstate hslot hbelow ?_ fun h => .inl ?_
    · simpa [hentry] using hcareer.pass hmark hstate hrouter
    · simpa [hentry] using hmark
    · simpa [hentry] using hclosed
    · obtain rfl : .closed e = entry := by simpa [hentry] using h
      exact halone
  cases hevent with
  | init state starting => exact key id rfl rfl rfl rfl hcareer.below fun hx _ => ⟨rfl, hx, rfl, rfl⟩
  | activated r id state starting init => exact halone.elim
  | record record =>
    exact key id rfl rfl rfl rfl hcareer.below fun hx _ => ⟨rfl, hx, rfl, rfl⟩
  | queued object state =>
    exact key id rfl rfl rfl rfl hcareer.below fun hx _ => ⟨rfl, hx, rfl, rfl⟩
  | batch closed queue drainer idle =>
    refine key id rfl rfl rfl rfl hcareer.below fun hx _ => ?_
    simp [closed] at hx
  | succeeded busy =>
    exact key id rfl rfl rfl rfl hcareer.below fun _ hidle => absurd hidle busy
  | failed error busy =>
    exact key id rfl rfl rfl rfl halone fun _ hidle => absurd hidle busy
  | deactivated why state => exact halone.elim
  | shutdown state closed =>
    refine key id rfl rfl rfl rfl hcareer.below fun hx _ => ?_
    simp [closed] at hx
  | closed closed once =>
    exact key id rfl rfl rfl rfl hcareer.below fun hx _ => ⟨rfl, hx, rfl, rfl⟩
  | crashed closed =>
    exact key id rfl rfl rfl rfl hcareer.below fun hx _ => ⟨rfl, hx, rfl, rfl⟩
  | discarded closed =>
    exact key id rfl rfl rfl rfl hcareer.below fun hx _ => ⟨rfl, hx, rfl, rfl⟩
  | disabled errors error closed once => exact halone.elim

/-- An engine that has not ended is not closed, and nothing in the history says so. -/
lemma not_closed (hvital : Vital e (ms.map Moment.entry) x) (hstate : x.state ≠ .shutDown) :
    x.closed = false ∧ Entry.closed e ∉ ms.map Moment.entry :=
  ⟨hvital.not_closed hstate, fun h => hstate (hvital.closed_state (hvital.closed h))⟩

/-- A new engine is at the beginning of its career. -/
lemma make (sink : Sink) (threshold : UInt32) (hnew : ∀ m ∈ ms, m.entry.engine? ≠ some e) :
    Career e ms (.make sink threshold) := by
  have hmem : ∀ {entry : Entry}, entry.engine? = some e → entry ∉ ms.map Moment.entry := by
    intro entry hentry h
    obtain ⟨m, hm, rfl⟩ := List.mem_map.mp h
    exact hnew m hm hentry
  have hactivated : ∀ {r id}, Entry.activated e r id ∉ ms.map Moment.entry := hmem rfl
  have hdeactivated : ∀ {why}, Entry.deactivated e why ∉ ms.map Moment.entry := hmem rfl
  have hclosed : Entry.closed e ∉ ms.map Moment.entry := hmem rfl
  constructor
  · exact Marked.make sink threshold fun entry h hentry => hmem hentry h
  all_goals simp [Engine.make, hactivated, hdeactivated, hclosed, -List.mem_map]

/-- An engine that has started is at the beginning of its work. -/
lemma attached {m : Moment} {r : RouterId} {id : SlotId} (hcareer : Career e ms x)
    (hvital : Vital e (ms.map Moment.entry) x) (hstate : x.state = .uninitialized)
    (hmarked : Marked e ((ms ++ [m]).map Moment.entry) (x.attach r id))
    (hentry : m.entry = .activated e r id) : Career e (ms ++ [m]) (x.attach r id) := by
  have hactivated := hcareer.not_started hstate
  have hdeactivated := hcareer.not_ended (by simp [hstate])
  have hclosed := (not_closed hvital (by simp [hstate])).2
  have herrors : x.errors = 0 := by
    have hnone := (hvital.unused hstate).2
    have hlength : (outcomes e (ms.map Moment.entry)).length = 0 := by
      have := hvital.batches
      simp only [hnone, List.length_nil] at this
      omega
    rw [hvital.errors, failures, List.length_eq_zero_iff.mp hlength]
    rfl
  have hmem : ∀ r' id', Entry.activated e r' id' ∈ (ms ++ [m]).map Moment.entry ↔
      r' = r ∧ id' = id := by
    intro r' id'
    rw [List.map_append, List.mem_append, or_iff_right (hactivated r' id')]
    simp [hentry]
  have hended : ∀ why, Entry.deactivated e why ∉ (ms ++ [m]).map Moment.entry := by
    intro why
    rw [List.map_append, List.mem_append, or_iff_right (hdeactivated why)]
    simp [hentry]
  refine ⟨hmarked, fun _ => ?_, ?_, ?_, ?_, ?_⟩
  · exact lt_of_eq_of_lt herrors x.threshold_pos
  · simp only [hmem]
    rintro _ _ ⟨rfl, rfl⟩ -
    rfl
  · exact fun h => absurd rfl h
  · exact fun h => absurd h (hended _)
  · rw [List.map_append, List.mem_append, or_iff_right hclosed]
    simp [hentry]

/-- An engine that was told to stop has ended. -/
lemma left {m : Moment} (hcareer : Career e ms x) (hstate : x.state = .active)
    (hmarked : Marked e ((ms ++ [m]).map Moment.entry) x.deactivate)
    (hentry : m.entry = .deactivated e .asked) : Career e (ms ++ [m]) x.deactivate := by
  have hdeactivated := hcareer.not_ended (by simp [hstate])
  have hasked : Entry.deactivated e .asked ∈ (ms ++ [m]).map Moment.entry := by
    simp [hentry]
  refine ⟨hmarked, ?_, ?_, ?_, ?_, ?_⟩
  · simp [deactivate]
  · simp [deactivate]
  · exact fun _ => rfl
  · intro h
    rw [List.map_append, List.mem_append, or_iff_right (hdeactivated _)] at h
    simp [hentry] at h
  · exact fun _ => .inl hasked

/-- An engine that failed once too often has ended, and has begun to close. -/
lemma trip {error : AspectError} (hcareer : Career e ms x)
    (hvital : Vital e (ms.map Moment.entry) x) (hstate : x.state = .active)
    (hmarked : Marked e ((ms ++ new).map Moment.entry) x.countFailure.deactivate.close)
    (hbusy : ¬ Idle e (ms.map Moment.entry)) (hlimit : x.threshold ≤ x.errors + 1)
    (htrip : Trip e x.countFailure error new) :
    Career e (ms ++ new) x.countFailure.deactivate.close := by
  have hdeactivated := hcareer.not_ended (by simp [hstate])
  have hclosed := (not_closed hvital (by simp [hstate])).2
  have hcount : x.errors + 1 = x.threshold := by
    have := hcareer.below hstate
    omega
  obtain ⟨r, id, hactivated⟩ := hcareer.started.mp (by simp [hstate])
  have hentries := htrip.entries
  have hover : outcomes e (new.map Moment.entry) = [some error] := by
    rw [hentries]
    simp [outcomes]
  have hnone : batches e (new.map Moment.entry) = [] := by
    rw [hentries]
    rfl
  refine ⟨hmarked, ?_, ?_, ?_, fun _ => ⟨hcount, rfl, ?_, ?_, ?_⟩, ?_⟩
  · simp [deactivate, close]
  · simp [deactivate, close]
  · exact fun _ => rfl
  · have hopen : (batches e (ms.map Moment.entry)).length =
        (outcomes e (ms.map Moment.entry)).length + 1 :=
      hvital.batches.resolve_left fun h => hbusy h.symm
    simp [Idle, hover, hnone, hopen]
  · rw [List.map_append, List.mem_append, or_iff_right (hdeactivated _)]
    simp [hentries]
  · refine ⟨error, ms, new, [], by simp, ⟨_, r, id, htrip, hcareer.router r id hactivated,
      hcareer.slot r id hactivated hstate, hactivated⟩, ?_, rfl⟩
    rw [← hvital.errors]
    exact hcount
  · rw [List.map_append, List.mem_append, or_iff_right hclosed]
    simp [hentries]

/-- Announcing its end, an engine is all over. -/
lemma farewell {error : AspectError} {before trip after : List Moment} (hcareer : Career e ms x)
    (hmarked : Marked e ((ms ++ new).map Moment.entry) x.takeAll)
    (hclosed : x.closed = true) (hmoments : ms = before ++ trip ++ after)
    (htripped : Tripped e x.threshold error before trip after) (hfarewell : Farewell e x error trip new) :
    Career e (ms ++ new) x.takeAll := by
  obtain ⟨logged, hlogged, hentries⟩ := hfarewell.entries
  have hsilent : Silent e logged :=
    silent_of_forall fun entry h => by simp [hlogged entry h]
  have hover : outcomes e (new.map Moment.entry) = [] := by
    rw [hentries, outcomes_append, hsilent.outcomes]
    rfl
  have hnone : batches e (new.map Moment.entry) = [] := by
    rw [hentries, batches_append, hsilent.batches]
    rfl
  have hfailed : Entry.deactivated e .failing ∈ ms.map Moment.entry := by
    simp [hmoments, htripped.mem, -List.mem_map]
  refine hcareer.extend hmarked (fun m hm hmark => ?_) rfl rfl rfl hcareer.below
    (fun _ _ => ⟨rfl, hclosed, hnone, hover⟩) fun _ => .inr ?_
  · have hmem : m.entry ∈ new.map Moment.entry := List.mem_map_of_mem hm
    rw [hentries, List.mem_append] at hmem
    rcases hmem with hmem | hmem
    · revert hmark
      simp only [List.mem_cons, List.not_mem_nil, or_false] at hmem
      rcases hmem with h | h | h <;> simp [h, Landmark]
    · have := hlogged _ hmem
      revert hmark this
      cases m.entry <;> simp [Landmark, Entry.engine?]
  · refine ⟨error, before, trip, after, new, [], by simp [hmoments], ?_, x, hfarewell,
      (hcareer.tripped hfailed).1⟩
    refine { htripped with idle := ?_ }
    simp [htripped.idle, hnone]

end Career

/-- **A career goes on by turns.** -/
theorem Career.turn {y : Option Engine} {x : Option Engine} (hlife : Life e ms x)
    (hcareer : ∀ z, x = some z → Career e ms z) (hturn : Turn e ms x new y) :
    ∀ z, y = some z → Career e (ms ++ new) z := by
  rintro z rfl
  have hmarked := (hlife.turn hturn).marked
  cases hturn with
  | elsewhere about seen => exact (hcareer z rfl).elsewhere hmarked about
  | made sink threshold =>
    simpa using Career.make sink threshold fun m hm =>
      hlife.unheard m.entry (List.mem_map_of_mem hm)
  | shift shift => simpa using (hcareer _ rfl).shift hlife.vital shift
  | event event alone seen => exact (hcareer _ rfl).event event alone
  | attached r id state starting init entry seen =>
    exact (hcareer _ rfl).attached hlife.vital state hmarked entry
  | left state entry seen => exact (hcareer _ rfl).left state hmarked entry
  | tripped error state busy limit trip =>
    exact (hcareer _ rfl).trip hlife.vital state hmarked busy limit trip
  | finished error closed once moments tripped farewell =>
    exact (hcareer _ rfl).farewell hmarked closed moments tripped farewell

end Engine

end NamespaceLogging
