import Mathlib.Tactic.Lemma
import NamespaceLogging.System.History

/-!
# The life of an engine

An engine passes its life in small steps.  This module says which steps there are and in which
circumstances each of them is taken: the circumstances are read from the engine as it is and
from the history so far, never from the rest of the system.  Later modules prove that whatever a
program does, every engine lives such a life; so a rule about one engine needs to be checked on
these steps only.

## Main definitions

* `Engine.Shift`, `Engine.Event`: a step without and with an entry in the journal.
* `Engine.Life`: a life up to now, with the moments that were written down.

## Main results

* `Engine.Life.vital`: what holds of an engine at any time.
-/

set_option autoImplicit false

namespace NamespaceLogging

open History

namespace Engine

/-! ## Steps -/

/-- A step that leaves no entry in the journal; `h` is the history so far. -/
inductive Shift (e : EngineId) (h : List Entry) (x : Engine) : Engine → Prop
  /-- The sink has changed by its own work, or a call of a hook was counted. -/
  | tune (sink : Sink) (calls : HookCalls) (name : sink.name = x.sink.name) :
      Shift e h x { x with sink := sink, calls := calls }
  | beginInit (state : x.state = .uninitialized) (starting : x.starting = false) :
      Shift e h x x.beginInit
  | endInit (starting : x.starting = true) : Shift e h x x.endInit
  | beginDrain (thread : ThreadId) (drainer : x.drainer = none) : Shift e h x (x.beginDrain thread)
  | endDrain (idle : Idle e h) : Shift e h x x.endDrain

/-- A step with an entry in the journal; `h` is the history so far. -/
inductive Event (e : EngineId) (h : List Entry) (x : Engine) : Engine → Entry → Prop
  | init (state : x.state = .uninitialized) (starting : x.starting = true) :
      Event e h x x (.hook e .init)
  | activated (r : RouterId) (id : SlotId) (state : x.state = .uninitialized)
      (starting : x.starting = false) (init : Entry.hook e .init ∈ h) :
      Event e h x (x.attach r id) (.activated e r id)
  | record (id : RecordId) : Event e h x x (.hook e (.record id))
  | queued (object : String) (state : x.state ≠ .uninitialized) :
      Event e h x (x.push object) (.queued e object)
  | batch (closed : x.closed = false) (queue : x.queue ≠ []) (drainer : x.drainer ≠ none)
      (idle : Idle e h) : Event e h x x.takeAll (.hook e (.batch x.queue))
  | succeeded (busy : ¬ Idle e h) : Event e h x x (.batchOver e none)
  | failed (error : AspectError) (busy : ¬ Idle e h) :
      Event e h x x.countFailure (.batchOver e (some error))
  | deactivated (why : Ending) (state : x.state = .active) :
      Event e h x x.deactivate (.deactivated e why)
  | shutdown (state : x.state = .shutDown) (closed : x.closed = false) :
      Event e h x x.close (.hook e .shutdown)
  | closed (closed : x.closed = true) (once : Entry.closed e ∉ h) : Event e h x x (.closed e)
  | crashed (closed : x.closed = true) : Event e h x x (.crashed e)
  | discarded (closed : x.closed = true) : Event e h x x.takeAll (.discarded e x.queue)
  | disabled (errors : Nat) (error : AspectError) (closed : Entry.closed e ∈ h)
      (once : ∀ n err, Entry.disabled e n err ∉ h) : Event e h x x (.disabled e errors error)

/-- The life of an engine: the moments that were written down in the whole system, and the engine as
it is then, once it was made. -/
inductive Life (e : EngineId) : List Moment → Option Engine → Prop
  | nobody : Life e [] none
  /-- Something happened that is not about this engine. -/
  | elsewhere {ms : List Moment} {x : Option Engine} {m : Moment} (life : Life e ms x)
      (about : m.entry.engine? ≠ some e) (seen : m.assembly.engines[e]? = x) :
      Life e (ms ++ [m]) x
  | made {ms : List Moment} (life : Life e ms none) (sink : Sink) (threshold : UInt32) :
      Life e ms (some (.make sink threshold))
  | shift {ms : List Moment} {x y : Engine} (life : Life e ms (some x))
      (shift : x.Shift e (ms.map Moment.entry) y) : Life e ms (some y)
  | event {ms : List Moment} {x y : Engine} {m : Moment} (life : Life e ms (some x))
      (event : x.Event e (ms.map Moment.entry) y m.entry) (seen : m.assembly.engines[e]? = some y) :
      Life e (ms ++ [m]) (some y)

/-! ## What holds at any time -/

/-- The counters, flags and the queue of an engine agree with the history. -/
structure Vital (e : EngineId) (h : List Entry) (x : Engine) : Prop where
  errors : x.errors = failures e h
  /-- At most one batch is being processed. -/
  batches : (batches e h).length = (outcomes e h).length ∨
    (batches e h).length = (outcomes e h).length + 1
  /-- A batch is processed by the thread that drains. -/
  drainer : ¬ Idle e h → x.drainer ≠ none
  starting : x.starting = true → x.state = .uninitialized
  /-- Before its start, an engine has nothing to do. -/
  unused : x.state = .uninitialized → x.queue = [] ∧ History.batches e h = []
  closed_state : x.closed = true → x.state = .shutDown
  closings : closings e h = if x.closed then 1 else 0
  closed : Entry.closed e ∈ h → x.closed = true
  disabled : ∀ n error, Entry.disabled e n error ∈ h → Entry.closed e ∈ h

/-- An entry that tells of the start or the end of the engine. -/
def Landmark (e : EngineId) : Entry → Prop
  | .activated engine _ _ | .deactivated engine _ => engine = e
  | _ => False

/-- The state and the router of an engine are those that the landmarks in the history tell. -/
structure Marked (e : EngineId) (h : List Entry) (x : Engine) : Prop where
  started : x.state ≠ .uninitialized ↔ ∃ r id, Entry.activated e r id ∈ h
  ended : x.state = .shutDown ↔ ∃ why, Entry.deactivated e why ∈ h
  unique : ∀ r id r' id', Entry.activated e r id ∈ h → Entry.activated e r' id' ∈ h →
    r = r' ∧ id = id'
  router : ∀ r id, Entry.activated e r id ∈ h → x.router = some r

variable {e : EngineId} {h : List Entry} {x y : Engine} {entry : Entry}

/-- A new engine agrees with a history that does not know it. -/
theorem vital_make (sink : Sink) (threshold : UInt32)
    (unheard : ∀ entry ∈ h, entry.engine? ≠ some e) : Vital e h (make sink threshold) := by
  have silent := silent_of_forall unheard
  refine ⟨?_, ?_, ?_, ?_, ?_, ?_, ?_, ?_, ?_⟩
  · simp [make, silent.failures]
  · simp [silent.batches, silent.outcomes]
  · simp [Idle, silent.batches, silent.outcomes]
  · simp [make]
  · simp [make, silent.batches]
  · simp [make]
  · simp [make, silent.closings]
  · intro mem
    exact absurd rfl (unheard _ mem)
  · intro n error mem
    exact absurd rfl (unheard _ mem)

namespace Vital

/-- While nobody drains the engine, no batch is being processed. -/
theorem idle (v : Vital e h x) (drainer : x.drainer = none) : Idle e h :=
  Classical.byContradiction fun busy => v.drainer busy drainer

/-- An engine that was started is not starting any more. -/
theorem not_starting (v : Vital e h x) (state : x.state ≠ .uninitialized) : x.starting = false := by
  rw [Bool.eq_false_iff]
  exact fun starting => state (v.starting starting)

/-- An engine that has not ended is not closed. -/
theorem not_closed (v : Vital e h x) (state : x.state ≠ .shutDown) : x.closed = false := by
  rw [Bool.eq_false_iff]
  exact fun closed => state (v.closed_state closed)

/-- An entry that counts no batch and no closing leaves everything in agreement. -/
theorem uncounted (v : Vital e h x) (entry : Entry) (batches : History.batches e [entry] = [])
    (outcomes : History.outcomes e [entry] = []) (closings : History.closings e [entry] = 0)
    (closed : entry = .closed e → x.closed = true)
    (disabled : ∀ n error, entry = .disabled e n error → Entry.closed e ∈ h) :
    Vital e (h ++ [entry]) x := by
  refine ⟨?_, ?_, ?_, v.starting, ?_, v.closed_state, ?_, ?_, ?_⟩
  · simpa [failures, outcomes] using v.errors
  · simpa [batches, outcomes] using v.batches
  · simpa [Idle, batches, outcomes] using v.drainer
  · simpa [batches] using v.unused
  · simpa [closings] using v.closings
  · intro mem
    rcases List.mem_append.mp mem with mem | mem
    · exact v.closed mem
    · exact closed (List.mem_singleton.mp mem).symm
  · intro n error mem
    rcases List.mem_append.mp mem with mem | mem
    · exact List.mem_append_left _ (v.disabled n error mem)
    · exact List.mem_append_left _ (disabled n error (List.mem_singleton.mp mem).symm)

/-- What happens elsewhere does not matter to an engine. -/
theorem elsewhere (v : Vital e h x) (about : entry.engine? ≠ some e) :
    Vital e (h ++ [entry]) x := by
  have silent := silent_singleton about
  refine v.uncounted entry silent.batches silent.outcomes silent.closings (fun eq => ?_)
    fun _ _ eq => ?_
  · exact absurd (by rw [eq]; rfl) about
  · exact absurd (by rw [eq]; rfl) about

/-- A step without an entry keeps counters, flags and the queue in agreement with the history. -/
theorem shift (v : Vital e h x) (step : x.Shift e h y) : Vital e h y := by
  cases step with
  | tune sink calls name => exact { v with }
  | beginInit state starting =>
    obtain ⟨queue, none⟩ := v.unused state
    have zero : failures e h = 0 := by
      have := v.batches
      simp only [none, List.length_nil] at this
      have out : outcomes e h = [] := List.length_eq_zero_iff.mp (by omega)
      simp [failures, out]
    exact { v with errors := zero.symm, starting := fun _ => state }
  | endInit starting => exact { v with starting := by simp [endInit] }
  | beginDrain thread drainer => exact { v with drainer := by simp [beginDrain] }
  | endDrain idle => exact { v with drainer := fun busy => absurd idle busy }

/-- A batch that is over is counted, and no other is being processed. -/
theorem batchOver (v : Vital e h x) (error : Option AspectError) (busy : ¬ Idle e h) :
    Vital e (h ++ [.batchOver e error])
      { x with errors := x.errors + if error.isSome then 1 else 0 } := by
  have none : History.batches e [.batchOver e error] = [] := rfl
  have idle : Idle e (h ++ [.batchOver e error]) := by
    rcases v.batches with eq | eq
    · exact absurd eq.symm busy
    · simp [Idle, none, eq]
  refine ⟨?_, .inl idle.symm, fun still => absurd idle still, v.starting, ?_, v.closed_state, ?_,
    ?_, ?_⟩
  · cases error <;> simp [v.errors, failures]
  · simpa [none] using v.unused
  · have none : History.closings e [.batchOver e error] = 0 := rfl
    simpa [none] using v.closings
  · intro mem
    exact v.closed (by simpa using mem)
  · intro n error' mem
    exact List.mem_append_left _ (v.disabled n error' (by simpa using mem))

/-- A batch that is handed over is being processed. -/
theorem handOver (v : Vital e h x) (queue : x.queue ≠ []) (drainer : x.drainer ≠ none)
    (idle : Idle e h) : Vital e (h ++ [.hook e (.batch x.queue)]) x.takeAll := by
  have none : outcomes e [.hook e (.batch x.queue)] = [] := rfl
  refine ⟨?_, ?_, fun _ => drainer, v.starting, ?_, v.closed_state, ?_, ?_, ?_⟩
  · simpa [takeAll, failures, none] using v.errors
  · right
    simpa [Idle, none] using idle.symm
  · intro fresh
    exact absurd (v.unused fresh).1 queue
  · have none : History.closings e [.hook e (.batch x.queue)] = 0 := rfl
    change History.closings e (h ++ _) = if x.closed then 1 else 0
    simpa [none] using v.closings
  · intro mem
    exact v.closed (by simpa using mem)
  · intro n error mem
    exact List.mem_append_left _ (v.disabled n error (by simpa using mem))

/-- A step with an entry keeps counters, flags and the queue in agreement with the history. -/
theorem event (v : Vital e h x) (step : x.Event e h y entry) : Vital e (h ++ [entry]) y := by
  cases step with
  | init state starting => exact v.uncounted _ rfl rfl rfl (by simp) (by simp)
  | record id => exact v.uncounted _ rfl rfl rfl (by simp) (by simp)
  | activated r id state starting init =>
    have v' := v.uncounted (.activated e r id) rfl rfl rfl (by simp) (by simp)
    refine { v' with starting := ?_, unused := by simp [attach], closed_state := ?_ }
    · simp [attach, starting]
    · intro closed
      rw [v.closed_state closed] at state
      simp at state
  | queued object state =>
    have v' := v.uncounted (.queued e object) rfl rfl rfl (by simp) (by simp)
    exact { v' with unused := fun fresh => absurd fresh state }
  | batch closed queue drainer idle => exact v.handOver queue drainer idle
  | succeeded busy => exact v.batchOver none busy
  | failed error busy => exact v.batchOver (some error) busy
  | deactivated why state =>
    have v' := v.uncounted (.deactivated e why) rfl rfl rfl (by simp) (by simp)
    refine { v' with starting := ?_, unused := by simp [deactivate], closed_state := fun _ => rfl }
    intro starting
    rw [v.starting starting] at state
    simp at state
  | shutdown state closed =>
    have none : History.batches e [.hook e .shutdown] = [] := rfl
    have none' : outcomes e [.hook e .shutdown] = [] := rfl
    refine ⟨?_, ?_, ?_, v.starting, ?_, fun _ => state, ?_, fun _ => rfl, ?_⟩
    · simpa [close, failures, none'] using v.errors
    · simpa [none, none'] using v.batches
    · simpa [Idle, close, none, none'] using v.drainer
    · simpa [close, none] using v.unused
    · simp [close, v.closings, closed]
    · intro n error mem
      exact List.mem_append_left _ (v.disabled n error (by simpa using mem))
  | closed closed once => exact v.uncounted _ rfl rfl rfl (fun _ => closed) (by simp)
  | crashed closed => exact v.uncounted _ rfl rfl rfl (by simp) (by simp)
  | discarded closed =>
    have v' := v.uncounted (.discarded e x.queue) rfl rfl rfl (by simp) (by simp)
    exact { v' with unused := fun fresh => ⟨rfl, (v'.unused fresh).2⟩ }
  | disabled errors error closed once =>
    exact v.uncounted _ rfl rfl rfl (by simp) fun _ _ _ => closed

end Vital

namespace Marked

/-- An engine that was never started was never attached to a router. -/
lemma not_started (hmarked : Marked e h x) (hstate : x.state = .uninitialized) (r : RouterId)
    (id : SlotId) : Entry.activated e r id ∉ h :=
  fun hmem => hmarked.started.mpr ⟨r, id, hmem⟩ hstate

/-- An engine that has not ended was never deactivated. -/
lemma not_ended (hmarked : Marked e h x) (hstate : x.state ≠ .shutDown) (why : Ending) :
    Entry.deactivated e why ∉ h :=
  fun hmem => hstate (hmarked.ended.mpr ⟨why, hmem⟩)

/-- A new engine, about which nothing was written down, is as its history tells. -/
lemma make (sink : Sink) (threshold : UInt32) (hunheard : ∀ entry ∈ h, entry.engine? ≠ some e) :
    Marked e h (.make sink threshold) := by
  have hactivated : ∀ r id, Entry.activated e r id ∉ h := fun r id hmem => hunheard _ hmem rfl
  have hdeactivated : ∀ why, Entry.deactivated e why ∉ h := fun why hmem => hunheard _ hmem rfl
  constructor <;> simp [Engine.make, hactivated, hdeactivated]

/-- An entry that is no landmark does not matter. -/
lemma pass (hmarked : Marked e h x) (hmark : ¬ Landmark e entry) (hstate : y.state = x.state)
    (hrouter : y.router = x.router) : Marked e (h ++ [entry]) y := by
  have hmem : ∀ {entry' : Entry}, Landmark e entry' → (entry' ∈ h ++ [entry] ↔ entry' ∈ h) := by
    intro entry' hmark'
    rw [List.mem_append, or_iff_left]
    intro hin
    exact hmark (List.mem_singleton.mp hin ▸ hmark')
  have hactivated : ∀ {r id}, Landmark e (.activated e r id) := rfl
  have hdeactivated : ∀ {why}, Landmark e (.deactivated e why) := rfl
  refine ⟨?_, ?_, ?_, ?_⟩
  · simp only [hstate, hmarked.started, hmem hactivated]
  · simp only [hstate, hmarked.ended, hmem hdeactivated]
  · simp only [hmem hactivated]
    exact hmarked.unique
  · simp only [hrouter, hmem hactivated]
    exact hmarked.router

/-- A step without an entry passes no landmark, and leaves state and router as they are. -/
lemma shift (hmarked : Marked e h x) (hshift : x.Shift e h y) : Marked e h y := by
  cases hshift <;> exact ⟨hmarked.started, hmarked.ended, hmarked.unique, hmarked.router⟩

/-- A step with an entry leaves state and router as the landmarks then tell. -/
lemma event (hmarked : Marked e h x) (hevent : x.Event e h y entry) :
    Marked e (h ++ [entry]) y := by
  cases hevent with
  | activated r id state starting init =>
    have hnone := hmarked.not_started state
    have hnot := hmarked.not_ended (by simp [state])
    have hmem : ∀ r' id', Entry.activated e r' id' ∈ h ++ [.activated e r id] ↔
        r' = r ∧ id' = id := by
      simp [hnone]
    refine ⟨?_, ?_, ?_, ?_⟩
    · exact iff_of_true (by simp [attach]) ⟨r, id, by simp⟩
    · simpa [attach] using hnot
    · simp only [hmem]
      rintro _ _ _ _ ⟨rfl, rfl⟩ ⟨rfl, rfl⟩
      exact ⟨rfl, rfl⟩
    · simp only [hmem]
      rintro _ _ ⟨rfl, rfl⟩
      rfl
  | deactivated why state =>
    obtain ⟨r, id, hmem⟩ := hmarked.started.mp (by simp [state])
    refine ⟨?_, ?_, ?_, ?_⟩
    · exact iff_of_true (by simp [deactivate]) ⟨r, id, List.mem_append_left _ hmem⟩
    · exact iff_of_true rfl ⟨why, by simp⟩
    · simpa using hmarked.unique
    · simpa [deactivate] using hmarked.router
  | _ => exact hmarked.pass (fun hmark => hmark) rfl rfl

end Marked

/-! ## Lives -/

namespace Life

variable {ms : List Moment} {x : Option Engine}

/-- Nothing is known of an engine before it is made. -/
theorem unheard (life : Life e ms none) :
    ∀ entry ∈ ms.map Moment.entry, entry.engine? ≠ some e := by
  generalize eq : (none : Option Engine) = x at life
  induction life with
  | nobody => simp
  | elsewhere life about seen ih =>
    intro entry mem
    simp only [List.map_append, List.mem_append] at mem
    rcases mem with mem | mem
    · exact ih eq entry mem
    · simpa [List.mem_singleton.mp mem] using about
  | made | shift | event => simp at eq

/-- Things that happened elsewhere, one after the other. -/
theorem elsewhere_all {new : List Moment} (life : Life e ms x)
    (about : ∀ m ∈ new, m.entry.engine? ≠ some e)
    (seen : ∀ m ∈ new, m.assembly.engines[e]? = x) : Life e (ms ++ new) x := by
  induction new generalizing ms with
  | nil => simpa using life
  | cons m new ih =>
    rw [List.append_cons]
    refine ih (life.elsewhere (about m (by simp)) (seen m (by simp))) ?_ ?_
    · exact fun m' hm' => about m' (by simp [hm'])
    · exact fun m' hm' => seen m' (by simp [hm'])

/-- At a moment that was written down, the engine had had its life up to then. -/
theorem past {before after : List Moment} {m : Moment} (life : Life e ms x)
    (moments : ms = before ++ m :: after) : Life e (before ++ [m]) m.assembly.engines[e]? := by
  induction life generalizing after with
  | nobody => simp at moments
  | made life sink threshold ih => exact ih moments
  | shift life shift ih => exact ih moments
  | elsewhere life about seen ih =>
    rcases List.eq_nil_or_concat after with rfl | ⟨after, last, rfl⟩
    · obtain ⟨rfl, eq⟩ := List.append_inj' moments rfl
      cases eq
      exact seen ▸ life.elsewhere about seen
    · rw [List.concat_eq_append, ← List.cons_append, ← List.append_assoc] at moments
      exact ih (List.append_inj' moments rfl).1
  | event life event seen ih =>
    rcases List.eq_nil_or_concat after with rfl | ⟨after, last, rfl⟩
    · obtain ⟨rfl, eq⟩ := List.append_inj' moments rfl
      cases eq
      exact seen ▸ life.event event seen
    · rw [List.concat_eq_append, ← List.cons_append, ← List.append_assoc] at moments
      exact ih (List.append_inj' moments rfl).1

/-- At any time, an engine agrees with the history. -/
theorem vital {x : Engine} (life : Life e ms (some x)) : Vital e (ms.map Moment.entry) x := by
  generalize eq : some x = x' at life
  induction life generalizing x with
  | nobody => simp at eq
  | elsewhere life about seen ih =>
    simpa using (ih eq).elsewhere about
  | made life sink threshold =>
    cases eq
    exact vital_make sink threshold life.unheard
  | shift life shift ih =>
    cases eq
    exact (ih rfl).shift shift
  | event life event seen ih =>
    cases eq
    simpa using (ih rfl).event event

/-- At any time, the state of an engine is the one that the landmarks tell. -/
theorem marked {x : Engine} (life : Life e ms (some x)) : Marked e (ms.map Moment.entry) x := by
  generalize eq : some x = x' at life
  induction life generalizing x with
  | nobody => simp at eq
  | elsewhere life about seen ih =>
    rw [List.map_append]
    refine (ih eq).pass (fun hmark => about ?_) rfl rfl
    revert hmark
    cases Moment.entry _ <;> simp [Landmark, Entry.engine?]
  | made life sink threshold =>
    cases eq
    exact .make sink threshold life.unheard
  | shift life shift ih =>
    cases eq
    exact (ih rfl).shift shift
  | event life event seen ih =>
    cases eq
    simpa using (ih rfl).event event

end Life

end Engine

end NamespaceLogging
