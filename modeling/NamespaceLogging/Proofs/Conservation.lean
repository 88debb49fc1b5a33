import NamespaceLogging.Proofs.Order
import NamespaceLogging.Proofs.Programs

/-!
# No object is lost

An engine hands the objects that it queues over in the order in which they came, each of them once.
Whatever its sink does meanwhile, and however its batches end, every object that ever joined the queue
was handed over, or was dropped after the engine was closed, or is in the queue still.

## Main definitions

* `Engine.Conserved`: all objects that joined the queue are accounted for, in order.

## Main results

* `System.Point.conserved`: this holds at any time of any program.
-/

set_option autoImplicit false

namespace NamespaceLogging

open History

namespace Engine

variable {e : EngineId} {h : List Entry} {x y : Engine} {entry : Entry}

/-- All objects that joined the queue are accounted for, in order. -/
structure Conserved (e : EngineId) (h : List Entry) (x : Engine) : Prop where
  split : pushed e h = (batches e h).flatten ++ discarded e h ++ x.queue
  kept : x.closed = false → discarded e h = []

/-- A new engine, of which nothing was written down yet, has nothing to account for. -/
lemma Conserved.make (sink : Sink) (threshold : UInt32)
    (hunheard : ∀ entry ∈ h, entry.engine? ≠ some e) : Conserved e h (.make sink threshold) := by
  have hsilent := silent_of_forall hunheard
  constructor
  · simp [hsilent.pushed, hsilent.batches, hsilent.discarded, Engine.make]
  · exact fun _ => hsilent.discarded

namespace Conserved

/-- An entry that moves no object does not matter. -/
lemma pass (hconserved : Conserved e h x) (hpushed : pushed e [entry] = [])
    (hbatches : batches e [entry] = []) (hdiscarded : discarded e [entry] = [])
    (hqueue : y.queue = x.queue) (hclosed : y.closed = false → x.closed = false) :
    Conserved e (h ++ [entry]) y := by
  constructor
  · simp [hpushed, hbatches, hdiscarded, hqueue, hconserved.split]
  · intro hopen
    simp [hdiscarded, hconserved.kept (hclosed hopen)]

/-- An entry about another engine, or about none, leaves the account of an engine as it is. -/
lemma elsewhere (hconserved : Conserved e h x) (habout : entry.engine? ≠ some e) :
    Conserved e (h ++ [entry]) x := by
  have hsilent := silent_singleton habout
  exact hconserved.pass hsilent.pushed hsilent.batches hsilent.discarded rfl fun h => h

/-- A shift that the journal does not show moves no object, and so keeps the account. -/
lemma shift (hconserved : Conserved e h x) (hshift : x.Shift e h y) : Conserved e h y := by
  cases hshift <;> exact ⟨hconserved.split, hconserved.kept⟩

/-- The new object is the last one in the queue. -/
lemma queued (hconserved : Conserved e h x) (object : String) :
    Conserved e (h ++ [.queued e object]) (x.push object) := by
  have hbatches : batches e [.queued e object] = [] := rfl
  have hdiscarded : discarded e [.queued e object] = [] := rfl
  constructor
  · simp [hbatches, hdiscarded, hconserved.split, push]
  · intro hopen
    simp [hdiscarded, hconserved.kept hopen]

/-- The whole queue is handed over; nothing was dropped before. -/
lemma handedOver (hconserved : Conserved e h x) (hclosed : x.closed = false) :
    Conserved e (h ++ [.hook e (.batch x.queue)]) x.takeAll := by
  have hpushed : pushed e [.hook e (.batch x.queue)] = [] := rfl
  have hdiscarded : discarded e [.hook e (.batch x.queue)] = [] := rfl
  have hnone := hconserved.kept hclosed
  constructor
  · simp [hpushed, hdiscarded, hnone, hconserved.split, takeAll]
  · intro _
    simp [hdiscarded, hnone]

/-- The whole queue is dropped. -/
lemma dropped (hconserved : Conserved e h x) (hclosed : x.closed = true) :
    Conserved e (h ++ [.discarded e x.queue]) x.takeAll := by
  have hpushed : pushed e [.discarded e x.queue] = [] := rfl
  have hbatches : batches e [.discarded e x.queue] = [] := rfl
  constructor
  · simp [hpushed, hbatches, hconserved.split, takeAll]
  · intro hopen
    simp [takeAll, hclosed] at hopen

/-- Whatever an engine does by a single entry, its account stays right: an object that leaves the
queue is in a batch, or is dropped after the shutdown hook. -/
lemma event (hconserved : Conserved e h x) (hevent : x.Event e h y entry) :
    Conserved e (h ++ [entry]) y := by
  cases hevent with
  | queued object state => exact hconserved.queued object
  | batch closed queue drainer idle => exact hconserved.handedOver closed
  | discarded closed => exact hconserved.dropped closed
  | shutdown state closed => exact hconserved.pass rfl rfl rfl rfl fun _ => closed
  | _ => exact hconserved.pass rfl rfl rfl rfl fun hopen => hopen

end Conserved

/-- Living on, an engine accounts for all objects. -/
lemma Life.accounted {ms : List Moment} (hlife : Life e ms (some x)) :
    Conserved e (ms.map Moment.entry) x := by
  generalize hx : some x = o at hlife
  induction hlife generalizing x with
  | nobody => simp at hx
  | elsewhere life about seen ih => simpa using (ih hx).elsewhere about
  | made life sink threshold =>
    cases hx
    exact .make sink threshold life.unheard
  | shift life shift ih =>
    cases hx
    exact (ih rfl).shift shift
  | event life event seen ih =>
    cases hx
    simpa using (ih rfl).event event

end Engine

namespace System

variable {s : System} {e : EngineId} {h : List Entry} {x : Engine}

/-- **No object is lost, handed over twice or out of order.**  At any time of any program, the
objects that ever joined the queue of an engine are, in order, those of its batches, then those that
were dropped, then those that wait.  Objects are dropped only after the engine was closed: before
that, all of them are in a batch or wait.

**Proof sketch.** An engine takes the whole queue, either as a batch or to drop it, and drops objects
only when it is closed; from then on it hands nothing over.  So the objects that were dropped come
after those of all batches. -/
theorem Point.conserved (hs : s.Reachable) (hpoint : s.Point e h x) :
    pushed e h = (batches e h).flatten ++ discarded e h ++ x.queue ∧
      (batches e h).flatten <+: pushed e h ∧
      (x.closed = false → discarded e h = [] ∧ pushed e h = (batches e h).flatten ++ x.queue) ∧
      ∀ before objects after, h = before ++ Entry.discarded e objects :: after →
        Entry.hook e .shutdown ∈ before := by
  obtain ⟨ms, rfl, hlife⟩ := hpoint.life hs
  have hconserved := hlife.accounted
  refine ⟨hconserved.split, ?_, fun hclosed => ?_, fun before objects after heq => ?_⟩
  · rw [hconserved.split, List.append_assoc]
    exact List.prefix_append _ _
  · have hnone := hconserved.kept hclosed
    refine ⟨hnone, ?_⟩
    rw [hconserved.split, hnone, List.append_nil]
  · exact hlife.ordered before _ after heq rfl

/-- A sink that logs again in the middle of its first batch, and then fails. -/
def relapsingSink : SinkBehaviour Step :=
  smallSink
    (fun _ _ => [.take "again" (.onRouter "router" (.log (smallCall "y"))), .fail (.processing "bad")])
    fun _ => []

/-- With a threshold of one, the object that comes in the middle of the batch is dropped. -/
theorem conserved_of_relapse : ∃ x, (smallRun (smallProgram 1 relapsingSink "x")).engines[0]? = some x ∧
    batches 0 (smallRun (smallProgram 1 relapsingSink "x")).history = [["x"]] ∧
    discarded 0 (smallRun (smallProgram 1 relapsingSink "x")).history = ["y"] ∧
    pushed 0 (smallRun (smallProgram 1 relapsingSink "x")).history =
      (batches 0 (smallRun (smallProgram 1 relapsingSink "x")).history).flatten ++
        discarded 0 (smallRun (smallProgram 1 relapsingSink "x")).history ++ x.queue := by
  obtain ⟨x, hx⟩ := Option.isSome_iff_exists.mp
    (by decide +kernel : (smallRun (smallProgram 1 relapsingSink "x")).engines[0]?.isSome = true)
  exact ⟨x, hx, by decide +kernel, by decide +kernel,
    (Point.conserved (reachable_smallRun _) (.now hx)).1⟩

end System

end NamespaceLogging
