import NamespaceLogging.Proofs.Conservation

/-!
# The last flush

An engine that is told to stop takes no more records, hands over what is queued, and closes.  However
its batches end, and whatever its hooks do meanwhile, this comes to its end: since nothing joins the
queue any more, the second drain finds nothing.  Failures are counted, but the engine does not retire,
as it has ended already.

## Main definitions

* `System.Hangs`: a call that does not come to its end, because a hook does not.
* `System.Emptied`, `System.Flushed`: an engine was told to stop, and has handed over all that waited;
  and then it has closed.

## Main results

* `System.drainAll_cases`: draining an engine that was told to stop ends, unless a hook hangs.
* `System.stopEngine_flushed`: stopping an engine is a complete flush, unless a hook hangs.
-/

set_option autoImplicit false

namespace NamespaceLogging

open Act History

namespace Engine

variable {e : EngineId} {h new : List Entry} {x y : Engine}

/-- If nothing joined the queue and the engine is not closed, what waited then was handed over since,
in order, or waits still. -/
lemma Conserved.unfed (hx : Conserved e h x) (hy : Conserved e (h ++ new) y)
    (hpushed : pushed e (h ++ new) = pushed e h) (hxclosed : x.closed = false)
    (hyclosed : y.closed = false) : (batches e new).flatten ++ y.queue = x.queue := by
  have hsplit : (batches e h).flatten ++ x.queue =
      (batches e h).flatten ++ ((batches e new).flatten ++ y.queue) := by
    calc (batches e h).flatten ++ x.queue
        = pushed e h := by simp [hx.split, hx.kept hxclosed]
      _ = pushed e (h ++ new) := hpushed.symm
      _ = (batches e h).flatten ++ ((batches e new).flatten ++ y.queue) := by
        simp [hy.split, hy.kept hyclosed]
  exact (List.append_cancel_left hsplit).symm

end Engine

namespace System

/-- A call that began in `s` has led into a call of one of the engine's hooks that does not come to
its end: the hook waits for ever, or was cut off. -/
inductive Hangs (calls : Reentry) (e : EngineId) (s : System) : Except Stop Unit × System → Prop
  | batch {w t : System} {h : List Entry} {objects : List String} {stop : Stop}
      (later : s.Evolves w) (called : w.history = h ++ [.hook e (.batch objects)])
      (hook : (runBatch calls e objects).on w = (.error stop, t))
      (endless : isOver (.error stop : Except Stop Unit) = false) : Hangs calls e s (.error stop, t)
  | shutdown {w t : System} {h : List Entry} {stop : Stop}
      (later : s.Evolves w) (called : w.history = h ++ [.hook e .shutdown])
      (hook : (runShutdown calls e).on w = (.error stop, t))
      (endless : isOver (.error stop : Except Stop Unit) = false) : Hangs calls e s (.error stop, t)

/-- An engine, which was `x`, was told to stop in the state `s`, and has drained its queue. -/
structure Emptied (e : EngineId) (s : System) (x : Engine) (t : System) : Prop where
  history : ∃ new, t.history = s.history ++ .deactivated e .asked :: new ∧
    (batches e (.deactivated e .asked :: new)).flatten = x.queue
  idle : Idle e t.history
  engine : ∃ y, t.engines[e]? = some y ∧ y.state = .shutDown ∧ y.closed = false ∧ y.queue = [] ∧
    y.drainer ≠ none

/-- An engine, which was `x`, was told to stop in the state `s`, and has stopped. -/
structure Flushed (e : EngineId) (s : System) (x : Engine) (t : System) : Prop where
  /-- All that waited was handed over, once and in order, and those batches were over, before the
  shutdown hook was called; nothing was handed over after that. -/
  history : ∃ before after, t.history = s.history ++ before ++ Entry.hook e .shutdown :: after ∧
    (batches e before).flatten = x.queue ∧ Idle e (s.history ++ before) ∧
    closings e (s.history ++ before) = 0 ∧ batches e after = []
  /-- The engine did not retire, and so there is no last record of it. -/
  spared : Entry.deactivated e .failing ∉ t.history ∧ ∀ n error, Entry.disabled e n error ∉ t.history
  engine : ∃ y, t.engines[e]? = some y ∧ y.state = .shutDown ∧ y.queue = [] ∧ y.drainer = none
  /-- Nothing that is logged later reaches the sink or the queue. -/
  deaf : ∀ u, t.Evolves u → batches e u.history = batches e t.history ∧
    ∀ calls id, (takeRecord calls e id).on u = (.ok (), u)

variable {s t u : System} {e : EngineId} {x y : Engine} {calls : Reentry}

/-- A call that has led into a hook which does not come to its end does not come to its end
itself. -/
lemma Hangs.endless {end' : Except Stop Unit × System} (h : Hangs calls e s end') :
    isOver end'.1 = false := by
  cases h with
  | batch later called hook endless => exact endless
  | shutdown later called hook endless => exact endless

/-- A call that hangs since a later state hangs since every state before. -/
lemma Hangs.before {end' : Except Stop Unit × System} (hst : s.Evolves t)
    (h : Hangs calls e t end') : Hangs calls e s end' := by
  cases h with
  | batch later called hook endless => exact .batch (hst.trans later) called hook endless
  | shutdown later called hook endless => exact .shutdown (hst.trans later) called hook endless

/-! ## Draining -/

/-- A batch of an engine that has ended may have failed: nothing follows from that. -/
lemma endBatch_of_shutDown (calls : Reentry) (hx : s.engines[e]? = some x)
    (hstate : x.state = .shutDown) (error : Option AspectError) :
    ∃ t y, (endBatch calls e error).on s = (.ok (), t) ∧ t.engines[e]? = some y ∧
      y.queue = x.queue := by
  cases error with
  | none => exact ⟨_, x, rfl, hx, rfl⟩
  | some error =>
    have hu : ((s.onEngine e Engine.countFailure).noted (.batchOver e (some error))).engines[e]? =
        some x.countFailure := engines_onEngine_self hx
    refine ⟨_, _, ?_, hu, rfl⟩
    rw [endBatch, countFailure, on_bind_of_ok (on_updateEngine _ _), on_bind_of_ok (on_note _),
      on_bind_of_ok (on_engine_of_some hu)]
    simp [Engine.countFailure, hstate]

section Draining

variable (hcalls : calls.Regular) (hsound : s.Sound) (hx : s.engines[e]? = some x)
  (hstate : x.state = .shutDown) (hclosed : x.closed = false) (hdrainer : x.drainer ≠ none)
  (hidle : Idle e s.history)

include hcalls hsound hx hstate hclosed hdrainer hidle

/-- **Draining once** an engine that was told to stop: a batch may fail or panic, but the drain comes
to its end unless the hook hangs, and then nothing waits. -/
lemma drain_cases :
    (∃ n t y, (drain calls e).on s = (.ok n, t) ∧ t.engines[e]? = some y ∧ y.queue = []) ∨
      ∃ stop t, (drain calls e).on s = (.error stop, t) ∧ Hangs calls e s (.error stop, t) := by
  by_cases hqueue : x.queue = []
  · exact .inl ⟨0, s, x, on_drain_of_nil calls hx hclosed hqueue, hx, hqueue⟩
  set u := s.handing e x
  have hu : u.engines[e]? = some x.takeAll := engine_handing hx
  have hstep : s.Evolves u := evolves_handing hx hdrainer hidle hclosed hqueue
  have hcalled : u.history = s.history ++ [.hook e (.batch x.queue)] := history_handing
  obtain ⟨-, hbalanced⟩ := regular_runBatch hcalls e x.queue u (hstep.sound hsound)
  have hdrain := on_drain_of_waiting calls hx hclosed hqueue
  -- when the hook is over, the rest of the drain is a matter of counting
  have hover : ∀ {result v}, (Act.contain (runBatch calls e x.queue)).on u = (.ok result, v) →
      u.Balanced v →
        ∃ n t y, (drain calls e).on s = (.ok n, t) ∧ t.engines[e]? = some y ∧ y.queue = [] := by
    intro result v hon hbalanced
    obtain ⟨y, hy, hxy⟩ := (hbalanced.each e).old _ hu
    have hnone : y.queue = [] := (hxy.ended hstate).2.2.elim id id
    obtain ⟨t, z, hend, hz, hzqueue⟩ :=
      endBatch_of_shutDown calls hy (hxy.shutDown hstate) (failure? result)
    refine ⟨x.queue.length, t, z, ?_, hz, hzqueue.trans hnone⟩
    rw [hdrain, on_bind_of_ok hon, on_bind_of_ok hend]
    rfl
  rcases hon : (runBatch calls e x.queue).on u with ⟨(payload | _ | _ | _) | result, v⟩ <;>
    rw [hon] at hbalanced
  case error.panicked => exact .inl (hover (by rw [on_contain, hon]) (hbalanced rfl))
  case ok => exact .inl (hover (by rw [on_contain, hon]) (hbalanced rfl))
  all_goals
    refine .inr ⟨_, v, ?_, .batch hstep hcalled hon rfl⟩
    rw [hdrain]
    exact on_bind_of_error (by rw [on_contain, hon]) _

/-- **Draining until nothing is left** ends after two rounds, unless a hook hangs. -/
lemma drainAll_cases (rounds : Nat) :
    (∃ t y, (drainAll calls e (rounds + 2)).on s = (.ok (), t) ∧ t.engines[e]? = some y ∧
      y.queue = []) ∨
      ∃ stop t, (drainAll calls e (rounds + 2)).on s = (.error stop, t) ∧
        Hangs calls e s (.error stop, t) := by
  have hworks := works_drain hcalls e s x hsound hx hdrainer hidle
  rcases drain_cases hcalls hsound hx hstate hclosed hdrainer hidle with
    ⟨n, t, y, hon, hy, hqueue⟩ | ⟨stop, t, hon, hhangs⟩
  · left
    rw [Leaves, hon] at hworks
    obtain ⟨-, -, y', hy', -, hxy⟩ := hworks
    obtain rfl : y = y' := Option.some.inj (hy.symm.trans hy')
    have hyclosed : y.closed = false := (hxy.ended hstate).1.trans hclosed
    refine ⟨t, y, ?_, hy, hqueue⟩
    rw [drainAll, on_bind_of_ok hon]
    split
    · rfl
    · rw [drainAll, on_bind_of_ok (on_drain_of_nil calls hy hyclosed hqueue)]
      rfl
  · right
    exact ⟨stop, t, on_bind_of_error hon _, hhangs⟩

end Draining

/-! ## Closing -/

/-- Closing that does not come to its end has led into the shutdown hook. -/
lemma hangs_of_close {stop : Stop} (hstep : s.Evolves (s.closing e))
    (hon : (close calls e).on s = (.error stop, t))
    (hendless : isOver (.error stop : Except Stop Unit) = false) :
    Hangs calls e s (.error stop, t) := by
  rw [on_close] at hon
  rcases hook : (runShutdown calls e).on (s.closing e) with ⟨(payload | _ | _ | _) | _, v⟩ <;>
    rw [hook] at hon
  case error.panicked =>
    obtain rfl : Stop.panicked payload = stop := Except.error.inj (Prod.mk.inj hon).1
    simp [isOver] at hendless
  case ok => simp at hon
  all_goals
    cases hon
    exact .shutdown hstep (history_noted _) hook rfl

/-- An engine that has ended takes no record. -/
lemma on_takeRecord_of_shutDown (calls : Reentry) (hx : s.engines[e]? = some x)
    (hstate : x.state = .shutDown) (id : RecordId) : (takeRecord calls e id).on s = (.ok (), s) := by
  rw [takeRecord, on_bind_of_ok (on_engine_of_some hx)]
  simp [hstate]

/-- An engine ends once; if it was told to stop, it does not retire. -/
lemma not_failing_of_asked {before after : List Entry} (hordered : Engine.Ordered e t.history)
    (hbefore : ∀ why, Entry.deactivated e why ∉ before)
    (heq : t.history = before ++ .deactivated e .asked :: after) :
    Entry.deactivated e .failing ∉ t.history := by
  intro hmem
  rw [heq, List.mem_append, List.mem_cons] at hmem
  rcases hmem with hmem | hmem | hmem
  · exact hbefore _ hmem
  · simp at hmem
  · obtain ⟨early, late, rfl⟩ := List.append_of_mem hmem
    have hdue := hordered (before ++ .deactivated e .asked :: early) (.deactivated e .failing) late
      (by simp [heq]) rfl
    exact hdue.2 .asked (by simp)

/-! ## Stopping -/

/-- The state in which an engine, which was `x` and was told to stop, begins to drain. -/
def stopping (s : System) (e : EngineId) (x : Engine) : System :=
  (s.left e x .asked).onEngine e (Engine.beginDrain s.thread.id)

/-- Stopping an engine is first written down as its deactivation on request. -/
lemma history_stopping : (s.stopping e x).history = s.history ++ [.deactivated e .asked] := by
  simp [stopping, history, moments_left]

/-- An engine that begins to stop is deactivated, and drained by the calling thread. -/
lemma engine_stopping (hx : s.engines[e]? = some x) :
    (s.stopping e x).engines[e]? = some (x.deactivate.beginDrain s.thread.id) :=
  engines_onEngine_self (engine_left hx .asked)

/-- An active engine that nobody drains can begin to stop. -/
lemma evolves_stopping (hx : s.engines[e]? = some x) (hactive : x.state = .active)
    (hdrainer : x.drainer = none) : s.Evolves (s.stopping e x) :=
  .trans (.single (.left hx hactive))
    (.single (.shift _ (engine_left hx .asked) rfl (.beginDrain s.thread.id hdrainer)))

/-- Nobody drains the engine, and so no batch is being processed. -/
lemma idle_stopping (hsound : s.Sound) (hx : s.engines[e]? = some x) (hdrainer : x.drainer = none) :
    Idle e (s.stopping e x).history := by
  rw [history_stopping]
  simpa [Idle, batches, outcomes] using (hsound.lives.vital hx).idle hdrainer

/-- An active engine has not been closed: it is closed only after it was deactivated. -/
lemma not_closed_of_active (hsound : s.Sound) (hx : s.engines[e]? = some x)
    (hactive : x.state = .active) : x.closed = false :=
  (hsound.lives.vital hx).not_closed (by simp [hactive])

/-- **The last drain.**  Nothing joins the queue and the engine is not closed, so what waited was
handed over, or waits still; and nothing waits after the drain. -/
lemma emptied_of_drains (hsound : s.Sound) (hx : s.engines[e]? = some x) (hactive : x.state = .active)
    (hsu : s.Evolves u) (hwu : (s.stopping e x).Evolves u)
    (hdrains : Drains e (s.stopping e x) (x.deactivate.beginDrain s.thread.id) (some s.thread.id) u)
    (hy : u.engines[e]? = some y) (hqueue : y.queue = []) : Emptied e s x u := by
  obtain ⟨-, y', hy', hdrainer, hxy⟩ := hdrains
  obtain rfl : y = y' := Option.some.inj (hy.symm.trans hy')
  have hclosed := not_closed_of_active hsound hx hactive
  have hyclosed : y.closed = false := (hxy.ended rfl).1.trans hclosed
  obtain ⟨new, hnew⟩ := hwu.lasts.history
  have hhistory : u.history = s.history ++ .deactivated e .asked :: new := by
    rw [hnew, history_stopping, List.append_assoc]
    rfl
  have hpushed : pushed e u.history = pushed e s.history := by
    rw [hxy.unfed rfl, history_stopping]
    simp [pushed]
  have hflat : (batches e (.deactivated e .asked :: new)).flatten ++ y.queue = x.queue := by
    have hbefore : Engine.Conserved e s.history x := (hsound.lives.life hx).accounted
    have hafter : Engine.Conserved e u.history y := ((hsu.sound hsound).lives.life hy).accounted
    rw [hhistory] at hafter hpushed
    exact hbefore.unfed hafter hpushed hclosed hyclosed
  rw [hqueue, List.append_nil] at hflat
  exact ⟨⟨new, hhistory, hflat⟩, hxy.idle, y, hy, hxy.shutDown rfl, hyclosed, hqueue,
    by simp [hdrainer]⟩

/-- An engine that has drained its queue can close. -/
lemma Emptied.closing (h : Emptied e s x u) : u.Evolves (u.closing e) := by
  obtain ⟨y, hy, hdown, hclosed, -⟩ := h.engine
  obtain ⟨new, hhistory, -⟩ := h.history
  have hasked : Entry.deactivated e .asked ∈ u.history := by simp [hhistory]
  exact .single (.event Engine.close hy rfl (.shutdown hdown hclosed) hasked)

/-- What the shutdown hook leaves behind, and the last entry: the engine is closed, and was handed
nothing. -/
lemma Emptied.closed {v : System} {entry : Entry} (h : Emptied e s x u) (husound : u.Sound)
    (huv : (u.closing e).Evolves v) (hbalanced : (u.closing e).Balanced v)
    (hentry : entry = .closed e ∨ entry = .crashed e) :
    u.Evolves (v.noted entry) ∧
      (∃ after, (v.noted entry).history = u.history ++ Entry.hook e .shutdown :: after ∧
        batches e after = []) ∧
      Idle e (v.noted entry).history ∧ (∀ n error, Entry.disabled e n error ∉ (v.noted entry).history) ∧
      ∃ z, v.engines[e]? = some z ∧ z.closed = true ∧ z.queue = [] := by
  obtain ⟨y, hy, hdown, hyclosed, hqueue, hydrainer⟩ := h.engine
  obtain ⟨new, hhistory, -⟩ := h.history
  have hvital := husound.lives.vital hy
  have hnot : Entry.closed e ∉ u.history := fun h => by simp [hvital.closed h] at hyclosed
  have hasked : Entry.deactivated e .asked ∈ u.history := by simp [hhistory]
  have hclosing := h.closing
  have hengine : (u.closing e).engines[e]? = some y.close := engines_onEngine_self hy
  have huclosing : (u.closing e).history = u.history ++ [.hook e .shutdown] := history_noted _
  obtain ⟨z, hz, hnot', hyz⟩ := closing_balanced (hclosing.sound husound) hy hdown hnot hbalanced
  have hevent : v.Evolves (v.noted entry) := by
    have h : v.Evolves ((v.onEngine e id).noted entry) := by
      rcases hentry with rfl | rfl
      · exact .single (.event id hz rfl (.closed hyz.closed hnot')
          ((hclosing.trans huv).lasts.mem_history hasked))
      · exact .single (.event id hz rfl (.crashed hyz.closed) trivial)
    rwa [onEngine_id] at h
  refine ⟨(hclosing.trans huv).trans hevent, ?_, ?_, fun n error hmem => ?_, z, hz, hyz.closed, ?_⟩
  · obtain ⟨new', hnew'⟩ := huv.lasts.history
    have hsilent : batches e new' = [] := by
      have h := huv.lasts.batches e _ hengine rfl
      rw [hnew', batches_append] at h
      simpa using h
    refine ⟨new' ++ [entry], by simp [hnew', huclosing], ?_⟩
    rw [batches_append, hsilent]
    rcases hentry with rfl | rfl <;> rfl
  · rw [history_noted]
    exact (hyz.concat hentry).idle.mpr h.idle
  · have hdisabled : Disabled e v.history := by
      refine ⟨n, error, ?_⟩
      rw [history_noted, List.mem_append] at hmem
      refine hmem.resolve_right fun h => ?_
      rcases hentry with rfl | rfl <;> simp at h
    obtain ⟨n', error', hmem'⟩ := hyz.spared hydrainer hdisabled
    exact hnot (hvital.disabled n' error' hmem')
  · obtain ⟨z', hz', hbalance⟩ := (hbalanced.each e).old _ hengine
    obtain rfl : z = z' := Option.some.inj (hz.symm.trans hz')
    exact (hbalance.ended hdown).2.2.elim (fun h => h.trans hqueue) id

/-- **When the shutdown hook is over**, and the drain is, the engine was flushed. -/
lemma Emptied.flushed {v : System} {entry : Entry} (h : Emptied e s x u) (hsound : s.Sound)
    (hx : s.engines[e]? = some x) (hactive : x.state = .active) (hsu : s.Evolves u)
    (huv : (u.closing e).Evolves v) (hbalanced : (u.closing e).Balanced v)
    (hentry : entry = .closed e ∨ entry = .crashed e) :
    Flushed e s x ((v.noted entry).onEngine e Engine.endDrain) := by
  have husound := hsu.sound hsound
  obtain ⟨hevolves, ⟨after, hafter, hsilent⟩, hidle, hspared, z, hz, hclosed, hqueue⟩ :=
    h.closed husound huv hbalanced hentry
  obtain ⟨y, hy, -, hyclosed, -⟩ := h.engine
  obtain ⟨new, hhistory, hflat⟩ := h.history
  set t := (v.noted entry).onEngine e Engine.endDrain
  have hut : u.Evolves t :=
    hevolves.trans (.single (.shift Engine.endDrain hz rfl (.endDrain hidle)))
  have htsound := hut.sound husound
  have ht : t.engines[e]? = some z.endDrain := engines_onEngine_self hz
  have hdown : z.endDrain.state = .shutDown := (htsound.lives.vital ht).closed_state hclosed
  have hthistory : t.history = u.history ++ Entry.hook e .shutdown :: after := hafter
  refine ⟨⟨.deactivated e .asked :: new, after, hhistory ▸ hthistory, hflat, hhistory ▸ h.idle, ?_,
    hsilent⟩, ⟨?_, hspared⟩, ⟨z.endDrain, ht, hdown, hqueue, rfl⟩, fun u' htu =>
    ⟨htu.lasts.batches e _ ht hclosed, fun calls id => ?_⟩⟩
  · rw [← hhistory, (husound.lives.vital hy).closings, hyclosed]
    rfl
  · have hsplit : t.history = s.history ++
        .deactivated e .asked :: (new ++ Entry.hook e .shutdown :: after) := by
      rw [hthistory, hhistory]
      simp
    exact not_failing_of_asked (htsound.lives e).ordered
      ((hsound.lives.life hx).marked.not_ended (by simp [hactive])) hsplit
  · obtain ⟨z', hz', hend⟩ := htu.lasts.shutDown ht hdown
    exact on_takeRecord_of_shutDown calls hz' hend id

/-- An engine that has left its router drains once more, and closes. -/
lemma on_stopEngine_of_left (calls : Reentry) (hx : s.engines[e]? = some x)
    (hdrainer : x.drainer = none)
    (hdeactivate : (deactivate e .asked).on s = (.ok true, s.left e x .asked)) :
    (stopEngine calls e).on s =
      (asDrainer e (do drainAll calls e calls.rounds; close calls e)).on (s.left e x .asked) := by
  rw [stopEngine, on_bind_of_ok hdeactivate, if_pos rfl, whenDraining,
    on_bind_of_ok (on_engine_of_some (engine_left hx .asked))]
  simp only [Engine.deactivate, hdrainer]

/-- An engine that has ended cannot be stopped any more. -/
lemma on_stopEngine_of_shutDown (calls : Reentry) (hsound : s.Sound) (hx : s.engines[e]? = some x)
    (hstate : x.state = .shutDown) : (stopEngine calls e).on s = (.ok (), s) := by
  have hstarting : x.starting = false := (hsound.lives.vital hx).not_starting (by simp [hstate])
  rw [stopEngine, on_bind_of_ok (on_deactivate_of_ne .asked hx (by simp [hstate]) hstarting)]
  rfl

/-- What an active engine that is told to stop does first: it leaves its router. -/
lemma on_stopEngine (calls : Reentry) (hsound : s.Sound) (hx : s.engines[e]? = some x)
    (hactive : x.state = .active) (hdrainer : x.drainer = none) :
    (stopEngine calls e).on s =
      (asDrainer e (do drainAll calls e calls.rounds; close calls e)).on (s.left e x .asked) := by
  obtain ⟨r, id, hactivated, hrouter, -⟩ := hsound.careers.place hx hactive
  have hstarting : x.starting = false := (hsound.lives.vital hx).not_starting (by simp [hactive])
  have hdeactivate : (deactivate e .asked).on s = (.ok true, s.left e x .asked) := by
    refine on_deactivate .asked hx hactive hstarting fun r' hr' => ?_
    obtain rfl : r = r' := Option.some.inj (hrouter.symm.trans hr')
    obtain ⟨z, hz⟩ := hsound.wired.router e r id hactivated
    exact ⟨z, hz, hsound.wired.defaults r z hz⟩
  exact on_stopEngine_of_left calls hx hdrainer hdeactivate

/-- **The last drain and the shutdown hook** come to their end, and the engine was flushed, unless a
hook hangs. -/
lemma lastDrain_cases (hcalls : calls.Regular) (hsound : s.Sound) (hx : s.engines[e]? = some x)
    (hactive : x.state = .active) (hdrainer : x.drainer = none) (rounds : Nat) :
    (∃ end' u, (do drainAll calls e (rounds + 2); close calls e : Act Unit).on (s.stopping e x) =
        (end', u) ∧ isOver end' = true ∧ Flushed e s x (u.onEngine e Engine.endDrain)) ∨
      ∃ stop u, (do drainAll calls e (rounds + 2); close calls e : Act Unit).on (s.stopping e x) =
        (.error stop, u) ∧ Hangs calls e s (.error stop, u) := by
  have hsw := evolves_stopping hx hactive hdrainer
  have hwsound := hsw.sound hsound
  have hw := engine_stopping hx
  have hwdrainer : (x.deactivate.beginDrain s.thread.id).drainer ≠ none := by
    simp [Engine.beginDrain]
  have hidle := idle_stopping hsound hx hdrainer
  have hclosed := not_closed_of_active hsound hx hactive
  have hworks := works_drainAll hcalls e (rounds + 2) _ _ hwsound hw hwdrainer hidle
  rcases drainAll_cases hcalls hwsound hw rfl hclosed hwdrainer hidle rounds with
    ⟨u, y, hdrain, hy, hqueue⟩ | ⟨stop, u, hdrain, hhangs⟩
  · rw [Leaves, hdrain] at hworks
    obtain ⟨hwu, hdrains⟩ := hworks
    have hsu := hsw.trans hwu
    have hempty := emptied_of_drains hsound hx hactive hsu hwu hdrains hy hqueue
    obtain ⟨v, huv, hclose⟩ := close_cases hcalls ((hsu.trans hempty.closing).sound hsound)
    rcases hclose with ⟨hbalanced, hon⟩ | ⟨hbalanced, payload, hon⟩ | ⟨stop, hon, hendless⟩
    · exact .inl ⟨_, _, (on_bind_of_ok hdrain _).trans hon, rfl,
        hempty.flushed hsound hx hactive hsu huv hbalanced (.inl rfl)⟩
    · exact .inl ⟨_, _, (on_bind_of_ok hdrain _).trans hon, rfl,
        hempty.flushed hsound hx hactive hsu huv hbalanced (.inr rfl)⟩
    · exact .inr ⟨stop, v, (on_bind_of_ok hdrain _).trans hon,
        (hangs_of_close hempty.closing hon hendless).before hsu⟩
  · exact .inr ⟨stop, u, on_bind_of_error hdrain _, hhangs.before hsw⟩

/-- **Stopping an engine is a complete flush.**  An active engine, whatever it has queued and however
often it has failed, is told to stop when nobody drains it; threads run inside the calls that start
them, so whoever drains is up the same stack of calls.  Unless one of its hooks hangs, the call comes
to its end, and the engine was flushed.

**Proof sketch.** The engine leaves its router first, and so takes no record while it drains; the
second drain finds nothing, and the shutdown hook is called. -/
theorem stopEngine_flushed {depth : Nat} {result : Except Stop Unit} (hs : s.Passed)
    (hx : s.engines[e]? = some x) (hactive : x.state = .active) (hdrainer : x.drainer = none)
    (hdepth : 2 ≤ depth) (hon : (stopEngine (.upTo depth) e).on s = (result, t))
    (hhooks : ¬ Hangs (.upTo depth) e s (result, t)) :
    isOver result = true ∧ Flushed e s x t := by
  obtain ⟨rounds, rfl⟩ := Nat.exists_eq_add_of_le' hdepth
  have hrounds : (Reentry.upTo (rounds + 2)).rounds = rounds + 2 := rfl
  rw [on_stopEngine _ hs.sound hx hactive hdrainer, hrounds] at hon
  rcases lastDrain_cases (Reentry.regular_upTo (rounds + 2)) hs.sound hx hactive hdrainer rounds with
    ⟨end', u, hact, hover, hflushed⟩ | ⟨stop, u, hact, hhangs⟩
  · rw [on_asDrainer hact, if_pos hover] at hon
    obtain ⟨rfl, rfl⟩ := Prod.mk.inj hon
    exact ⟨hover, hflushed⟩
  · rw [on_asDrainer hact, if_neg (by simp [hhangs.endless])] at hon
    obtain ⟨rfl, rfl⟩ := Prod.mk.inj hon
    exact absurd hhangs hhooks

/-- An engine with a threshold of two, one batch of which has failed.  An object came in the middle of
that batch, and was left in the queue; its batch will fail as well. -/
def stranded : System := smallRun (smallProgram 2 relapsingSink "x")

/-- The object that was left in the queue is handed over at the end. -/
theorem stopEngine_flushed_of_stranded : ∃ x result t, stranded.Passed ∧
    stranded.engines[0]? = some x ∧ x.state = .active ∧ x.drainer = none ∧ x.queue = ["y"] ∧
    (stopEngine (.upTo 8) 0).on stranded = (result, t) ∧ ¬ Hangs (.upTo 8) 0 stranded (result, t) ∧
    isOver result = true ∧ Flushed 0 stranded x t := by
  obtain ⟨x, hx⟩ := Option.isSome_iff_exists.mp
    (by decide +kernel : stranded.engines[0]?.isSome = true)
  have hview : stranded.engines[0]?.map (fun x => (x.state, x.drainer, x.queue)) =
      some (.active, none, ["y"]) := by decide +kernel
  rw [hx, Option.map_some, Option.some.injEq, Prod.mk.injEq, Prod.mk.injEq] at hview
  obtain ⟨hactive, hdrainer, hqueue⟩ := hview
  have hpassed : stranded.Passed := (reachable_smallRun _).passed
  have hover : isOver ((stopEngine (.upTo 8) 0).on stranded).1 = true := by decide +kernel
  have hhooks : ¬ Hangs (.upTo 8) 0 stranded ((stopEngine (.upTo 8) 0).on stranded) := by
    intro hhangs
    simp [hhangs.endless] at hover
  exact ⟨x, _, _, hpassed, hx, hactive, hdrainer, hqueue, rfl, hhooks,
    stopEngine_flushed hpassed hx hactive hdrainer (by decide) rfl hhooks⟩

end System

end NamespaceLogging
