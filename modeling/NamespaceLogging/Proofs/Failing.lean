import NamespaceLogging.Proofs.Closing

/-!
# How engines fail

A batch that failed is counted.  If it was one too many, the engine leaves its router and closes, and
after the shutdown hook it announces its end.  The hook may do anything but bring the engine back, and
so may whoever hears of its end.

## Main definitions

* `Engine.Drained`, `System.Drains`: an engine before and after somebody worked on its queue.

## Main results

* `System.leaves_countFailure`: what a failed batch leaves behind.
-/

set_option autoImplicit false

namespace NamespaceLogging

open Act History

namespace Engine

/-- An engine before and after somebody has worked on its queue. -/
structure Drained (e : EngineId) (h : List Entry) (x : Engine) (h' : List Entry) (y : Engine) :
    Prop extends Steady e h x h' y where
  idle : Idle e h'
  tidy : Tidy e h' y

variable {e : EngineId} {h h' h'' : List Entry} {x y z : Engine}

/-- After somebody has worked on the queue of an engine, acts that keep the balance change nothing
in what was said about it. -/
lemma Drained.balanced (hxy : Drained e h x h' y) (hvital : Vital e h' y)
    (hyz : Balanced e h' y h'' z) : Drained e h x h'' z where
  toSteady := hxy.toSteady.trans hyz.toSteady
  idle := hyz.idle.mpr hxy.idle
  tidy := hyz.tidy hvital hxy.tidy

/-- A batch that is over is the last one that was handed over. -/
lemma Vital.idle_over (hvital : Vital e h x) (hbusy : ¬ Idle e h) (error : Option AspectError) :
    Idle e (h ++ [.batchOver e error]) := by
  have hover := hvital.batches.resolve_left fun heq => hbusy heq.symm
  have hnone : History.batches e [.batchOver e error] = [] := rfl
  simp [Idle, hover, hnone]

end Engine

namespace System

/-- A system before and after somebody has worked on the queue of an engine, which was `x`; then the
thread `d` drains it. -/
def Drains (e : EngineId) (s : System) (x : Engine) (d : Option ThreadId) : System → Prop :=
  Fares e s fun h y => y.drainer = d ∧ Engine.Drained e s.history x h y

variable {s t u v p : System} {e : EngineId} {x y z : Engine} {r : RouterId} {d : Option ThreadId}

/-- The same for a system: acts that keep the balance may follow on work on a queue. -/
lemma Drains.balanced (h : Drains e s x d t) (hst : s.Evolves t) (htu : t.Evolves u)
    (hsound : t.Sound) (hbalanced : t.Balanced u) : Drains e s x d u := by
  obtain ⟨hbut, y, hy, hd, hxy⟩ := h
  refine .after hbut hst htu ⟨hbalanced.but e, ?_⟩
  obtain ⟨z, hz, hyz⟩ := (hbalanced.each e).old y hy
  exact ⟨z, hz, hyz.drainer.trans hd, hxy.balanced (hsound.lives.vital hy) hyz⟩

/-! ## Dropping the queue and logging -/

/-- Dropping the queue of an engine empties it, and writes down what was in it. -/
lemma on_discardQueue (hx : s.engines[e]? = some x) : (discardQueue e).on s =
    (.ok (), (s.onEngine e Engine.takeAll).noted (.discarded e x.queue)) := by
  rw [discardQueue, on_bind_of_ok (on_engine_of_some hx)]
  rfl

/-- The router through which an engine says that it was shut down is kept alive meanwhile. -/
lemma on_disable (calls : Reentry) (hx : s.engines[e]? = some x) (errors : Nat)
    (error : AspectError) : (disable calls e errors error).on s =
      (withRouter (x.router.filter s.isAlive)
        (retire calls e (x.router.filter s.isAlive) x.sink.name errors error)).on s := by
  rw [disable, on_bind_of_ok (on_engine_of_some hx)]
  rfl

/-- A failed batch that is one too many disables the engine, if that is active. -/
lemma on_countFailure (calls : Reentry) (hx : s.engines[e]? = some x) (error : AspectError) :
    (countFailure calls e error).on s =
      if x.threshold ≤ x.errors + 1 ∧ x.state = .active then
        (disable calls e (x.errors + 1) error).on
          ((s.onEngine e Engine.countFailure).noted (.batchOver e (some error)))
      else (.ok (), (s.onEngine e Engine.countFailure).noted (.batchOver e (some error))) := by
  set u := (s.onEngine e Engine.countFailure).noted (.batchOver e (some error))
  have hengine : (engine e).on u = (.ok x.countFailure, u) :=
    on_engine_of_some (engines_onEngine_self hx)
  rw [countFailure, on_bind_of_ok (on_updateEngine _ _), on_bind_of_ok (on_note _),
    on_bind_of_ok hengine]
  have hiff : (decide (x.countFailure.threshold ≤ x.countFailure.errors) &&
      x.countFailure.state == .active) = true ↔ x.threshold ≤ x.errors + 1 ∧ x.state = .active := by
    rw [Bool.and_eq_true, decide_eq_true_iff, beq_iff_eq]
    rfl
  by_cases hlast : x.threshold ≤ x.errors + 1 ∧ x.state = .active
  · rw [if_pos hlast, if_pos (hiff.mpr hlast)]
    rfl
  · rw [if_neg hlast, if_neg (mt hiff.mp hlast)]
    rfl

/-- An act with the drain flag begins with the flag set, and the flag is cleared when the act is
over, but not when it has stalled. -/
lemma on_asDrainer {α : Type} {act : Act α} {end' : Except Stop α}
    (hact : act.on (s.onEngine e (Engine.beginDrain s.thread.id)) = (end', u)) :
    (asDrainer e act).on s = (end', if isOver end' then u.onEngine e Engine.endDrain else u) := by
  have hon : (asDrainer e act).on s = (act.after fun t => t.onEngine e Engine.endDrain).on
      (s.onEngine e (Engine.beginDrain s.thread.id)) := rfl
  rw [hon, on_after, hact]

/-- A log call that the router lets through goes on after it was written down. -/
lemma on_log (calls : Reentry) (call : LogCall) {z : Router} (hz : s.routers[r]? = some z) :
    (log calls r call).on s =
      if z.filter.any fun set => set.contains call.level then
        (do dispatch calls r (← capture r call) : Act Unit).on (s.noted (.logged r call))
      else (.ok (), s) := by
  have hon : (isEnabled r call.level).on s =
      (.ok (z.filter.any fun set => set.contains call.level), s) := by
    simp only [isEnabled, on_bind, on_router, hz, on_pure]
  rw [log, on_bind_of_ok hon]
  split
  · rfl
  · rfl

/-! ## The last failure -/

section Tripped

variable {error : AspectError} (hsound : s.Sound) (hx : s.engines[e]? = some x)
  (hstate : x.state = .active) (hbusy : ¬ Idle e s.history) (hlimit : x.threshold ≤ x.errors + 1)
  (hquiet : Quiet ((s.onEngine e Engine.countFailure).noted (.batchOver e (some error))) v)

include hx hstate hbusy hlimit hquiet

/-- An engine can fail once too often: the system evolves up to the beginning of its shutdown
hook. -/
lemma evolves_tripped : s.Evolves ((v.left e x.countFailure .failing).closing e) :=
  .single (.tripped error hx hstate hbusy hlimit hquiet)

include hsound

/-- The shutdown hook cannot change what was counted: that the engine failed as often as its threshold
says is a rule of its career. -/
lemma tripped_lasts (hevolves : ((v.left e x.countFailure .failing).closing e).Evolves p)
    (hz : p.engines[e]? = some z) :
    z.errors = x.errors + 1 ∧ z.threshold = x.errors + 1 ∧ z.sink.name = x.sink.name := by
  have htripped := evolves_tripped hx hstate hbusy hlimit hquiet
  obtain ⟨z', hz', hlasts⟩ := hevolves.lasts.engines e _ (engines_tripped hx hquiet)
  obtain rfl : z = z' := Option.some.inj (hz.symm.trans hz')
  have hcount : x.threshold = x.errors + 1 :=
    Nat.le_antisymm hlimit ((hsound.careers e x hx).below hstate)
  have hthreshold : z.threshold = x.errors + 1 := hlasts.threshold.trans hcount
  have hfailed : Entry.deactivated e .failing ∈ p.history := by
    refine hevolves.lasts.mem_history ?_
    rw [history, moments_tripped hquiet]
    simp
  have hcareer := ((htripped.trans hevolves).sound hsound).careers e z hz
  exact ⟨(hcareer.tripped hfailed).1.trans hthreshold, hthreshold, hlasts.name⟩

/-- After the shutdown hook, the engine can announce its end: since it was closed, no batch was handed
over. -/
lemma evolves_finished (hevolves : ((v.left e x.countFailure .failing).closing e).Evolves p)
    (hz : p.engines[e]? = some z) (hclosed : z.closed = true) (honce : Entry.closed e ∉ p.history)
    (through : Option RouterId) (hthrough : ∀ r, through = some r → z.router = some r)
    (hunheard : through = none → ∀ r, z.router = some r →
      s.isAlive r = false ∨ ∃ y, p.routers[r]? = some y ∧ y.filter = none) :
    p.Evolves (p.finished e z error through) := by
  obtain ⟨-, hthreshold, -⟩ := tripped_lasts hsound hx hstate hbusy hlimit hquiet hevolves hz
  obtain ⟨r, id, hactivated, hrouter, hslot, -⟩ := hsound.careers.place hx hstate
  obtain ⟨after, hafter, -⟩ := hevolves.lasts.moments
  have hmoments := moments_tripped (x := x.countFailure) hquiet
  have hsame := hevolves.lasts.batches e _ (engines_tripped hx hquiet) rfl
  rw [hmoments] at hafter
  refine .single (.finished error through hz hclosed honce hafter
    ⟨⟨_, r, id, trip_tripped hx hquiet, hrouter, hslot, hactivated⟩, ?_, ?_⟩ hthrough
    fun hnone r hr => (hunheard hnone r hr).imp_left fun hgone => ⟨_, List.mem_cons_self, hgone⟩)
  · rw [hthreshold, (hsound.lives.vital hx).errors]
    rfl
  · rw [history, history, hafter, hmoments, List.map_append, batches_append] at hsame
    simpa using hsame

/-- What the shutdown hook leaves of the engine. -/
lemma tripped_balanced (hbalanced : ((v.left e x.countFailure .failing).closing e).Balanced p) :
    ∃ z, p.engines[e]? = some z ∧ Entry.closed e ∉ p.history ∧
      Engine.Closes e (s.history ++ [.batchOver e (some error), .deactivated e .failing])
        x.countFailure.deactivate p.history z := by
  have hw := (evolves_tripped hx hstate hbusy hlimit hquiet).sound hsound
  have hleft : (v.left e x.countFailure .failing).engines[e]? = some x.countFailure.deactivate := by
    rw [engines_left, engines_onEngine_self (engine_quiet hx hquiet)]
  have hhistory : (v.left e x.countFailure .failing).history =
      s.history ++ [.batchOver e (some error), .deactivated e .failing] := by
    have hv : v.moments = ((s.onEngine e Engine.countFailure).noted
        (.batchOver e (some error))).moments := by simp only [moments, hquiet.journal]
    simp [history, moments_left, hv]
  rw [← hhistory]
  refine closing_balanced hw hleft rfl ?_ hbalanced
  have hvital := hsound.lives.vital hx
  rw [hhistory]
  intro hmem
  have hclosed := hvital.closed_state (hvital.closed (by simpa using hmem))
  simp [hstate] at hclosed

omit hx hbusy hlimit hquiet hsound in
/-- What becomes of an engine that is closed by a panic. -/
lemma drained_of_closes {h : List Entry} (hidle : Idle e (s.history ++ [.batchOver e (some error)]))
    (hclosed : z.state = .shutDown) (htidy : Engine.Tidy e s.history x)
    (hclosing : Engine.Closes e (s.history ++ [.batchOver e (some error), .deactivated e .failing])
      x.countFailure.deactivate h z) : Engine.Drained e s.history x h z where
  toSteady := .of_ending hclosing.starting (by simp [hstate, hclosed, EngineState.rank])
    (by simp [hstate]) fun _ => hclosing.closed
  idle := by
    rw [hclosing.idle]
    simpa [Idle, batches, outcomes] using hidle
  tidy := hclosing.tidy fun ⟨n, err, hmem⟩ => htidy ⟨n, err, by simpa using hmem⟩

omit hx hbusy hlimit hquiet hsound in
/-- What becomes of an engine that announces its end. -/
lemma drained_of_finished {h new : List Entry}
    (hidle : Idle e (s.history ++ [.batchOver e (some error)]))
    (hclosed : z.state = .shutDown)
    (hclosing : Engine.Closes e (s.history ++ [.batchOver e (some error), .deactivated e .failing])
      x.countFailure.deactivate h z) (hbatches : batches e new = []) (houtcomes : outcomes e new = []) :
    Engine.Drained e s.history x (h ++ new) z.takeAll where
  toSteady := .of_ending hclosing.starting (by simp [hstate, hclosed, EngineState.rank, Engine.takeAll])
    (by simp [hstate]) fun _ => hclosing.closed
  idle := by
    have hidle' : Idle e h := by
      rw [hclosing.idle]
      simpa [Idle, batches, outcomes] using hidle
    simpa [Idle, hbatches, houtcomes] using hidle'
  tidy _ := rfl

/-- The state in which an engine has announced its end, through its router or to nobody. -/
lemma drains_finished (hevolves : ((v.left e x.countFailure .failing).closing e).Evolves p)
    (hbalanced : ((v.left e x.countFailure .failing).closing e).Balanced p)
    (hz : p.engines[e]? = some z) (honce : Entry.closed e ∉ p.history)
    (hclosing : Engine.Closes e (s.history ++ [.batchOver e (some error), .deactivated e .failing])
      x.countFailure.deactivate p.history z) (hrouter : z.router = some r)
    (through : Option RouterId) (hthrough : ∀ r', through = some r' → r' = r)
    (hunheard : through = none →
      s.isAlive r = false ∨ ∃ y, p.routers[r]? = some y ∧ y.filter = none) :
    s.Evolves (p.finished e z error through) ∧
      Drains e s x x.drainer (p.finished e z error through) := by
  have htripped := evolves_tripped hx hstate hbusy hlimit hquiet
  have hsp := htripped.trans hevolves
  have hvital := hsound.lives.vital hx
  have hend : z.state = .shutDown :=
    ((hsp.sound hsound).lives.vital hz).closed_state hclosing.closed
  have hfinished := evolves_finished hsound hx hstate hbusy hlimit hquiet hevolves hz
    hclosing.closed honce through (fun r' h => hthrough r' h ▸ hrouter) fun hnone r' h => by
      obtain rfl : r = r' := Option.some.inj (hrouter.symm.trans h)
      exact hunheard hnone
  have hbut := balancedBut_tripped hsound hx hstate hquiet
  refine ⟨hsp.trans hfinished, ?_, z.takeAll, ?_, hclosing.drainer, ?_⟩
  · exact (hbut.trans htripped.lasts hevolves.lasts (hbalanced.but e)).trans hsp.lasts
      hfinished.lasts (balancedBut_finished error through hz)
  · rw [engines_finished, engines_onEngine_self hz]
  · rw [history_finished]
    refine drained_of_finished hstate (hvital.idle_over hbusy _) hend hclosing ?_ ?_ <;>
      cases through <;> rfl

/-- The state after the shutdown hook of such an engine has panicked. -/
lemma drains_crashed (hevolves : ((v.left e x.countFailure .failing).closing e).Evolves p)
    (hbalanced : ((v.left e x.countFailure .failing).closing e).Balanced p)
    (hz : p.engines[e]? = some z) (htidy : Engine.Tidy e s.history x)
    (hclosing : Engine.Closes e (s.history ++ [.batchOver e (some error), .deactivated e .failing])
      x.countFailure.deactivate p.history z) :
    s.Evolves (p.noted (.crashed e)) ∧ Drains e s x x.drainer (p.noted (.crashed e)) := by
  have htripped := evolves_tripped hx hstate hbusy hlimit hquiet
  have hsp := htripped.trans hevolves
  have hvital := hsound.lives.vital hx
  have hend : z.state = .shutDown :=
    ((hsp.sound hsound).lives.vital hz).closed_state hclosing.closed
  have hcrashed : p.Evolves ((p.onEngine e id).noted (.crashed e)) :=
    .single (.event id hz rfl (.crashed hclosing.closed) trivial)
  rw [onEngine_id] at hcrashed
  have hbut := balancedBut_tripped hsound hx hstate hquiet
  refine ⟨hsp.trans hcrashed, ?_, z, hz, hclosing.drainer, ?_⟩
  · exact (hbut.trans htripped.lasts hevolves.lasts (hbalanced.but e)).trans hsp.lasts
      hcrashed.lasts (balancedBut_noted hz rfl)
  · rw [history_noted]
    exact drained_of_closes hstate (hvital.idle_over hbusy _) hend htidy (hclosing.concat (.inr rfl))

omit hbusy hlimit in
/-- The engine was active, and so it leaves its router. -/
lemma on_deactivate_tripped :
    (deactivate e .failing).on v = (.ok true, v.left e x.countFailure .failing) := by
  obtain ⟨r, id, hactivated, hrouter, -⟩ := hsound.careers.place hx hstate
  have hwired := wired_quiet hsound hx hquiet
  refine on_deactivate .failing (engine_quiet hx hquiet) hstate ?_ fun r' hr' => ?_
  · exact (hsound.lives.vital hx).not_starting (by simp [hstate])
  · obtain rfl : r = r' := Option.some.inj (hrouter.symm.trans hr')
    obtain ⟨y, hy⟩ := hsound.wired.router e r id hactivated
    obtain ⟨z, hz, -⟩ := hquiet.neutral.router_forth (y := y) hy
    exact ⟨z, hz, hwired.defaults r z hz⟩

variable {calls : Reentry} (hcalls : calls.Regular)

include hcalls

/-- After the shutdown hook has returned, the engine announces its end, through its router if that can
be reached and lets the record through.  What is left to do then is regular. -/
lemma on_retire_of_returned (hevolves : ((v.left e x.countFailure .failing).closing e).Evolves p)
    (hclose : (close calls e).on (v.left e x.countFailure .failing) = (.ok (), p.noted (.closed e)))
    (hz : p.engines[e]? = some z) (hrouter : z.router = some r) :
    ∃ (through : Option RouterId) (rest : Act Unit), rest.Regular ∧
      (retire calls e (x.router.filter s.isAlive) x.sink.name (x.errors + 1) error).on v =
        rest.on (p.finished e z error through) ∧
      (∀ r', through = some r' → r' = r) ∧
      (through = none → s.isAlive r = false ∨ ∃ y, p.routers[r]? = some y ∧ y.filter = none) := by
  have hsp := (evolves_tripped hx hstate hbusy hlimit hquiet).trans hevolves
  have hp := hsp.sound hsound
  obtain ⟨herrors, -, hname⟩ := tripped_lasts hsound hx hstate hbusy hlimit hquiet hevolves hz
  obtain ⟨r', id, hactivated, hxrouter, -⟩ := hsound.careers.place hx hstate
  obtain rfl : r = r' := Option.some.inj
    (hrouter.symm.trans ((hp.careers e z hz).router r' id (hsp.lasts.mem_history hactivated)))
  have hdiscard : (discardQueue e).on (p.noted (.closed e)) = _ := on_discardQueue hz
  have hfinished : ((((p.noted (.closed e)).onEngine e Engine.takeAll).noted
      (.discarded e z.queue)).noted (.disabled e (x.errors + 1) error)) =
      p.finished e z error none := by
    rw [← herrors]
    rfl
  rw [retire.eq_def, on_bind_of_ok (on_deactivate_tripped hsound hx hstate hquiet), if_pos rfl,
    on_bind_of_ok hclose, on_bind_of_ok hdiscard, on_bind_of_ok (on_note _), hfinished]
  cases halive : s.isAlive r with
  | false =>
    have hnobody : x.router.filter s.isAlive = none := by simp [hxrouter, halive]
    rw [hnobody]
    exact ⟨none, pure (), regular_pure _, rfl, by simp, fun _ => .inl rfl⟩
  | true =>
    have hfilter : x.router.filter s.isAlive = some r := by simp [hxrouter, halive]
    obtain ⟨y, hy⟩ := hp.wired.router e r id (hsp.lasts.mem_history hactivated)
    have hlog := on_log (s := p.finished e z error none) calls
      (lastRecord x.sink.name (x.errors + 1) error) hy
    rw [hfilter]
    dsimp only
    rw [hlog]
    split
    · have hlogged : (p.finished e z error none).noted (.logged r (lastRecord x.sink.name
          (x.errors + 1) error)) = p.finished e z error (some r) := by
        rw [← herrors, ← hname]
        rfl
      rw [hlogged]
      refine ⟨some r, _, ?_, rfl, by simp, by simp⟩
      exact (regular_capture r _).bind fun id => regular_dispatch hcalls r id
    · rename_i hlevel
      refine ⟨none, pure (), regular_pure _, rfl, by simp, fun _ => .inr ⟨y, hy, ?_⟩⟩
      cases hset : y.filter with
      | none => rfl
      | some set => simp [hset, lastRecord] at hlevel

/-- **An engine that failed too often retires.**

**Proof sketch.** Up to the call of the shutdown hook it is one change.  If the hook panics, the engine
stays closed.  If it returns, the engine announces its end, in one change up to the point where the
record is passed on, which is regular. -/
lemma ends_retire (htidy : Engine.Tidy e s.history x) :
    Ends s ((retire calls e (x.router.filter s.isAlive) x.sink.name (x.errors + 1) error).on v)
      (Drains e s x x.drainer) (Drains e s x x.drainer) := by
  have htripped := evolves_tripped hx hstate hbusy hlimit hquiet
  have hdeactivate := on_deactivate_tripped hsound hx hstate hquiet
  obtain ⟨p, hevolves, hcases⟩ := close_cases hcalls (htripped.sound hsound)
  have hsp := htripped.trans hevolves
  rcases hcases with ⟨hbalanced, hon⟩ | ⟨hbalanced, payload, hon⟩ | ⟨stop, hon, hover⟩
  · obtain ⟨z, hz, honce, hclosing⟩ :=
      tripped_balanced hsound hx hstate hbusy hlimit hquiet hbalanced
    obtain ⟨r, id, hactivated, -⟩ := hsound.careers.place hx hstate
    have hzrouter : z.router = some r :=
      ((hsp.sound hsound).careers e z hz).router r id (hsp.lasts.mem_history hactivated)
    obtain ⟨through, rest, hregular, hretire, hthrough, hunheard⟩ :=
      on_retire_of_returned hsound hx hstate hbusy hlimit hquiet hcalls hevolves hon hz hzrouter
    obtain ⟨hst, hdrains⟩ := drains_finished hsound hx hstate hbusy hlimit hquiet hevolves hbalanced hz
      honce hclosing hzrouter through hthrough hunheard
    rw [hretire]
    refine Ends.before hst (((hregular _).leaves (hst.sound hsound)).mono ?_ ?_) <;>
      exact fun t hevolves hbalanced => hdrains.balanced hst hevolves (hst.sound hsound) hbalanced
  · obtain ⟨z, hz, -, hclosing⟩ :=
      tripped_balanced hsound hx hstate hbusy hlimit hquiet hbalanced
    rw [retire.eq_def, on_bind_of_ok hdeactivate, if_pos rfl, on_bind_of_error hon]
    exact drains_crashed hsound hx hstate hbusy hlimit hquiet hevolves hbalanced hz htidy hclosing
  · rw [retire.eq_def, on_bind_of_ok hdeactivate, if_pos rfl, on_bind_of_error hon]
    refine ⟨hsp, ?_⟩
    cases stop with
    | panicked payload => simp [isOver] at hover
    | _ => trivial

end Tripped

/-! ## All failures -/

section Failing

variable {calls : Reentry} (hcalls : calls.Regular)

include hcalls

/-- An engine that failed too often is disabled while its router is kept alive. -/
lemma ends_disable (hsound : s.Sound) (hx : s.engines[e]? = some x) (hstate : x.state = .active)
    (hbusy : ¬ Idle e s.history) (hlimit : x.threshold ≤ x.errors + 1)
    (htidy : Engine.Tidy e s.history x) (error : AspectError) :
    Ends s ((disable calls e (x.errors + 1) error).on
        ((s.onEngine e Engine.countFailure).noted (.batchOver e (some error))))
      (Drains e s x x.drainer) (Drains e s x x.drainer) := by
  set u := (s.onEngine e Engine.countFailure).noted (.batchOver e (some error))
  have hu : u.engines[e]? = some x.countFailure := engines_onEngine_self hx
  have hretire : ∀ {v : System}, Quiet u v →
      Ends s ((retire calls e (x.router.filter s.isAlive) x.sink.name (x.errors + 1) error).on v)
        (Drains e s x x.drainer) (Drains e s x x.drainer) :=
    fun hquiet => ends_retire hsound hx hstate hbusy hlimit hquiet hcalls htidy
  have hon : (disable calls e (x.errors + 1) error).on u = (withRouter (x.router.filter s.isAlive)
      (retire calls e (x.router.filter s.isAlive) x.sink.name (x.errors + 1) error)).on u :=
    on_disable calls hu (x.errors + 1) error
  rw [hon]
  cases hfilter : x.router.filter s.isAlive with
  | none =>
    rw [hfilter] at hretire
    exact hretire (quiet_of_eq rfl rfl rfl rfl rfl)
  | some r =>
    rw [hfilter] at hretire
    have hleave : ∀ t : System, Quiet t { t with inUse := t.inUse.erase r } :=
      fun t => quiet_of_eq rfl rfl rfl rfl rfl
    have hlater : ∀ t, s.Evolves t → Drains e s x x.drainer t →
        t.Evolves { t with inUse := t.inUse.erase r } ∧
          Drains e s x x.drainer { t with inUse := t.inUse.erase r } := by
      intro t hevolves hdrains
      have hstep : t.Evolves { t with inUse := t.inUse.erase r } := .single (.quiet (hleave t))
      exact ⟨hstep, hdrains.balanced hevolves hstep (hevolves.sound hsound) (hleave t).balanced⟩
    rw [withRouter, keeping, on_bind_of_ok (on_modify _)]
    refine Ends.after (hretire ?_) hlater hlater
    exact quiet_of_eq rfl rfl rfl rfl rfl

/-- **A failed batch is counted**, and may be the engine's last.  Only the last one can lead to a
panic. -/
lemma leaves_countFailure (hsound : s.Sound) (hx : s.engines[e]? = some x)
    (hbusy : ¬ Idle e s.history) (htidy : Engine.Tidy e s.history x) (error : AspectError) :
    (countFailure calls e error).Leaves s (Drains e s x x.drainer)
      (fun t => x.state = .active ∧ Drains e s x x.drainer t) := by
  have hvital := hsound.lives.vital hx
  set u := (s.onEngine e Engine.countFailure).noted (.batchOver e (some error))
  have hu : u.engines[e]? = some x.countFailure := engines_onEngine_self hx
  rw [Leaves, on_countFailure calls hx]
  split
  · rename_i hlast
    obtain ⟨hlimit, hstate⟩ := hlast
    exact (ends_disable hcalls hsound hx hstate hbusy hlimit htidy error).mono
      (fun _ _ hdrains => hdrains) fun _ _ hdrains => ⟨hstate, hdrains⟩
  · rename_i hgoon
    have hevent : s.Evolves u := .single (.event Engine.countFailure hx rfl (.failed error hbusy)
      fun hstate => Nat.lt_of_not_le fun hlimit => hgoon ⟨hlimit, hstate⟩)
    refine ⟨hevent, balancedBut_event hx rfl rfl rfl rfl, x.countFailure, hu, rfl, ?_, ?_, ?_⟩
    · exact .of_same rfl rfl rfl (.inl rfl) (fun hmem => by simpa [u] using hmem) (by simp [pushed])
    · rw [history_noted]
      exact hvital.idle_over hbusy _
    · rintro ⟨n, err, hmem⟩
      exact htidy ⟨n, err, by simpa [u] using hmem⟩

end Failing

end System

end NamespaceLogging
