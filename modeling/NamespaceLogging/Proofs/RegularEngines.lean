import NamespaceLogging.Proofs.Failing

/-!
# Regular engines

All that engines do is regular: they drain their queue, take records and stop, whatever their hooks do
meanwhile.  How they start is for the next module.

## Main definitions

* `Act.Works`: the act works on the queue of an engine, for the thread that drains it.
* `System.handing`: the state in which an engine hands over what waited.

## Main results

* `System.works_drain`, `System.works_drainAll`: draining once, or until nothing is left.
* `System.regular_flush`, `System.regular_takeRecord`: engines at work.
* `System.leaves_stopEngine`: the end of an engine.
-/

set_option autoImplicit false

namespace NamespaceLogging

open Act History

/-- The act works on the queue of the engine, for the thread that drains it.  It can panic only if the
engine was not shut down before. -/
def Act.Works {α : Type} (e : EngineId) (act : Act α) : Prop :=
  ∀ (s : System) (x : Engine), s.Sound → s.engines[e]? = some x → x.drainer ≠ none →
    Idle e s.history → act.Leaves s (System.Drains e s x x.drainer)
      fun t => x.state ≠ .shutDown ∧ System.Drains e s x x.drainer t

namespace System

variable {s t u : System} {e : EngineId} {x y : Engine} {d : Option ThreadId}

/-- Something happened before somebody worked on the queue. -/
lemma Drains.before (hbut : BalancedBut e s t) (hst : s.Evolves t) (htu : t.Evolves u)
    (hsteady : Engine.Steady e s.history x t.history y) (h : Drains e t y d u) :
    Drains e s x d u := by
  obtain ⟨hbut', z, hz, hd, hyz⟩ := h
  refine ⟨hbut.trans hst.lasts htu.lasts hbut', z, hz, hd, ?_⟩
  exact { hyz with toSteady := hsteady.trans hyz.toSteady }

/-- If nobody drained the engine before, and nobody does so afterwards, all is in balance. -/
lemma Drains.toBalanced (hvital : Engine.Vital e s.history x) (hx : s.engines[e]? = some x)
    (hdrainer : x.drainer = none) (h : Drains e s x none t) : s.Balanced t := by
  obtain ⟨hbut, y, hy, hd, hxy⟩ := h
  exact balanced_of_but hbut hx hy {
    hxy with
    drainer := hd.trans hdrainer.symm
    idle := iff_of_true hxy.idle (hvital.idle hdrainer)
    spared := fun hne => absurd hdrainer hne
    settled := fun _ _ => hxy.tidy }

/-- The thread that drained the engine stops. -/
lemma Drains.endDrain (hst : s.Evolves t) (h : Drains e s x d t) :
    t.Evolves (t.onEngine e Engine.endDrain) ∧
      Drains e s x none (t.onEngine e Engine.endDrain) := by
  obtain ⟨hbut, y, hy, -, hxy⟩ := h
  have hstep : t.Evolves (t.onEngine e Engine.endDrain) :=
    .single (.shift Engine.endDrain hy rfl (.endDrain hxy.idle))
  refine ⟨hstep, ?_, y.endDrain, engines_onEngine_self hy, rfl, ?_, hxy.idle, hxy.tidy⟩
  · exact hbut.trans hst.lasts hstep.lasts (balancedBut_onEngine hy rfl rfl rfl)
  · exact hxy.toSteady.trans (.of_same rfl rfl rfl (.inl rfl) (fun hmem => hmem) rfl)

/-! ## Draining -/

/-- The state in which the engine, which was `x`, hands over what waited. -/
def handing (s : System) (e : EngineId) (x : Engine) : System :=
  (s.onEngine e Engine.takeAll).noted (.hook e (.batch x.queue))

/-- While a batch is handed over, the queue of the engine is empty but for what joined it since. -/
lemma engine_handing (hx : s.engines[e]? = some x) :
    (s.handing e x).engines[e]? = some x.takeAll := engines_onEngine_self hx

/-- Handing a batch over is written down as a call of the batch hook with the whole queue. -/
lemma history_handing : (s.handing e x).history = s.history ++ [.hook e (.batch x.queue)] :=
  history_noted _

/-- An engine may hand its queue over if a thread drains it, no batch is under way, it is not closed
and there is something to hand over. -/
lemma evolves_handing (hx : s.engines[e]? = some x) (hdrainer : x.drainer ≠ none)
    (hidle : Idle e s.history) (hclosed : x.closed = false) (hqueue : x.queue ≠ []) :
    s.Evolves (s.handing e x) :=
  .single (.event Engine.takeAll hx rfl (.batch hclosed hqueue hdrainer hidle) trivial)

/-- There is nothing to drain. -/
lemma on_drain_of_nil (calls : Reentry) (hx : s.engines[e]? = some x) (hclosed : x.closed = false)
    (hqueue : x.queue = []) : (drain calls e).on s = (.ok 0, s) := by
  rw [drain, on_bind_of_ok (on_engine_of_some hx)]
  simp [hclosed, hqueue]

/-- A drain hands over what waits, if anything does. -/
lemma on_drain_of_waiting (calls : Reentry) (hx : s.engines[e]? = some x) (hclosed : x.closed = false)
    (hqueue : x.queue ≠ []) : (drain calls e).on s = (do
      endBatch calls e (failure? (← Act.contain (runBatch calls e x.queue)))
      return x.queue.length : Act Nat).on (s.handing e x) := by
  rw [drain, on_bind_of_ok (on_engine_of_some hx)]
  simp only [hclosed, Bool.false_eq_true, if_false, List.isEmpty_iff, hqueue]
  exact (on_bind_of_ok (on_updateEngine e Engine.takeAll) _).trans (on_bind_of_ok (on_note _) _)

section Draining

variable {calls : Reentry} (hcalls : calls.Regular)

include hcalls

/-- The call with a batch is over. -/
lemma leaves_endBatch (hsound : s.Sound) (hx : s.engines[e]? = some x) (hbusy : ¬ Idle e s.history)
    (htidy : Engine.Tidy e s.history x) (error : Option AspectError) :
    (endBatch calls e error).Leaves s (Drains e s x x.drainer)
      (fun t => x.state = .active ∧ Drains e s x x.drainer t) := by
  cases error with
  | some error => exact leaves_countFailure hcalls hsound hx hbusy htidy error
  | none =>
    have hevent : s.Evolves ((s.onEngine e id).noted (.batchOver e none)) :=
      .single (.event id hx rfl (.succeeded hbusy) trivial)
    rw [onEngine_id] at hevent
    refine .of_ok rfl hevent ⟨balancedBut_noted hx rfl, x, hx, rfl, ?_, ?_, ?_⟩
    · exact .of_same rfl rfl rfl (.inl rfl) (fun hmem => by simpa using hmem) (by simp [pushed])
    · rw [history_noted]
      exact (hsound.lives.vital hx).idle_over hbusy _
    · rintro ⟨n, err, hmem⟩
      exact htidy ⟨n, err, by simpa using hmem⟩

/-- A batch was handed over: its hook runs, and then it is over. -/
lemma leaves_batch (hsound : s.Sound) (hx : s.engines[e]? = some x) (hdrainer : x.drainer ≠ none)
    (hidle : Idle e s.history) (hclosed : x.closed = false) (hqueue : x.queue ≠ []) :
    (do
      endBatch calls e (failure? (← Act.contain (runBatch calls e x.queue)))
      return x.queue.length : Act Nat).Leaves (s.handing e x) (Drains e s x x.drainer)
      (fun t => x.state ≠ .shutDown ∧ Drains e s x x.drainer t) := by
  set u := s.handing e x with hu_def
  have hu : u.engines[e]? = some x.takeAll := engine_handing hx
  have hstep : s.Evolves u := evolves_handing hx hdrainer hidle hclosed hqueue
  have hbut : BalancedBut e s u := balancedBut_event hx rfl rfl rfl rfl
  have hsteady : Engine.Steady e s.history x u.history x.takeAll := by
    rw [hu_def, history_handing]
    exact .of_same rfl rfl rfl (.inr rfl) (fun hmem => by simpa using hmem) (by simp [pushed])
  have hbusy : ¬ Idle e u.history := by
    have hnone : outcomes e [.hook e (.batch x.queue)] = [] := rfl
    simp only [Idle] at hidle
    simp [hu_def, history_handing, Idle, hidle, hnone]
  have husound := hstep.sound hsound
  refine Leaves.bind (((regular_runBatch hcalls e x.queue) u).leaves husound).contain
    (fun result t _ hut hbalanced => ?_) fun t _ h => h.elim
  obtain ⟨y, hy, hxy⟩ := (hbalanced.each e).old _ hu
  have htsound := hut.sound husound
  have htidy := hxy.tidy (husound.lives.vital hu) fun _ => rfl
  have hsy := hsteady.trans hxy.toSteady
  have hst := hstep.trans hut
  have hbut' := hbut.trans hstep.lasts hut.lasts (hbalanced.but e)
  have hover := leaves_endBatch hcalls htsound hy (fun h => hbusy (hxy.idle.mp h)) htidy
    (failure? result)
  rw [hxy.drainer] at hover
  refine Leaves.bind hover (fun _ v _ htv hdrains => ?_) fun v htv h => ⟨fun hdown => ?_, ?_⟩
  · exact .of_ok rfl .refl (hdrains.before hbut' hst htv hsy)
  · rw [hsy.shutDown hdown] at h
    simp at h
  · exact h.2.before hbut' hst htv hsy

/-- **Draining once.** -/
lemma works_drain (e : EngineId) : (drain calls e).Works e := by
  intro s x hsound hx hdrainer hidle
  cases hclosed : x.closed with
  | true =>
    have hevent : s.Evolves ((s.onEngine e Engine.takeAll).noted (.discarded e x.queue)) :=
      .single (.event Engine.takeAll hx rfl (.discarded hclosed) trivial)
    rw [Leaves, drain, on_bind_of_ok (on_engine_of_some hx), hclosed, if_pos rfl,
      on_bind_of_ok (on_discardQueue hx)]
    refine ⟨hevent, balancedBut_event hx rfl rfl rfl rfl, x.takeAll, engines_onEngine_self hx, rfl,
      ?_, ?_, fun _ => rfl⟩
    · exact .of_same rfl rfl rfl (.inr rfl) (fun hmem => by simpa using hmem) (by simp [pushed])
    · simpa [Idle, batches, outcomes] using hidle
  | false =>
    by_cases hqueue : x.queue = []
    · rw [Leaves, on_drain_of_nil calls hx hclosed hqueue]
      exact ⟨.refl, (Balanced.refl s).but e, x, hx, rfl, .refl e s.history x, hidle, fun _ => hqueue⟩
    · exact .of_on (on_drain_of_waiting calls hx hclosed hqueue)
        (evolves_handing hx hdrainer hidle hclosed hqueue)
        (leaves_batch hcalls hsound hx hdrainer hidle hclosed hqueue)

/-- **Draining until nothing is left.** -/
lemma works_drainAll (e : EngineId) : ∀ rounds, (drainAll calls e rounds).Works e
  | 0 => fun s x _ _ _ _ => ⟨.refl, trivial⟩
  | rounds + 1 => by
    intro s x hsound hx hdrainer hidle
    refine Leaves.bind (works_drain hcalls e s x hsound hx hdrainer hidle)
      (fun n t _ hst hdrains => ?_) fun t _ h => h
    split
    · exact .of_ok rfl .refl hdrains
    · obtain ⟨hbut, y, hy, hd, hxy⟩ := hdrains
      have hrest := works_drainAll e rounds t y (hst.sound hsound) hy (hd ▸ hdrainer) hxy.idle
      rw [hd] at hrest
      refine hrest.mono (fun u htu h => h.before hbut hst htu hxy.toSteady) fun u htu h => ?_
      refine ⟨fun hdown => h.1 (hxy.shutDown hdown), h.2.before hbut hst htu hxy.toSteady⟩

end Draining

/-! ## The thread that drains -/

/-- An act is done by the thread that drains the engine. -/
lemma leaves_asDrainer {α : Type} {act : Act α} {P P' E E' : System → Prop}
    (hact : act.Leaves (s.onEngine e (Engine.beginDrain s.thread.id)) P E)
    (hx : s.engines[e]? = some x) (hdrainer : x.drainer = none)
    (hP : ∀ t, (s.onEngine e (Engine.beginDrain s.thread.id)).Evolves t → P t →
      t.Evolves (t.onEngine e Engine.endDrain) ∧ P' (t.onEngine e Engine.endDrain))
    (hE : ∀ t, (s.onEngine e (Engine.beginDrain s.thread.id)).Evolves t → E t →
      t.Evolves (t.onEngine e Engine.endDrain) ∧ E' (t.onEngine e Engine.endDrain)) :
    (asDrainer e act).Leaves s P' E' := by
  have hbegin : s.Evolves (s.onEngine e (Engine.beginDrain s.thread.id)) :=
    .single (.shift _ hx rfl (.beginDrain s.thread.id hdrainer))
  exact .of_on rfl .refl ((Ends.after hact hP hE).before hbegin)

/-- An act that drains an engine gives the flag back at its end, and has left the engine's books
balanced. -/
lemma leaves_works {α : Type} {act : Act α} (hact : act.Works e) (hsound : s.Sound)
    (hx : s.engines[e]? = some x) (hdrainer : x.drainer = none) :
    (asDrainer e act).Leaves s (Drains e s x none)
      fun t => x.state ≠ .shutDown ∧ Drains e s x none t := by
  have hidle : Idle e s.history := (hsound.lives.vital hx).idle hdrainer
  have hbegin : s.Evolves (s.onEngine e (Engine.beginDrain s.thread.id)) :=
    .single (.shift _ hx rfl (.beginDrain s.thread.id hdrainer))
  have hbut : BalancedBut e s (s.onEngine e (Engine.beginDrain s.thread.id)) :=
    balancedBut_onEngine hx rfl rfl rfl
  have hwork := hact _ _ (hbegin.sound hsound) (engines_onEngine_self hx) (by simp [Engine.beginDrain])
    hidle
  have hsteady : Engine.Steady e s.history x s.history (x.beginDrain s.thread.id) :=
    .of_same rfl rfl rfl (.inl rfl) (fun hmem => hmem) rfl
  have hmono := hwork.mono (fun t hut h => h.before hbut hbegin hut hsteady)
    fun t hut h => And.intro h.1 (h.2.before hbut hbegin hut hsteady)
  refine leaves_asDrainer hmono hx hdrainer (fun t hst h => h.endDrain (hbegin.trans hst))
    fun t hst h => ?_
  obtain ⟨hstep, hdrains⟩ := h.2.endDrain (hbegin.trans hst)
  exact ⟨hstep, h.1, hdrains⟩

/-- Whoever begins to drain an engine that nobody drains leaves everything in balance. -/
lemma regularAt_asDrainer {α : Type} {act : Act α} (hact : act.Works e)
    (hx : s.engines[e]? = some x) (hdrainer : x.drainer = none) : (asDrainer e act).RegularAt s := by
  refine regularAt_of_leaves fun hsound => ?_
  have hvital := hsound.lives.vital hx
  exact (leaves_works hact hsound hx hdrainer).mono
    (fun t _ h => h.toBalanced hvital hx hdrainer) fun t _ h => h.2.toBalanced hvital hx hdrainer

section Engines

variable {calls : Reentry} (hcalls : calls.Regular)

include hcalls

/-- Draining an engine is regular: it hands one batch over if nobody else drains the engine. -/
lemma regular_tryDrain (e : EngineId) : (tryDrain calls e).Regular := by
  refine fun s => regularAt_engine fun x hx => ?_
  cases hdrainer : x.drainer with
  | some thread => exact regular_pure _ s
  | none =>
    exact (regularAt_asDrainer (works_drain hcalls e) hx hdrainer).bind fun _ t _ => regular_pure _ t

/-- Flushing an engine is regular: batches are handed over until nothing waits, and it stalls if the
engine is drained by its own thread. -/
lemma regular_flush (e : EngineId) : (flush calls e).Regular := by
  refine fun s => regularAt_engine fun x hx => ?_
  cases hdrainer : x.drainer with
  | some thread =>
    refine regularAt_get ?_
    split
    · exact regular_pure _ s
    · exact regular_throw _ s
  | none => exact regularAt_asDrainer (works_drainAll hcalls e calls.rounds) hx hdrainer

/-! ## Taking records -/

/-- An object joins the queue, and somebody may drain it.  Before, the engine was active, and was
`x`. -/
lemma leaves_queue (hsound : s.Sound) (hst : s.Evolves t) (hx : s.engines[e]? = some x)
    (hstate : x.state = .active) (hbalanced : s.Balanced t) (object : String) :
    (do
      updateEngine e (Engine.push object)
      note (.queued e object)
      let _ ← tryDrain calls e : Act Unit).Leaves t s.Balanced s.Balanced := by
  obtain ⟨y, hy, hxy⟩ := (hbalanced.each e).old x hx
  set u := (t.onEngine e (Engine.push object)).noted (.queued e object)
  have hu : u.engines[e]? = some (y.push object) := engines_onEngine_self hy
  have hrank : 1 ≤ y.state.rank := by
    have hle := hxy.state
    rwa [hstate] at hle
  have hstarted : y.state ≠ .uninitialized := fun h => by simp [h, EngineState.rank] at hrank
  have hstep : t.Evolves u :=
    .single (.event (Engine.push object) hy rfl (.queued object hstarted) trivial)
  have hsu := hst.trans hstep
  have hbut : BalancedBut e s u :=
    (hbalanced.but e).trans hst.lasts hstep.lasts (balancedBut_event hy rfl rfl rfl rfl)
  have hdown : x.state ≠ .shutDown := by simp [hstate]
  have hsteady : Engine.Steady e s.history x u.history (y.push object) :=
    .of_ending hxy.starting hxy.state hdown (hxy.ending hdown)
  have husound := hsu.sound hsound
  refine .of_on ((on_bind_of_ok (on_updateEngine _ _) _).trans (on_bind_of_ok (on_note _) _))
    hstep ?_
  rw [tryDrain, bind_assoc]
  refine .of_on (on_bind_of_ok (on_engine_of_some hu) _) .refl ?_
  cases hdrainer : y.drainer with
  | some thread =>
    have hnone : x.drainer ≠ none := by simp [← hxy.drainer, hdrainer]
    have hidle : Idle e u.history ↔ Idle e t.history := by simp [u, Idle, batches, outcomes]
    have hdisabled : Disabled e u.history → Disabled e t.history := by
      rintro ⟨n, error, hmem⟩
      exact ⟨n, error, by simpa [u] using hmem⟩
    have hend : s.Balanced u := balanced_of_but hbut hx hu {
      hsteady with
      drainer := hxy.drainer
      idle := hidle.trans hxy.idle
      spared := fun hd h => hxy.spared hd (hdisabled h)
      settled := fun hd => absurd hd hnone }
    simp only [Engine.push, hdrainer]
    exact .of_ok rfl .refl hend
  | none =>
    have hnone : x.drainer = none := hxy.drainer.symm.trans hdrainer
    have hvital := hsound.lives.vital hx
    have hwork := leaves_works (works_drain hcalls e) husound hu hdrainer
    simp only [Engine.push, hdrainer, bind_assoc]
    have hend : ∀ v, u.Evolves v → Drains e u (y.push object) none v → s.Balanced v :=
      fun v huv h => (h.before hbut hsu huv hsteady).toBalanced hvital hx hnone
    refine Leaves.bind (hwork.mono hend fun v huv h => hend v huv h.2) (fun _ v _ _ h => ?_)
      fun v _ h => h
    exact .of_ok rfl .refl h

/-- Giving an engine a record is regular: the object that its sink makes of it joins the queue, and
a drain follows. -/
lemma regular_takeRecord (e : EngineId) (r : RecordId) : (takeRecord calls e r).Regular := by
  refine fun s => regularAt_engine fun x hx => ?_
  split
  · rename_i hactive
    have hstate : x.state = .active := by simpa using hactive
    refine regularAt_of_leaves fun hsound => ?_
    have hevent : s.Evolves ((s.onEngine e id).noted (.hook e (.record r))) :=
      .single (.event id hx rfl (.record r) trivial)
    have hbut : BalancedBut e s (s.noted (.hook e (.record r))) := balancedBut_noted hx rfl
    rw [onEngine_id] at hevent
    have hbegin : s.Balanced (s.noted (.hook e (.record r))) := by
      refine balanced_of_but hbut hx hx (.of_same rfl ?_ rfl rfl rfl rfl ?_ ?_ (by simp [pushed]))
      · simp [Idle, batches, outcomes]
      · exact fun hmem => by simpa using hmem
      · rintro ⟨n, error, hmem⟩
        exact ⟨n, error, by simpa using hmem⟩
    have hrecord := (regular_runRecord hcalls e r _).leaves (hevent.sound hsound)
    refine .of_on (on_bind_of_ok (on_note _) _) hevent (Leaves.bind (hrecord.mono
      (fun t ht h => hbegin.trans hevent.lasts ht.lasts h)
      fun t ht h => hbegin.trans hevent.lasts ht.lasts h) (fun o t _ ht h => ?_) fun t _ h => h)
    cases o with
    | none => exact .of_ok rfl .refl h
    | some object => exact leaves_queue hcalls hsound (hevent.trans ht) hx hstate h object
  · exact regular_pure _ s

/-! ## Stopping -/

/-- An engine drains its queue for the last time, and closes. -/
lemma leaves_lastDrain (hsound : s.Sound) (hx : s.engines[e]? = some x) (hstate : x.state = .shutDown)
    (hclosed : x.closed = false) (hdrainer : x.drainer ≠ none) (hidle : Idle e s.history)
    (hasked : Entry.deactivated e .asked ∈ s.history) (rounds : Nat) :
    (do drainAll calls e rounds; close calls e : Act Unit).Leaves s
      (Fares e s fun h y => Idle e h ∧ Engine.Tidy e h y ∧ y.closed = true ∧
        y.starting = x.starting)
      (fun t => s.Broke t ∧ Fares e s (fun h y => Idle e h ∧ Engine.Tidy e h y ∧ y.closed = true ∧
        y.starting = x.starting) t) := by
  refine Leaves.bind (works_drainAll hcalls e rounds s x hsound hx hdrainer hidle)
    (fun _ t _ hst hdrains => ?_) fun t _ h => absurd hstate h.1
  obtain ⟨hbut, y, hy, -, hxy⟩ := hdrains
  have hclose := leaves_close hcalls (hst.sound hsound) hy (hxy.shutDown hstate)
    ((hxy.ended hstate).1.trans hclosed) (hst.lasts.mem_history hasked)
  have hend : ∀ u, t.Evolves u → Fares e t (Engine.Closes e t.history y) u →
      Fares e s (fun h y => Idle e h ∧ Engine.Tidy e h y ∧ y.closed = true ∧
        y.starting = x.starting) u := by
    intro u htu h
    refine (h.after hbut hst htu).mono fun z _ hyz => ?_
    exact ⟨hyz.idle.mpr hxy.idle, hyz.tidy hxy.tidy, hyz.closed, hyz.starting.trans hxy.starting⟩
  exact hclose.mono hend fun u htu h => ⟨h.1.before hst.lasts, hend u htu h.2⟩

omit hcalls in
/-- An engine that left its router and was closed afterwards has ended its life well. -/
lemma balanced_stopped (hsound : s.Sound) (hx : s.engines[e]? = some x) (hstate : x.state = .active)
    (hwt : (s.left e x .asked).Evolves t) (hbut : BalancedBut e (s.left e x .asked) t)
    (hy : t.engines[e]? = some y) (hclosed : y.closed = true) (hstarting : y.starting = x.starting)
    (hdrainer : y.drainer = x.drainer) (hidle : Idle e t.history ↔ Idle e s.history)
    (hspared : x.drainer ≠ none → Disabled e t.history → Disabled e s.history)
    (hsettled : x.drainer = none → Engine.Tidy e t.history y) :
    s.Balanced t ∧ ∀ z, t.engines[e]? = some z → z.state ≠ .active := by
  have hstep : s.Evolves (s.left e x .asked) := .single (.left hx hstate)
  obtain ⟨r, id, hactivated, hrouter, hslot, -⟩ := hsound.careers.place hx hstate
  have hleft := balancedBut_left hsound.wired .asked hx hactivated hrouter hslot
  have hdown : y.state = .shutDown :=
    (((hstep.trans hwt).sound hsound).lives.vital hy).closed_state hclosed
  have hsteady : Engine.Steady e s.history x t.history y :=
    .of_ending hstarting (by simp [hstate, hdown, EngineState.rank]) (by simp [hstate])
      fun _ => hclosed
  refine ⟨balanced_of_but (hleft.trans hstep.lasts hwt.lasts hbut) hx hy {
    hsteady with
    drainer := hdrainer
    idle := hidle
    spared := hspared
    settled := fun hd _ => hsettled hd }, fun z hz => ?_⟩
  obtain rfl : y = z := Option.some.inj (hy.symm.trans hz)
  simp [hdown]

/-- What an active engine does that is told to stop, once it has left its router: if nobody drains it,
it drains its queue for the last time. -/
lemma leaves_stopLeft (hsound : s.Sound) (hx : s.engines[e]? = some x) (hstate : x.state = .active) :
    (whenDraining e (do drainAll calls e calls.rounds; close calls e) (close calls e)).Leaves
      (s.left e x .asked)
      (fun t => s.Balanced t ∧ ∀ y, t.engines[e]? = some y → y.state ≠ .active)
      (fun t => s.Broke t ∧ s.Balanced t) := by
  have hvital := hsound.lives.vital hx
  have hclosed : x.closed = false := hvital.not_closed (by simp [hstate])
  have hstep : s.Evolves (s.left e x .asked) := .single (.left hx hstate)
  have hhistory : (s.left e x .asked).history = s.history ++ [.deactivated e .asked] := by
    simp [history, moments_left]
  have hw : (s.left e x .asked).engines[e]? = some x.deactivate := by
    rw [engines_left, engines_onEngine_self hx]
  have hstopped := fun {t y} => balanced_stopped (t := t) (y := y) hsound hx hstate
  set w := s.left e x .asked
  have hwsound := hstep.sound hsound
  have hasked : Entry.deactivated e .asked ∈ w.history := by simp [hhistory]
  have hidle : Idle e w.history ↔ Idle e s.history := by simp [hhistory, Idle, batches, outcomes]
  refine .of_on (on_bind_of_ok (on_engine_of_some hw) _) .refl ?_
  cases hdrainer : x.drainer with
  | none =>
    simp only [Engine.deactivate, hdrainer]
    have hbegin : w.Evolves (w.onEngine e (Engine.beginDrain w.thread.id)) :=
      .single (.shift _ hw rfl (.beginDrain w.thread.id hdrainer))
    have hbut : BalancedBut e w (w.onEngine e (Engine.beginDrain w.thread.id)) :=
      balancedBut_onEngine hw rfl rfl rfl
    have hquiet : Idle e s.history := hvital.idle hdrainer
    have hlast := leaves_lastDrain hcalls (hbegin.sound hwsound) (engines_onEngine_self hw) rfl hclosed
      (by simp [Engine.beginDrain]) (hidle.mpr hquiet) hasked calls.rounds
    have hend : ∀ t, (w.onEngine e (Engine.beginDrain w.thread.id)).Evolves t →
        Fares e (w.onEngine e (Engine.beginDrain w.thread.id)) (fun h y =>
          Idle e h ∧ Engine.Tidy e h y ∧ y.closed = true ∧ y.starting = x.starting) t →
            t.Evolves (t.onEngine e Engine.endDrain) ∧
              s.Balanced (t.onEngine e Engine.endDrain) ∧
                ∀ y, (t.onEngine e Engine.endDrain).engines[e]? = some y → y.state ≠ .active := by
      rintro t hwt ⟨hbut', y, hy, hover, htidy, hyclosed, hystarting⟩
      have hstop : t.Evolves (t.onEngine e Engine.endDrain) :=
        .single (.shift Engine.endDrain hy rfl (.endDrain hover))
      refine ⟨hstop, hstopped ((hbegin.trans hwt).trans hstop) ?_ (engines_onEngine_self hy) hyclosed hystarting
        hdrainer.symm (iff_of_true hover hquiet) (fun hd => absurd hdrainer hd) fun _ => htidy⟩
      have hmid := hbut.trans hbegin.lasts hwt.lasts hbut'
      exact hmid.trans (hbegin.trans hwt).lasts hstop.lasts (balancedBut_onEngine hy rfl rfl rfl)
    refine leaves_asDrainer hlast hw hdrainer hend fun t hwt h => ?_
    obtain ⟨hstop, hbalanced, -⟩ := hend t hwt h.2
    have hbroke := (h.1.before hbegin.lasts).before hstep.lasts
    exact ⟨hstop, hbroke.after hstop.lasts, hbalanced⟩
  | some thread =>
    simp only [Engine.deactivate, hdrainer]
    refine .of_on (on_bind_of_ok on_get _) .refl ?_
    split
    · have hend : ∀ t, w.Evolves t → Fares e w (Engine.Closes e w.history x.deactivate) t →
          s.Balanced t ∧ ∀ y, t.engines[e]? = some y → y.state ≠ .active := by
        rintro t hwt ⟨hbut, y, hy, hclosing⟩
        refine hstopped hwt hbut hy hclosing.closed hclosing.starting hclosing.drainer
          (hclosing.idle.trans hidle) (fun hd h => ?_) fun hd => ?_
        · obtain ⟨n, error, hmem⟩ := hclosing.spared hd h
          exact ⟨n, error, by simpa [hhistory] using hmem⟩
        · simp [hdrainer] at hd
      exact (leaves_close hcalls hwsound hw rfl hclosed hasked).mono hend fun t hwt h =>
        ⟨h.1.before hstep.lasts, (hend t hwt h.2).1⟩
    · exact ⟨.refl, trivial⟩

/-- **Stopping an engine**: afterwards it is not active.  Only its shutdown hook can panic. -/
lemma leaves_stopEngine (hsound : s.Sound) (e : EngineId) : (stopEngine calls e).Leaves s
    (fun t => s.Balanced t ∧ ∀ y, t.engines[e]? = some y → y.state ≠ .active)
    (fun t => s.Broke t ∧ s.Balanced t) := by
  cases hx : s.engines[e]? with
  | none =>
    have hon : (deactivate e .asked).on s = (.error (.missing "engine"), s) := by
      rw [deactivate, on_bind, on_engine, hx]
    rw [Leaves, stopEngine, on_bind_of_error hon]
    exact ⟨.refl, trivial⟩
  | some x =>
    have hvital := hsound.lives.vital hx
    cases hstarting : x.starting with
    | true =>
      rw [Leaves, stopEngine, on_bind_of_error (on_deactivate_of_starting .asked hx hstarting)]
      exact ⟨.refl, trivial⟩
    | false =>
      by_cases hstate : x.state = .active
      · obtain ⟨r, id, hactivated, hrouter, -⟩ := hsound.careers.place hx hstate
        have hon : (deactivate e .asked).on s = (.ok true, s.left e x .asked) := by
          refine on_deactivate .asked hx hstate hstarting fun r' hr' => ?_
          obtain rfl : r = r' := Option.some.inj (hrouter.symm.trans hr')
          obtain ⟨z, hz⟩ := hsound.wired.router e r id hactivated
          exact ⟨z, hz, hsound.wired.defaults r z hz⟩
        exact .of_on (on_bind_of_ok hon _) (.single (.left hx hstate))
          (leaves_stopLeft hcalls hsound hx hstate)
      · rw [Leaves, stopEngine, on_bind_of_ok (on_deactivate_of_ne .asked hx hstate hstarting)]
        refine ⟨.refl, .refl s, fun y hy => ?_⟩
        obtain rfl : x = y := Option.some.inj (hx.symm.trans hy)
        exact hstate

/-- Stopping an engine is regular: it leaves its router, is flushed, and its shutdown hook is
called. -/
lemma regular_stopEngine (e : EngineId) : (stopEngine calls e).Regular := fun _ =>
  regularAt_of_leaves fun hsound => (leaves_stopEngine hcalls hsound e).mono (fun _ _ h => h.1)
    fun _ _ h => h.2

end Engines

end System

end NamespaceLogging
