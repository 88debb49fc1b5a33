import NamespaceLogging.Proofs.DrainFlag

/-!
# One drain at a time

Whichever threads log, flush and shut the engine down at the same time, objects are handed over in the
order of the queue, and what was queued before the engine was shut down is handed over before the call
that did so is over.

## Main definitions

* `Engine.Shared.Serves`: what a thread that shuts the engine down has to hand over yet.

## Main results

* `Engine.Shared.serves_run`: a thread that shuts the engine down goes on to serve what is due.
* `Engine.Shared.single_flight`: batches are handed over one at a time, in the order of the queue and
  not after the engine was closed; shutting the engine down leaves nothing behind.
-/

set_option autoImplicit false

namespace NamespaceLogging

namespace Engine

open Interleaving

namespace Shared

variable {w w' u v : Shared} {s t : ThreadId} {p q : Phase}

/-! ## What is handed over -/

/-- Whatever a thread does, objects that were queued have been queued for ever. -/
lemma Moves.pushed_grow (h : Moves w t w') : w.pushed <+: w'.pushed := by
  cases h <;> simp

/-- Whatever a thread does, objects that were handed over have been handed over for ever. -/
lemma Moves.batches_grow (h : Moves w t w') : w.batches.flatten <+: w'.batches.flatten := by
  cases h <;> simp

/-- Once the engine is closed, it stays so, and no batch is handed over any more. -/
lemma Moves.of_closed (h : Moves w t w') (hw : w.Sound) (hclosed : w.engine.closed = true) :
    w'.engine.closed = true ∧ w'.batches = w.batches := by
  have hfits := hw.fits t
  cases h with
  | handOver hphase _ =>
    rw [hphase] at hfits
    exact absurd (hfits.1.symm.trans hclosed) (by simp)
  | close => exact ⟨rfl, rfl⟩
  | _ => exact ⟨hclosed, rfl⟩

/-- A thread that shuts the engine down has handed over what is due, or it is going to: it has taken
so much of it that the rest of its batch will do, or it will look for more. -/
def Serves (due : List String) (w : Shared) : Phase → Prop
  | .waiting .stop | .looking .stop | .counting .stop _ | .processing .stop | .failed .stop |
    .judging .stop _ | .retiring .stop => True
  | .taking .stop left => due <+: w.batches.flatten ++ w.hand ++ w.engine.queue.take left
  | _ => due <+: w.batches.flatten

namespace Serves

variable {due : List String}

/-- When all that is due was handed over, a thread serves it in whatever phase it is. -/
lemma of_handed (h : due <+: w.batches.flatten) : Serves due w p := by
  unfold Serves
  split
  case h_8 =>
    rw [List.append_assoc]
    exact h.trans (List.prefix_append ..)
  case h_9 => exact h
  all_goals trivial

/-- While one thread takes objects for its batch, others only queue more of them. -/
lemma taking_other {left : Nat} (h : Serves due w (.taking .stop left)) (hw : w.Sound)
    (hphase : w.phase s = .taking .stop left) (hmove : Moves w t w') (hne : s ≠ t) :
    Serves due w' (.taking .stop left) := by
  have hs : (w.phase s).holds = true := by rw [hphase]; rfl
  have hout := hw.outside hs (Ne.symm hne)
  have hfits := hw.fits s
  rw [hphase] at hfits
  cases hmove with
  | read => exact h
  | @push object _ =>
    have htake : (w.engine.queue ++ [object]).take left = w.engine.queue.take left :=
      List.take_append_of_le_length hfits.2
    simp only [Serves, Engine.push, htake]
    exact h
  | stop => exact h
  | acquire _ hfree =>
    rw [(hw.flag s).mp hs] at hfree
    simp at hfree
  | take hphase' | handOver hphase' | tally hphase' | retire hphase'
  | close hphase' | drop hphase' | empty hphase' | release hphase' =>
    rw [hphase'] at hout
    simp [Phase.holds] at hout

/-- Nobody else takes away what a thread is going to hand over. -/
lemma other (h : Serves due w (w.phase s)) (hw : w.Sound) (hmove : Moves w t w') (hne : s ≠ t) :
    Serves due w' (w'.phase s) := by
  rw [hmove.phase_of_ne hne]
  have hmore := hmove.batches_grow
  generalize hphase : w.phase s = p at h
  unfold Serves at h
  split at h
  case h_8 => exact taking_other h hw hphase hmove hne
  case h_9 => exact of_handed (h.trans hmore)
  all_goals trivial

/-- By reading, a thread that shuts the engine down gets to know of all that is due. -/
lemma reads (h : Serves due w (w.phase t)) (hw : w.Sound) (ho : w.Orderly) (hdue : due <+: w.pushed)
    (hreads : Reads w.engine w.hand (w.phase t) q) : Serves due (w.enter t q) q := by
  have hfits := hw.fits t
  have hcloses := ho.open_of_closes t
  generalize w.phase t = p at h hreads hfits hcloses
  cases hreads with
  | call | pass | offer | stay | miss => exact of_handed h
  | restOut | dropNone | dropSome | hookOver | hookOverFailing | crash => exact of_handed h
  | @look goal | @succeed goal | @fail goal | @spare goal | @judge goal | @forestalled goal =>
    cases goal with
    | stop => trivial
    | once | empty => exact of_handed h
  | @count goal =>
    cases goal with
    | stop =>
      have hstock := hw.stock hfits.symm
      rw [hstock] at hdue
      simpa [Serves] using hdue
    | once | empty => exact of_handed h
  | @countRest goal =>
    cases goal with
    | stop =>
      -- the engine is not closed yet, and the thread has seen that
      have hopen := (hcloses rfl).2
      rw [← hfits] at hopen
      simp at hopen
    | once | empty => exact of_handed h
  | @runOut goal left hqueue =>
    cases goal with
    | stop => simpa [Serves, hqueue] using h
    | once | empty => exact of_handed h
  | @takeNone goal hhand =>
    cases goal with
    | stop => exact of_handed (by simpa [Serves, hhand] using h)
    | once | empty => exact of_handed h
  | @emptied goal _ => exact of_handed h

/-- Nothing that is due gets lost. -/
lemma own (h : Serves due w (w.phase t)) (hw : w.Sound) (ho : w.Orderly) (hdue : due <+: w.pushed)
    (hmove : Moves w t w') : Serves due w' (w'.phase t) := by
  have hmore := hmove.batches_grow
  have hhanded : ∀ {p}, w.phase t = p → (Serves due w p → due <+: w.batches.flatten) →
      Serves due w' (w'.phase t) := by
    intro p hphase himp
    rw [hphase] at h
    exact of_handed ((himp h).trans hmore)
  cases hmove with
  | read hreads =>
    rw [phase_enter_self]
    exact h.reads hw ho hdue hreads
  | push hphase => exact hhanded hphase id
  | stop hphase => exact hhanded hphase id
  | @acquire goal hphase _ =>
    cases goal with
    | stop =>
      simp only [enter, Function.update_self]
      trivial
    | once | empty => exact hhanded hphase id
  | @take goal left object rest hphase hqueue =>
    cases goal with
    | stop =>
      rw [hphase] at h
      simp only [enter, Function.update_self]
      simpa [Serves, pop, hqueue] using h
    | once | empty => exact hhanded hphase id
  | @handOver goal hphase _ =>
    cases goal with
    | stop =>
      simp only [enter, Function.update_self]
      trivial
    | once | empty => exact hhanded hphase id
  | @tally goal hphase =>
    cases goal with
    | stop =>
      simp only [enter, Function.update_self]
      trivial
    | once | empty => exact hhanded hphase id
  | @retire goal hphase hactive =>
    cases goal with
    | stop =>
      have hcloses := ho.closes_eq_false hactive t
      rw [hphase] at hcloses
      simp [Phase.closes] at hcloses
    | once | empty => exact hhanded hphase id
  | close hphase => exact hhanded hphase id
  | drop hphase => exact hhanded hphase id
  | empty hphase => exact hhanded hphase id
  | release hphase => exact hhanded hphase id

end Serves

/-! ## One drain at a time -/

section Runs

variable {sink : Sink} {threshold : UInt32} {router : RouterId} {slot : SlotId} {actions : List Action}

/-- Whatever happens next, the flag keeps one owner and the engine is closed in an orderly way. -/
lemma sound_step {a : Action} (hw : w.Sound ∧ w.Orderly) (hstep : step w a = some w') :
    w'.Sound ∧ w'.Orderly :=
  ⟨hw.1.move (moves_of_step hstep), hw.2.move (moves_of_step hstep)⟩

/-- However threads interleave, the flag has one owner and the engine is closed in an orderly
way. -/
lemma sound_run (hrun : run step (started sink threshold router slot) actions = some w) :
    w.Sound ∧ w.Orderly :=
  run_keeps (P := fun v => v.Sound ∧ v.Orderly) hrun ⟨sound_started .., orderly_started ..⟩
    fun _ _ _ _ hv hstep => sound_step hv hstep

/-- Objects that were queued before a run are the first ones that were queued after it. -/
lemma pushed_grow_run (hrun : run step u actions = some w) : u.pushed <+: w.pushed :=
  run_keeps (P := fun v => u.pushed <+: v.pushed) hrun (List.prefix_refl _)
    fun _ _ _ _ hv hstep => hv.trans (moves_of_step hstep).pushed_grow

/-- After the engine was closed, nothing is handed over. -/
lemma closed_run (hu : u.Sound) (hclosed : u.engine.closed = true)
    (hrun : run step u actions = some w) : w.engine.closed = true ∧ w.batches = u.batches := by
  have hkept : w.Sound ∧ w.engine.closed = true ∧ w.batches = u.batches := by
    refine run_keeps (P := fun v => v.Sound ∧ v.engine.closed = true ∧ v.batches = u.batches)
      hrun ⟨hu, hclosed, rfl⟩ ?_
    rintro v v' a - ⟨hv, hvclosed, hbatches⟩ hstep
    have hmove := moves_of_step hstep
    obtain ⟨hclosed', hsame⟩ := hmove.of_closed hv hvclosed
    exact ⟨hv.move hmove, hclosed', hsame.trans hbatches⟩
  exact hkept.2

/-- A thread that shuts the engine down goes on to serve what is due. -/
lemma serves_run {due : List String} (hu : u.Sound ∧ u.Orderly) (hdue : due <+: u.pushed)
    (hserves : Serves due u (u.phase t)) (hrun : run step u actions = some w) :
    Serves due w (w.phase t) := by
  have hkept : (w.Sound ∧ w.Orderly) ∧ due <+: w.pushed ∧ Serves due w (w.phase t) := by
    refine run_keeps
      (P := fun v => (v.Sound ∧ v.Orderly) ∧ due <+: v.pushed ∧ Serves due v (v.phase t))
      hrun ⟨hu, hdue, hserves⟩ ?_
    rintro v v' a - ⟨hv, hvdue, hvserves⟩ hstep
    have hmove := moves_of_step hstep
    refine ⟨sound_step hv hstep, hvdue.trans hmove.pushed_grow, ?_⟩
    by_cases hthread : t = a.thread
    · rw [hthread] at hvserves ⊢
      exact hvserves.own hv.1 hv.2 hvdue hmove
    · exact hvserves.other hv.1 hmove hthread
  exact hkept.2.2

/-- **One drain at a time.**  However threads interleave that log, drain, flush and shut the engine
down, and whichever batches fail:

* one thread at most is between getting the flag and giving it back;
* the batches hand over what was queued, in its order and nothing twice, and nothing is lost as long
  as the engine is not closed;
* once the engine is closed, no batch is handed over any more;
* when the call that shut the engine down is over, all that was queued before it did so has been
  handed over, and so in particular all that was queued before the call.

**Proof sketch.** The thread with the flag is the only one that takes objects out of the queue, and
others add theirs behind them.  So the number of objects that it has found stays good, and its batch
is what comes next.  The thread that shuts the engine down is the only one that closes it: the engine
is shut down once.  It closes it after a look at the queue that found nothing, and until then the
queue goes on after what was handed over. -/
theorem single_flight (hrun : run step (started sink threshold router slot) actions = some w) :
    (∀ s t, (w.phase s).holds = true → (w.phase t).holds = true → s = t) ∧
    (w.batches.flatten <+: w.pushed ∧
      (w.engine.closed = false → w.pushed = w.batches.flatten ++ w.hand ++ w.engine.queue)) ∧
    (w.engine.closed = true → ∀ more v, run step w more = some v →
      v.engine.closed = true ∧ v.batches = w.batches) ∧
    (∀ first second third u v t, actions = first ++ .call t .stop :: (second ++ .advance t :: third) →
      run step (started sink threshold router slot) first = some u →
      run step (started sink threshold router slot) (first ++ .call t .stop :: second) = some v →
      v.phase t = .stopping → v.engine.state = .active → w.phase t = .idle →
      u.pushed <+: v.pushed ∧ v.pushed <+: w.batches.flatten) := by
  obtain ⟨hw, -⟩ := sound_run hrun
  refine ⟨fun s t => hw.eq_of_holds, ⟨hw.handed, hw.stock⟩, ?_, ?_⟩
  · intro hclosed more v hmore
    exact closed_run hw hclosed hmore
  · intro first second third u v t heq hu hv hphase hactive hidle
    constructor
    · obtain ⟨u', hu', hrest⟩ := run_append_iff.mp hv
      obtain rfl : u = u' := Option.some.inj (hu.symm.trans hu')
      exact pushed_grow_run hrest
    · have hsplit : actions = (first ++ .call t .stop :: second) ++ .advance t :: third := by
        simp [heq]
      rw [hsplit] at hrun
      obtain ⟨v', hv', hrest⟩ := run_append_iff.mp hrun
      obtain rfl : v = v' := Option.some.inj (hv.symm.trans hv')
      obtain ⟨x, hx, hrest⟩ := run_cons_iff.mp hrest
      have hsound := sound_step (sound_run hv) hx
      obtain rfl : { v.enter t (.waiting .stop) with engine := v.engine.deactivate } = x := by
        simpa [step, advance, hphase, hactive] using hx
      have hserves := serves_run (t := t) hsound (List.prefix_refl _) (by simp [Serves]) hrest
      rw [hidle] at hserves
      exact hserves

end Runs

/-- A sink that does nothing. -/
def idleSink : Sink := .scripted {
  name := "idle"
  least := .trace
  onInit _ := []
  onRecord _ _ := []
  object? _ message := some message
  onBatch _ _ := []
  onShutdown _ := [] }

/-- One thread looks how long the queue is before another one queues its object; two more pass the
check of the state. -/
def before : List Action :=
  [.call 0 (.log (some "a")), .advance 0, .advance 0, .advance 0, .advance 0, .advance 0,
    .call 1 (.log (some "b")), .advance 1, .advance 1, .advance 1,
    .call 3 (.log (some "c")), .advance 3, .call 4 (.log (some "d")), .advance 4]

/-- The engine is shut down while the first batch is under way.  This one fails; a thread queues its
object in time, and another one after the engine was closed. -/
def after : List Action :=
  [.advance 0, .advance 0, .finish 0 (some (.processing "full")), .advance 0, .advance 0, .advance 0,
    .advance 2, .advance 3, .advance 2, .advance 2, .advance 2, .advance 2, .advance 2, .finish 2 none,
    .advance 2, .advance 2, .advance 2, .advance 2, .advance 4, .advance 3, .advance 2, .advance 2,
    .advance 4, .advance 4, .advance 4, .advance 4, .advance 4, .advance 4]

/-- What was queued in time is handed over in two batches, and the rest is not. -/
theorem single_flight_of_late : ∃ u v w : Shared,
    run step (started idleSink 2 0 1) before = some u ∧
    run step (started idleSink 2 0 1) (before ++ [.call 2 .stop]) = some v ∧
      v.phase 2 = .stopping ∧ v.engine.state = .active ∧
    run step (started idleSink 2 0 1) (before ++ .call 2 .stop :: ([] ++ .advance 2 :: after)) = some w ∧
      w.phase 2 = .idle ∧ w.engine.closed = true ∧ w.batches = [["a"], ["b", "c"]] ∧
      w.pushed = ["a", "b", "c", "d"] ∧ u.pushed = ["a", "b"] ∧ u.pushed <+: v.pushed ∧
      v.pushed <+: w.batches.flatten := by
  have huview : (run step (started idleSink 2 0 1) before).map (fun u => u.pushed) =
      some ["a", "b"] := by rfl
  have hvview : (run step (started idleSink 2 0 1) (before ++ [.call 2 .stop])).map
      (fun v => (v.phase 2, v.engine.state)) = some (.stopping, .active) := by rfl
  have hwview : (run step (started idleSink 2 0 1)
      (before ++ .call 2 .stop :: ([] ++ .advance 2 :: after))).map
      (fun w => (w.phase 2, w.engine.closed, w.batches, w.pushed)) =
        some (.idle, true, [["a"], ["b", "c"]], ["a", "b", "c", "d"]) := by rfl
  obtain ⟨u, hu, hupushed⟩ := Option.map_eq_some_iff.mp huview
  obtain ⟨v, hv, heq⟩ := Option.map_eq_some_iff.mp hvview
  obtain ⟨hphase, hactive⟩ := Prod.mk.inj heq
  obtain ⟨w, hw, heq⟩ := Option.map_eq_some_iff.mp hwview
  simp only [Prod.mk.injEq] at heq
  obtain ⟨hidle, hclosed, hbatches, hpushed⟩ := heq
  refine ⟨u, v, w, hu, hv, hphase, hactive, hw, hidle, hclosed, hbatches, hpushed, hupushed, ?_⟩
  exact (single_flight hw).2.2.2 before [] after u v 2 rfl hu hv hphase hactive hidle

end Shared

end Engine

end NamespaceLogging
