import NamespaceLogging.Proofs.SharedEngine

/-!
# What the drain flag guards

One thread at a time has the flag, and only that thread takes objects out of the queue.  So what it has
found there stays good: as long as the engine is open, all that was queued was handed over, is in the
thread's hand or waits, in this order.  An engine is shut down once, and the thread that does so is the
only one that closes it.

## Main definitions

* `Engine.Shared.Sound`: the flag has one owner, and objects are handed over in their order.
* `Engine.Shared.Orderly`: an engine is closed once, by the thread that shut it down.

## Main results

* `Engine.Shared.Sound.move`, `Engine.Shared.Orderly.move`: whatever a thread does, this stays so.
-/

set_option autoImplicit false

namespace NamespaceLogging

namespace Engine

namespace Shared

variable {w w' : Shared} {s t : ThreadId} {p q : Phase}

/-! ## What the flag guards -/

namespace Reads

variable {e : Engine} {hand : List String}

/-- No thread gets the flag or gives it back by reading alone. -/
lemma holds_eq (h : Reads e hand p q) : q.holds = p.holds := by
  cases h with
  | call request => exact Phase.holds_request request
  | takeNone | dropNone => exact Phase.holds_over _
  | dropSome | succeed | spare | forestalled | emptied => exact Phase.holds_again _
  | _ => rfl

/-- What a thread knows is what it has read. -/
lemma fits (h : Reads e hand p q) (hp : p.Fits e) : q.Fits e := by
  cases h with
  | call request => exact Phase.fits_request request e
  | look => rfl
  | count => exact ⟨Eq.symm hp, Nat.le_refl _⟩
  | countRest => exact Eq.symm hp
  | runOut => exact ⟨hp.1, Nat.zero_le _⟩
  | takeNone | dropNone => exact Phase.fits_over _ e
  | dropSome | succeed | spare | forestalled | emptied => exact Phase.fits_again _ e
  | pass | offer | stay | miss | hookOver | crash => trivial
  | restOut | fail | judge | hookOverFailing => exact hp

/-- Nobody gets on the way to close the engine by reading alone. -/
lemma closes (h : Reads e hand p q) (hlate : p.Late) (hq : q.closes = true) : p.closes = true := by
  cases h with
  | call request => simp at hq
  | takeNone | dropNone => exact (Phase.closes_over _).symm.trans hq
  | dropSome | succeed | spare | forestalled | emptied => exact (Phase.closes_again _).symm.trans hq
  | @hookOverFailing goal => exact absurd (eq_of_beq hq) hlate
  | pass | offer | stay | miss | hookOver | crash => exact hq
  | look | count | countRest | runOut | restOut | fail | judge => exact hq

/-- A thread that comes to close the engine by reading alone was asked to, and does not do so since batches
have failed. -/
lemma late (h : Reads e hand p q) : q.Late := by
  cases h with
  | call request => exact Phase.late_request request
  | takeNone | dropNone => exact Phase.late_over _
  | dropSome | succeed | spare | forestalled | emptied => exact Phase.late_again _
  | _ => trivial

end Reads

/-- One thread at most has the flag.  Until the engine is closed, all that was queued was handed over,
was taken for the next batch or waits, in this order. -/
structure Sound (w : Shared) : Prop where
  flag : ∀ t, (w.phase t).holds = true ↔ w.engine.drainer = some t
  fits : ∀ t, (w.phase t).Fits w.engine
  stock : w.engine.closed = false → w.pushed = w.batches.flatten ++ w.hand ++ w.engine.queue
  handed : w.batches.flatten <+: w.pushed

/-- When an engine was just attached, nobody has the flag, and nothing is queued. -/
lemma sound_started (sink : Sink) (threshold : UInt32) (router : RouterId) (slot : SlotId) :
    (started sink threshold router slot).Sound where
  flag t := by simp [started, attach, make, Phase.holds]
  fits t := trivial
  stock _ := rfl
  handed := List.prefix_refl _

namespace Sound

/-- Two threads that have the flag are one. -/
lemma eq_of_holds (hw : w.Sound) (hs : (w.phase s).holds = true) (ht : (w.phase t).holds = true) :
    s = t := by
  have hdrainer := (hw.flag s).mp hs
  rw [(hw.flag t).mp ht] at hdrainer
  exact (Option.some.inj hdrainer).symm

/-- Nobody else has the flag. -/
lemma outside (hw : w.Sound) (ht : (w.phase t).holds = true) (hne : s ≠ t) :
    (w.phase s).holds = false := by
  rw [Bool.eq_false_iff]
  intro hs
  exact hne (hw.eq_of_holds hs ht)

/-- What has to be checked when a thread does something. -/
lemma of_update (hphase : w'.phase = Function.update w.phase t p)
    (hflag : p.holds = true ↔ w'.engine.drainer = some t) (hfits : p.Fits w'.engine)
    (hothers : ∀ s, s ≠ t → ((w.phase s).holds = true ↔ w'.engine.drainer = some s) ∧
      (w.phase s).Fits w'.engine)
    (hstock : w'.engine.closed = false →
      w'.pushed = w'.batches.flatten ++ w'.hand ++ w'.engine.queue)
    (hhanded : w'.batches.flatten <+: w'.pushed) : w'.Sound where
  flag s := by
    rw [hphase]
    by_cases hs : s = t
    · rw [hs, Function.update_self]
      exact hflag
    · rw [Function.update_of_ne hs]
      exact (hothers s hs).1
  fits s := by
    rw [hphase]
    by_cases hs : s = t
    · rw [hs, Function.update_self]
      exact hfits
    · rw [Function.update_of_ne hs]
      exact (hothers s hs).2
  stock := hstock
  handed := hhanded

/-- A thread does something that touches neither the flag nor the queue. -/
lemma of_keeps (hw : w.Sound) (hphase : w'.phase = Function.update w.phase t p)
    (hholds : p.holds = (w.phase t).holds) (hfits : p.Fits w'.engine)
    (hdrainer : w'.engine.drainer = w.engine.drainer)
    (hclosed : w'.engine.closed = w.engine.closed) (hqueue : w'.engine.queue = w.engine.queue)
    (hhand : w'.hand = w.hand) (hpushed : w'.pushed = w.pushed) (hbatches : w'.batches = w.batches) :
    w'.Sound := by
  refine of_update hphase ?_ hfits ?_ ?_ ?_
  · rw [hholds, hdrainer]
    exact hw.flag t
  · intro s _
    rw [hdrainer]
    exact ⟨hw.flag s, (hw.fits s).mono hclosed (Nat.le_of_eq (by rw [hqueue]))⟩
  · rw [hclosed, hpushed, hbatches, hhand, hqueue]
    exact hw.stock
  · rw [hbatches, hpushed]
    exact hw.handed

/-- The thread with the flag does something. -/
lemma of_holds (hw : w.Sound) (ht : (w.phase t).holds = true)
    (hphase : w'.phase = Function.update w.phase t p) (hp : p.holds = true)
    (hdrainer : w'.engine.drainer = w.engine.drainer) (hfits : p.Fits w'.engine)
    (hstock : w'.engine.closed = false →
      w'.pushed = w'.batches.flatten ++ w'.hand ++ w'.engine.queue)
    (hhanded : w'.batches.flatten <+: w'.pushed) : w'.Sound := by
  refine of_update hphase ?_ hfits ?_ hstock hhanded
  · rw [hdrainer, hp]
    exact iff_of_true rfl ((hw.flag t).mp ht)
  · intro s hs
    rw [hdrainer]
    exact ⟨hw.flag s, Phase.fits_of_outside (hw.outside ht hs)⟩

/-- **Whatever a thread does**, the flag has one owner and the order is kept. -/
lemma move (hw : w.Sound) (hmove : Moves w t w') : w'.Sound := by
  have hfits := hw.fits t
  have hholds : ∀ {p}, w.phase t = p → p.holds = true → (w.phase t).holds = true := by
    intro p hphase hp
    rw [hphase]
    exact hp
  cases hmove with
  | read hreads =>
    exact hw.of_keeps rfl hreads.holds_eq (hreads.fits hfits) rfl rfl rfl rfl rfl rfl
  | @push object hphase =>
    have hlength : w.engine.queue.length ≤ (w.engine.push object).queue.length := by
      simp [Engine.push]
    refine of_update rfl ?_ trivial ?_ ?_ ?_
    · have hout : w.engine.drainer ≠ some t := by
        rw [Ne, ← hw.flag t, hphase]
        simp [Phase.holds]
      simp [Phase.holds, Engine.push, hout]
    · exact fun s _ => ⟨hw.flag s, (hw.fits s).mono rfl hlength⟩
    · intro hopen
      have hstock := hw.stock hopen
      simp [hstock, Engine.push]
    · exact hw.handed.trans (List.prefix_append ..)
  | stop hphase _ => exact hw.of_keeps rfl (by rw [hphase]; rfl) trivial rfl rfl rfl rfl rfl rfl
  | @acquire goal hphase hfree =>
    have hout : ∀ s, (w.phase s).holds = false := by
      intro s
      rw [Bool.eq_false_iff]
      intro hs
      simpa [hfree] using (hw.flag s).mp hs
    refine of_update rfl ?_ trivial ?_ hw.stock hw.handed
    · exact iff_of_true rfl rfl
    · intro s hs
      refine ⟨?_, Phase.fits_of_outside (hout s)⟩
      simp [hout s, beginDrain, Ne.symm hs]
  | @take goal left object rest hphase hqueue =>
    rw [hphase, Phase.Fits, hqueue] at hfits
    refine hw.of_holds (hholds hphase rfl) rfl rfl rfl ?_ ?_ hw.handed
    · refine ⟨hfits.1, ?_⟩
      simpa [pop, hqueue] using hfits.2
    · intro hopen
      have hstock := hw.stock hopen
      simp [hstock, pop, hqueue]
  | @handOver goal hphase hhand =>
    rw [hphase] at hfits
    have hstock := hw.stock hfits.1
    refine hw.of_holds (hholds hphase rfl) rfl rfl rfl hfits.1 ?_ ?_
    · intro _
      simp [hstock]
    · simp [hstock]
  | tally hphase =>
    rw [hphase] at hfits
    exact hw.of_keeps rfl (by rw [hphase]; rfl) hfits rfl rfl rfl rfl rfl rfl
  | retire hphase _ => exact hw.of_keeps rfl (by rw [hphase]; rfl) trivial rfl rfl rfl rfl rfl rfl
  | close hphase =>
    refine hw.of_holds (hholds hphase rfl) rfl rfl rfl rfl ?_ hw.handed
    intro hopen
    simp [Engine.close] at hopen
  | drop hphase =>
    rw [hphase] at hfits
    refine hw.of_holds (hholds hphase rfl) rfl rfl rfl hfits ?_ hw.handed
    intro hopen
    exact absurd (hfits.symm.trans hopen) (by simp)
  | empty hphase =>
    rw [hphase] at hfits
    refine hw.of_holds (hholds hphase rfl) rfl rfl rfl hfits ?_ hw.handed
    intro hopen
    exact absurd (hfits.symm.trans hopen) (by simp)
  | release hphase =>
    refine of_update rfl ?_ trivial ?_ hw.stock hw.handed
    · simp [Phase.holds, endDrain]
    · intro s hs
      have hout := hw.outside (hholds hphase rfl) hs
      refine ⟨?_, Phase.fits_of_outside hout⟩
      simp [hout, endDrain]

end Sound

/-! ## The end of the engine -/

/-- The engine is closed by one thread at most, and not before it was shut down. -/
structure Orderly (w : Shared) : Prop where
  open_of_closes : ∀ t, (w.phase t).closes = true →
    w.engine.state = .shutDown ∧ w.engine.closed = false
  eq_of_closes : ∀ s t, (w.phase s).closes = true → (w.phase t).closes = true → s = t
  shutDown_of_closed : w.engine.closed = true → w.engine.state = .shutDown
  late : ∀ t, (w.phase t).Late

/-- When an engine was just attached, it is active, and nobody is on the way to close it. -/
lemma orderly_started (sink : Sink) (threshold : UInt32) (router : RouterId) (slot : SlotId) :
    (started sink threshold router slot).Orderly := by
  constructor <;> simp [started, attach, make, Phase.closes, Phase.Late]

namespace Orderly

/-- As long as the engine is active, nobody is on the way to close it. -/
lemma closes_eq_false (ho : w.Orderly) (hactive : w.engine.state = .active) (t : ThreadId) :
    (w.phase t).closes = false := by
  rw [Bool.eq_false_iff]
  intro ht
  simpa [hactive] using (ho.open_of_closes t ht).1

/-- An engine that is active is not closed. -/
lemma open_of_active (ho : w.Orderly) (hactive : w.engine.state = .active) :
    w.engine.closed = false := by
  rw [Bool.eq_false_iff]
  intro hclosed
  simpa [hactive] using ho.shutDown_of_closed hclosed

/-- A thread does something that touches neither the state nor the mark. -/
lemma of_keeps (ho : w.Orderly) (hphase : w'.phase = Function.update w.phase t p)
    (hstate : w'.engine.state = w.engine.state) (hclosed : w'.engine.closed = w.engine.closed)
    (hcloses : p.closes = true → (w.phase t).closes = true) (hlate : p.Late) : w'.Orderly := by
  have hback : ∀ s, (w'.phase s).closes = true → (w.phase s).closes = true := by
    intro s hs
    rw [hphase] at hs
    by_cases hst : s = t
    · rw [hst, Function.update_self] at hs
      rw [hst]
      exact hcloses hs
    · rwa [Function.update_of_ne hst] at hs
  constructor
  · intro s hs
    rw [hstate, hclosed]
    exact ho.open_of_closes s (hback s hs)
  · exact fun r s hr hs => ho.eq_of_closes r s (hback r hr) (hback s hs)
  · rw [hstate, hclosed]
    exact ho.shutDown_of_closed
  · intro s
    rw [hphase]
    by_cases hst : s = t
    · rw [hst, Function.update_self]
      exact hlate
    · rw [Function.update_of_ne hst]
      exact ho.late s

/-- A thread shuts an active engine down, and will close it. -/
lemma of_deactivate (ho : w.Orderly) (hactive : w.engine.state = .active)
    (hphase : w'.phase = Function.update w.phase t p) (hengine : w'.engine = w.engine.deactivate)
    (hlate : p.Late) : w'.Orderly := by
  have honly : ∀ s, (w'.phase s).closes = true → s = t := by
    intro s hs
    by_contra hst
    rw [hphase, Function.update_of_ne hst, ho.closes_eq_false hactive s] at hs
    simp at hs
  constructor
  · intro s _
    rw [hengine]
    exact ⟨rfl, ho.open_of_active hactive⟩
  · intro r s hr hs
    rw [honly r hr, honly s hs]
  · intro _
    rw [hengine]
    rfl
  · intro s
    rw [hphase]
    by_cases hst : s = t
    · rw [hst, Function.update_self]
      exact hlate
    · rw [Function.update_of_ne hst]
      exact ho.late s

/-- **Whatever a thread does**, the engine is closed once, by the thread that shut it down. -/
lemma move (ho : w.Orderly) (hmove : Moves w t w') : w'.Orderly := by
  have hlate := ho.late t
  cases hmove with
  | read hreads => exact ho.of_keeps rfl rfl rfl (hreads.closes hlate) hreads.late
  | push hphase => exact ho.of_keeps rfl rfl rfl (by simp [Phase.closes]) trivial
  | stop hphase hactive => exact ho.of_deactivate hactive rfl rfl trivial
  | acquire hphase _ => exact ho.of_keeps rfl rfl rfl (by rw [hphase]; exact id) trivial
  | take hphase _ => exact ho.of_keeps rfl rfl rfl (by rw [hphase]; exact id) trivial
  | handOver hphase _ => exact ho.of_keeps rfl rfl rfl (by rw [hphase]; exact id) trivial
  | tally hphase => exact ho.of_keeps rfl rfl rfl (by rw [hphase]; exact id) trivial
  | @retire goal hphase hactive =>
    -- a thread that was about to close the engine anyhow finds it shut down already
    have hgoal : goal ≠ .stop := by
      rintro rfl
      have hcloses := ho.closes_eq_false hactive t
      rw [hphase] at hcloses
      simp [Phase.closes] at hcloses
    exact ho.of_deactivate hactive rfl rfl hgoal
  | @close next hphase =>
    have ht : (w.phase t).closes = true := by rw [hphase]; rfl
    have hnobody : ∀ s, (Function.update w.phase t (.ending next) s).closes = false := by
      intro s
      by_cases hst : s = t
      · rw [hst, Function.update_self]
        rfl
      · rw [Function.update_of_ne hst, Bool.eq_false_iff]
        intro hs
        exact hst (ho.eq_of_closes s t hs ht)
    constructor
    · intro s hs
      simp [enter, hnobody] at hs
    · intro r s hr _
      simp [enter, hnobody] at hr
    · exact fun _ => (ho.open_of_closes t ht).1
    · intro s
      by_cases hst : s = t
      · simp only [enter, hst, Function.update_self]
        rw [hphase] at hlate
        cases next <;> exact hlate
      · simp only [enter, Function.update_of_ne hst]
        exact ho.late s
  | drop hphase => exact ho.of_keeps rfl rfl rfl (by rw [hphase]; exact id) trivial
  | empty hphase => exact ho.of_keeps rfl rfl rfl (by rw [hphase]; exact id) trivial
  | release hphase => exact ho.of_keeps rfl rfl rfl (by simp [Phase.closes]) trivial

end Orderly

end Shared

end Engine

end NamespaceLogging
