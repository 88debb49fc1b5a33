import Mathlib.Logic.Function.Basic
import NamespaceLogging.Proofs.Interleaving
import NamespaceLogging.Sink.Engine

/-!
# Engines that threads share

Many threads give objects to one engine, flush it and shut it down.  A flag lets one of them at a time
hand objects over.  That thread looks how long the queue is, takes so many objects and hands them over
as one batch; meanwhile the others queue more.  Who flushes, or shuts the engine down, waits for the
flag and goes on until nothing is left.

## Main definitions

* `Engine.Phase`: how far a thread has come with its call.
* `Engine.Shared`: an engine with the calls of all threads.
* `Engine.Shared.step`: what a thread does next, one access to shared data at a time.
* `Engine.Shared.Moves`: the same as a relation, in which all steps that change nothing are one case.

## Main results

* `Engine.Shared.moves_of_step`: every step is one of these moves.
* `Engine.Shared.run_drain_alone`, `Engine.Shared.run_discard_alone`: a drain that no other thread
  disturbs takes the whole queue.

## Implementation notes

The batch and the shutdown hook are calls of the sink, which end at any time, in success or not.  From
inside them the sink may queue more objects; there it does so as any other thread would.  That it
flushes the engine or shuts it down from there has no part in this: no thread waits for itself.
-/

set_option autoImplicit false

namespace NamespaceLogging

namespace Engine

open Interleaving

/-- One object leaves the queue. -/
def pop (e : Engine) : Engine := { e with queue := e.queue.tail }

/-! ## Threads -/

/-- What a thread has the flag for. -/
inductive Goal where
  /-- To drain once.  It does not wait for the flag. -/
  | once
  /-- To drain until nothing is left. -/
  | empty
  /-- To drain until nothing is left, and to close the engine then. -/
  | stop
deriving DecidableEq

/-- What a thread asks of an engine. -/
inductive Request where
  /-- To take a record, of which the sink makes an object or not. -/
  | log (object : Option String)
  | drain
  | flush
  | stop

/-- How far a thread has come with what it asked for. -/
inductive Phase where
  | idle
  /-- It is about to look whether the engine is active. -/
  | offering (object : Option String)
  | queueing (object : String)
  /-- It is about to shut the engine down, if that is active. -/
  | stopping
  /-- It wants the flag. -/
  | waiting (goal : Goal)
  /-- It has the flag, and is about to look whether the engine is closed. -/
  | looking (goal : Goal)
  /-- It is about to look how long the queue is. -/
  | counting (goal : Goal) (closed : Bool)
  /-- It takes some more objects. -/
  | taking (goal : Goal) (left : Nat)
  /-- It drops some more objects, since the engine is closed. -/
  | dropping (goal : Goal) (left taken : Nat)
  /-- The sink has the batch. -/
  | processing (goal : Goal)
  /-- The batch has failed. -/
  | failed (goal : Goal)
  /-- It has counted the batch that failed. -/
  | judging (goal : Goal) (count : Nat)
  /-- It is about to shut the engine down, since too many batches have failed. -/
  | retiring (goal : Goal)
  /-- It has shut the engine down and is about to close it.  There is more to do afterwards if batches
  have failed. -/
  | closing (next : Option Goal)
  /-- The shutdown hook of the sink is running. -/
  | ending (next : Option Goal)
  /-- It drops all objects. -/
  | emptying (goal : Goal)
  /-- It is about to give the flag back. -/
  | releasing

/-- How a request begins. -/
def Request.phase : Request → Phase
  | log object => .offering object
  | drain => .waiting .once
  | flush => .waiting .empty
  | stop => .stopping

/-- After a drain that took something. -/
def Goal.again : Goal → Phase
  | once => .releasing
  | empty => .looking .empty
  | stop => .looking .stop

/-- After a drain that found nothing. -/
def Goal.over : Goal → Phase
  | once | empty => .releasing
  | stop => .closing none

namespace Phase

/-- Whether a thread is between getting the flag and giving it back. -/
def holds : Phase → Bool
  | idle | offering _ | queueing _ | stopping | waiting _ => false
  | _ => true

/-- Whether a thread has shut the engine down and is on its way to close it. -/
def closes : Phase → Bool
  | waiting goal | looking goal | counting goal _ | taking goal _ | dropping goal _ _ |
    processing goal | failed goal | judging goal _ | retiring goal | emptying goal => goal == .stop
  | closing _ => true
  | _ => false

/-- What a thread knows while it has the flag. -/
def Fits (e : Engine) : Phase → Prop
  | counting _ closed => closed = e.closed
  | taking _ left => e.closed = false ∧ left ≤ e.queue.length
  | processing _ | failed _ | judging _ _ | retiring _ => e.closed = false
  | dropping _ _ _ | ending _ | emptying _ => e.closed = true
  | _ => True

/-- Who closes the engine since batches have failed was not about to do so anyhow. -/
def Late : Phase → Prop
  | closing (some goal) | ending (some goal) => goal ≠ .stop
  | _ => True

section Beginnings

variable (request : Request) (goal : Goal) (e : Engine)

/-- A thread begins each request without the flag. -/
@[simp]
lemma holds_request : request.phase.holds = false := by cases request <;> rfl

/-- After a drain that took something, a thread has the flag still. -/
@[simp]
lemma holds_again : goal.again.holds = true := by cases goal <;> rfl

/-- After a drain that found nothing, a thread has the flag still. -/
@[simp]
lemma holds_over : goal.over.holds = true := by cases goal <;> rfl

/-- A thread that begins a request has nothing to know of the engine. -/
@[simp]
lemma fits_request : request.phase.Fits e := by cases request <;> trivial

/-- A thread that looks once more, or is about to give the flag back, has nothing to know of the
engine. -/
@[simp]
lemma fits_again : goal.again.Fits e := by cases goal <;> trivial

/-- A thread that has found nothing is going on without anything to know of the engine. -/
@[simp]
lemma fits_over : goal.over.Fits e := by cases goal <;> trivial

/-- No thread is on its way to close the engine when it begins a request. -/
@[simp]
lemma closes_request : request.phase.closes = false := by cases request <;> rfl

/-- After a drain that took something, just the thread that shut the engine down is on its way to
close it. -/
@[simp]
lemma closes_again : goal.again.closes = (goal == .stop) := by cases goal <;> rfl

/-- After a drain that found nothing, just the thread that shut the engine down is on its way to
close it. -/
@[simp]
lemma closes_over : goal.over.closes = (goal == .stop) := by cases goal <;> rfl

/-- A thread that begins a request closes nothing. -/
@[simp]
lemma late_request : request.phase.Late := by cases request <;> trivial

/-- A thread that looks once more closes nothing yet. -/
@[simp]
lemma late_again : goal.again.Late := by cases goal <;> trivial

/-- A thread that closes the engine after a drain does so since it was about to, and not since
batches have failed. -/
@[simp]
lemma late_over : goal.over.Late := by cases goal <;> trivial

end Beginnings

variable {p : Phase} {e e' : Engine}

/-- Who has no flag knows nothing. -/
lemma fits_of_outside (hp : p.holds = false) : p.Fits e := by
  cases p <;> simp_all [holds, Fits]

/-- More objects in the queue do no harm. -/
lemma Fits.mono (h : p.Fits e) (hclosed : e'.closed = e.closed)
    (hqueue : e.queue.length ≤ e'.queue.length) : p.Fits e' := by
  cases p with
  | taking goal left => exact ⟨hclosed.trans h.1, Nat.le_trans h.2 hqueue⟩
  | _ => simp_all [Fits]

end Phase

/-- An engine that threads share. -/
structure Shared where
  engine : Engine
  /-- The objects that the thread with the flag has taken for the next batch. -/
  hand : List String
  phase : ThreadId → Phase
  /-- All objects that were ever queued. -/
  pushed : List String
  /-- All batches that were ever handed over. -/
  batches : List (List String)

namespace Shared

variable {w w' u v : Shared} {s t : ThreadId} {p q : Phase} {goal : Goal}

/-- An engine that was just attached to a router. -/
def started (sink : Sink) (threshold : UInt32) (router : RouterId) (slot : SlotId) : Shared where
  engine := (make sink threshold).attach router slot
  hand := []
  phase _ := .idle
  pushed := []
  batches := []

/-- The thread comes to another phase. -/
def enter (w : Shared) (t : ThreadId) (p : Phase) : Shared :=
  { w with phase := Function.update w.phase t p }

/-- The thread that comes to a phase is in that phase. -/
@[simp]
lemma phase_enter_self : (w.enter t p).phase t = p := Function.update_self ..

/-- All other threads stay in their phases. -/
lemma phase_enter_of_ne (h : s ≠ t) : (w.enter t p).phase s = w.phase s := Function.update_of_ne h ..

/-- Coming to another phase does not change the engine. -/
@[simp]
lemma engine_enter : (w.enter t p).engine = w.engine := rfl

/-- Coming to another phase does not change what is taken for the next batch. -/
@[simp]
lemma hand_enter : (w.enter t p).hand = w.hand := rfl

/-- Coming to another phase queues nothing. -/
@[simp]
lemma pushed_enter : (w.enter t p).pushed = w.pushed := rfl

/-- Coming to another phase hands nothing over. -/
@[simp]
lemma batches_enter : (w.enter t p).batches = w.batches := rfl

/-- The next access of a thread to what is shared. -/
def advance (w : Shared) (t : ThreadId) : Option Shared :=
  match w.phase t with
  | .idle | .processing _ => none
  | .offering none => some (w.enter t .idle)
  | .offering (some object) =>
    some (w.enter t (if w.engine.state = .active then .queueing object else .idle))
  | .queueing object =>
    some { w.enter t (.waiting .once) with
      engine := w.engine.push object, pushed := w.pushed ++ [object] }
  | .stopping =>
    if w.engine.state = .active then
      some { w.enter t (.waiting .stop) with engine := w.engine.deactivate }
    else some (w.enter t .idle)
  | .waiting goal =>
    if w.engine.drainer = none then
      some { w.enter t (.looking goal) with engine := w.engine.beginDrain t }
    else if goal = .once then some (w.enter t .idle)
    else none
  | .looking goal => some (w.enter t (.counting goal w.engine.closed))
  | .counting goal false => some (w.enter t (.taking goal w.engine.queue.length))
  | .counting goal true => some (w.enter t (.dropping goal w.engine.queue.length 0))
  | .taking goal 0 =>
    if w.hand = [] then some (w.enter t goal.over)
    else some { w.enter t (.processing goal) with batches := w.batches ++ [w.hand], hand := [] }
  | .taking goal (left + 1) =>
    match w.engine.queue with
    | [] => some (w.enter t (.taking goal 0))
    | object :: _ =>
      some { w.enter t (.taking goal left) with engine := w.engine.pop, hand := w.hand ++ [object] }
  | .dropping goal 0 taken => some (w.enter t (if taken = 0 then goal.over else goal.again))
  | .dropping goal (left + 1) taken =>
    match w.engine.queue with
    | [] => some (w.enter t (.dropping goal 0 taken))
    | _ :: _ => some { w.enter t (.dropping goal left (taken + 1)) with engine := w.engine.pop }
  | .failed goal =>
    some { w.enter t (.judging goal w.engine.countFailure.errors) with
      engine := w.engine.countFailure }
  | .judging goal count =>
    some (w.enter t (if w.engine.threshold ≤ count ∧ w.engine.state = .active then .retiring goal
      else goal.again))
  | .retiring goal =>
    if w.engine.state = .active then
      some { w.enter t (.closing (some goal)) with engine := w.engine.deactivate }
    else some (w.enter t goal.again)
  | .closing next => some { w.enter t (.ending next) with engine := w.engine.close }
  | .ending none => some (w.enter t .releasing)
  | .ending (some goal) => some (w.enter t (.emptying goal))
  | .emptying goal =>
    match w.engine.queue with
    | [] => some (w.enter t goal.again)
    | _ :: _ => some { w.enter t (.emptying goal) with engine := w.engine.pop }
  | .releasing => some { w.enter t .idle with engine := w.engine.endDrain }

/-- Something that happens. -/
inductive Action where
  | call (t : ThreadId) (request : Request)
  | advance (t : ThreadId)
  /-- The sink is through with a batch. -/
  | finish (t : ThreadId) (error : Option AspectError)
  /-- The shutdown hook panics. -/
  | crash (t : ThreadId)

/-- What an action does, if it can be taken. -/
def step (w : Shared) : Action → Option Shared
  | .call t request =>
    match w.phase t with
    | .idle => some (w.enter t request.phase)
    | _ => none
  | .advance t => w.advance t
  | .finish t error =>
    match w.phase t with
    | .processing goal => some (w.enter t (if error.isSome then .failed goal else goal.again))
    | _ => none
  | .crash t =>
    match w.phase t with
    | .ending _ => some (w.enter t .releasing)
    | _ => none

/-! ## What a step can do -/

/-- What a thread does without changing anything that is shared. -/
inductive Reads (e : Engine) (hand : List String) : Phase → Phase → Prop
  | call (request : Request) : Reads e hand .idle request.phase
  | pass {object : Option String} : Reads e hand (.offering object) .idle
  | offer {object : String} (hactive : e.state = .active) :
      Reads e hand (.offering (some object)) (.queueing object)
  | stay (hstate : e.state ≠ .active) : Reads e hand .stopping .idle
  | miss (hdrainer : e.drainer ≠ none) : Reads e hand (.waiting .once) .idle
  | look {goal : Goal} : Reads e hand (.looking goal) (.counting goal e.closed)
  | count {goal : Goal} : Reads e hand (.counting goal false) (.taking goal e.queue.length)
  | countRest {goal : Goal} : Reads e hand (.counting goal true) (.dropping goal e.queue.length 0)
  | runOut {goal : Goal} {left : Nat} (hqueue : e.queue = []) :
      Reads e hand (.taking goal (left + 1)) (.taking goal 0)
  | takeNone {goal : Goal} (hhand : hand = []) : Reads e hand (.taking goal 0) goal.over
  | restOut {goal : Goal} {left taken : Nat} (hqueue : e.queue = []) :
      Reads e hand (.dropping goal (left + 1) taken) (.dropping goal 0 taken)
  | dropNone {goal : Goal} : Reads e hand (.dropping goal 0 0) goal.over
  | dropSome {goal : Goal} {taken : Nat} (htaken : taken ≠ 0) :
      Reads e hand (.dropping goal 0 taken) goal.again
  | succeed {goal : Goal} : Reads e hand (.processing goal) goal.again
  | fail {goal : Goal} : Reads e hand (.processing goal) (.failed goal)
  | spare {goal : Goal} {count : Nat} : Reads e hand (.judging goal count) goal.again
  | judge {goal : Goal} {count : Nat} (hcount : e.threshold ≤ count) (hactive : e.state = .active) :
      Reads e hand (.judging goal count) (.retiring goal)
  | forestalled {goal : Goal} (hstate : e.state ≠ .active) :
      Reads e hand (.retiring goal) goal.again
  | hookOver : Reads e hand (.ending none) .releasing
  | hookOverFailing {goal : Goal} : Reads e hand (.ending (some goal)) (.emptying goal)
  | crash {next : Option Goal} : Reads e hand (.ending next) .releasing
  | emptied {goal : Goal} (hqueue : e.queue = []) : Reads e hand (.emptying goal) goal.again

/-- What a thread can do next. -/
inductive Moves (w : Shared) (t : ThreadId) : Shared → Prop
  | read {p : Phase} (hreads : Reads w.engine w.hand (w.phase t) p) : Moves w t (w.enter t p)
  | push {object : String} (hphase : w.phase t = .queueing object) :
      Moves w t { w.enter t (.waiting .once) with
        engine := w.engine.push object, pushed := w.pushed ++ [object] }
  | stop (hphase : w.phase t = .stopping) (hactive : w.engine.state = .active) :
      Moves w t { w.enter t (.waiting .stop) with engine := w.engine.deactivate }
  | acquire {goal : Goal} (hphase : w.phase t = .waiting goal) (hfree : w.engine.drainer = none) :
      Moves w t { w.enter t (.looking goal) with engine := w.engine.beginDrain t }
  | take {goal : Goal} {left : Nat} {object : String} {rest : List String}
      (hphase : w.phase t = .taking goal (left + 1)) (hqueue : w.engine.queue = object :: rest) :
      Moves w t { w.enter t (.taking goal left) with
        engine := w.engine.pop, hand := w.hand ++ [object] }
  | handOver {goal : Goal} (hphase : w.phase t = .taking goal 0) (hhand : w.hand ≠ []) :
      Moves w t { w.enter t (.processing goal) with batches := w.batches ++ [w.hand], hand := [] }
  | tally {goal : Goal} (hphase : w.phase t = .failed goal) :
      Moves w t { w.enter t (.judging goal w.engine.countFailure.errors) with
        engine := w.engine.countFailure }
  | retire {goal : Goal} (hphase : w.phase t = .retiring goal)
      (hactive : w.engine.state = .active) :
      Moves w t { w.enter t (.closing (some goal)) with engine := w.engine.deactivate }
  | close {next : Option Goal} (hphase : w.phase t = .closing next) :
      Moves w t { w.enter t (.ending next) with engine := w.engine.close }
  | drop {goal : Goal} {left taken : Nat} (hphase : w.phase t = .dropping goal (left + 1) taken) :
      Moves w t { w.enter t (.dropping goal left (taken + 1)) with engine := w.engine.pop }
  | empty {goal : Goal} (hphase : w.phase t = .emptying goal) :
      Moves w t { w.enter t (.emptying goal) with engine := w.engine.pop }
  | release (hphase : w.phase t = .releasing) :
      Moves w t { w.enter t .idle with engine := w.engine.endDrain }

/-- The thread that does something. -/
def Action.thread : Action → ThreadId
  | call t _ | advance t | finish t _ | crash t => t

/-- A step that only takes the thread to another phase. -/
lemma Moves.of_reads (hphase : w.phase t = p) (hreads : Reads w.engine w.hand p q)
    (h : some (w.enter t q) = some w') : Moves w t w' := by
  subst hphase
  obtain rfl := Option.some.inj h
  exact .read hreads

/-- **What a thread does next** is one of the moves, by the phase that it is in. -/
lemma moves_of_advance (h : w.advance t = some w') : Moves w t w' := by
  cases hphase : w.phase t with
  | idle | processing goal => simp [advance, hphase] at h
  | offering object =>
    cases object with
    | none =>
      simp only [advance, hphase] at h
      exact .of_reads hphase .pass h
    | some object =>
      simp only [advance, hphase] at h
      split at h
      · rename_i hactive
        exact .of_reads hphase (.offer hactive) h
      · exact .of_reads hphase .pass h
  | queueing object =>
    simp only [advance, hphase, Option.some.injEq] at h
    subst h
    exact .push hphase
  | stopping =>
    simp only [advance, hphase] at h
    split at h
    · rename_i hactive
      obtain rfl := Option.some.inj h
      exact .stop hphase hactive
    · rename_i hstate
      exact .of_reads hphase (.stay hstate) h
  | waiting goal =>
    simp only [advance, hphase] at h
    split at h
    · rename_i hfree
      obtain rfl := Option.some.inj h
      exact .acquire hphase hfree
    · rename_i hdrainer
      simp only [Option.ite_none_right_eq_some] at h
      obtain ⟨rfl, h⟩ := h
      exact .of_reads hphase (.miss hdrainer) h
  | looking goal =>
    simp only [advance, hphase] at h
    exact .of_reads hphase .look h
  | counting goal closed =>
    cases closed with
    | false =>
      simp only [advance, hphase] at h
      exact .of_reads hphase .count h
    | true =>
      simp only [advance, hphase] at h
      exact .of_reads hphase .countRest h
  | taking goal left =>
    cases left with
    | zero =>
      simp only [advance, hphase] at h
      split at h
      · rename_i hhand
        exact .of_reads hphase (.takeNone hhand) h
      · rename_i hhand
        obtain rfl := Option.some.inj h
        exact .handOver hphase hhand
    | succ left =>
      simp only [advance, hphase] at h
      split at h
      · rename_i hqueue
        exact .of_reads hphase (.runOut hqueue) h
      · rename_i object rest hqueue
        obtain rfl := Option.some.inj h
        exact .take hphase hqueue
  | dropping goal left taken =>
    cases left with
    | zero =>
      simp only [advance, hphase] at h
      split at h
      · rename_i htaken
        subst htaken
        exact .of_reads hphase .dropNone h
      · rename_i htaken
        exact .of_reads hphase (.dropSome htaken) h
    | succ left =>
      simp only [advance, hphase] at h
      split at h
      · rename_i hqueue
        exact .of_reads hphase (.restOut hqueue) h
      · obtain rfl := Option.some.inj h
        exact .drop hphase
  | failed goal =>
    simp only [advance, hphase, Option.some.injEq] at h
    subst h
    exact .tally hphase
  | judging goal count =>
    simp only [advance, hphase] at h
    split at h
    · rename_i hjudge
      exact .of_reads hphase (.judge hjudge.1 hjudge.2) h
    · exact .of_reads hphase .spare h
  | retiring goal =>
    simp only [advance, hphase] at h
    split at h
    · rename_i hactive
      obtain rfl := Option.some.inj h
      exact .retire hphase hactive
    · rename_i hstate
      exact .of_reads hphase (.forestalled hstate) h
  | closing next =>
    simp only [advance, hphase, Option.some.injEq] at h
    subst h
    exact .close hphase
  | ending next =>
    cases next with
    | none =>
      simp only [advance, hphase] at h
      exact .of_reads hphase .hookOver h
    | some goal =>
      simp only [advance, hphase] at h
      exact .of_reads hphase .hookOverFailing h
  | emptying goal =>
    simp only [advance, hphase] at h
    split at h
    · rename_i hqueue
      exact .of_reads hphase (.emptied hqueue) h
    · obtain rfl := Option.some.inj h
      exact .empty hphase
  | releasing =>
    simp only [advance, hphase, Option.some.injEq] at h
    subst h
    exact .release hphase

/-- Whatever happens is one of the moves of the thread that does it: a call, the end of a batch and
a crash only change its phase. -/
lemma moves_of_step {a : Action} (h : w.step a = some w') : Moves w a.thread w' := by
  cases a with
  | call t request =>
    simp only [step] at h
    split at h
    · rename_i hphase
      exact .of_reads hphase (.call request) h
    · simp at h
  | advance t => exact moves_of_advance h
  | finish t error =>
    simp only [step] at h
    split at h
    · rename_i goal hphase
      split at h
      · exact .of_reads hphase .fail h
      · exact .of_reads hphase .succeed h
    · simp at h
  | crash t =>
    simp only [step] at h
    split at h
    · rename_i next hphase
      exact .of_reads hphase .crash h
    · simp at h

/-- A move of one thread leaves the phases of all others. -/
lemma Moves.phase_of_ne (h : Moves w t w') (hne : s ≠ t) : w'.phase s = w.phase s := by
  cases h <;> exact phase_enter_of_ne hne

/-! ## Drains that nobody disturbs -/

/-- Coming to the phase that a thread is in changes nothing. -/
lemma enter_of_phase (h : w.phase t = p) : w.enter t p = w := by
  rw [enter, ← h, Function.update_eq_self]

/-- Taking the queue of an engine changes nothing if it is empty. -/
lemma takeAll_of_nil {e : Engine} (h : e.queue = []) : e.takeAll = e := by
  rw [takeAll, ← h]

/-- What one more step of a thread adds to a run. -/
lemma run_advance (h : w.advance t = some u) (n : Nat) :
    run step w (List.replicate (n + 1) (.advance t)) = run step u (List.replicate n (.advance t)) := by
  simp [run, List.replicate_succ, step, h]

/-- As many objects are taken as there are. -/
lemma run_take (hphase : w.phase t = .taking goal w.engine.queue.length) :
    run step w (List.replicate w.engine.queue.length (.advance t)) =
      some { w.enter t (.taking goal 0) with
        engine := w.engine.takeAll, hand := w.hand ++ w.engine.queue } := by
  generalize hqueue : w.engine.queue = queue at hphase ⊢
  induction queue generalizing w with
  | nil =>
    have hsame : w.enter t (.taking goal 0) = w := enter_of_phase hphase
    simp only [hsame, takeAll_of_nil hqueue, List.append_nil]
    rfl
  | cons object rest ih =>
    have hstep : w.advance t = some { w.enter t (.taking goal rest.length) with
        engine := w.engine.pop, hand := w.hand ++ [object] } := by
      simp [advance, hphase, hqueue]
    refine (run_advance hstep rest.length).trans ((ih ?_ ?_).trans ?_)
    · simp [pop, hqueue]
    · exact phase_enter_self
    · simp [enter, pop, takeAll]

/-- As many objects are dropped as there are. -/
lemma run_drop (taken : Nat) (hphase : w.phase t = .dropping goal w.engine.queue.length taken) :
    run step w (List.replicate w.engine.queue.length (.advance t)) =
      some { w.enter t (.dropping goal 0 (taken + w.engine.queue.length)) with
        engine := w.engine.takeAll } := by
  generalize hqueue : w.engine.queue = queue at hphase ⊢
  induction queue generalizing w taken with
  | nil =>
    have hsame : w.enter t (.dropping goal 0 taken) = w := enter_of_phase hphase
    simp only [List.length_nil, Nat.add_zero, hsame, takeAll_of_nil hqueue]
    rfl
  | cons object rest ih =>
    have hstep : w.advance t = some { w.enter t (.dropping goal rest.length (taken + 1)) with
        engine := w.engine.pop } := by
      simp [advance, hphase, hqueue]
    refine (run_advance hstep rest.length).trans ((ih (taken + 1) ?_ ?_).trans ?_)
    · simp [pop, hqueue]
    · exact phase_enter_self
    · simp [enter, pop, takeAll, Nat.add_assoc, Nat.add_comm 1]

/-- **A drain that nobody disturbs** takes the whole queue and hands it over, if there is something in
it.  The engine changes as it does where one thread has it for itself. -/
theorem run_drain_alone (hphase : w.phase t = .looking goal) (hopen : w.engine.closed = false)
    (hhand : w.hand = []) : ∃ n, run step w (List.replicate n (.advance t)) = some (
      if w.engine.queue = [] then w.enter t goal.over
      else { w.enter t (.processing goal) with
        engine := w.engine.takeAll, batches := w.batches ++ [w.engine.queue] }) := by
  have hlook : w.advance t = some (w.enter t (.counting goal false)) := by
    simp [advance, hphase, hopen]
  have hcount : (w.enter t (.counting goal false)).advance t =
      some (w.enter t (.taking goal w.engine.queue.length)) := by
    simp [advance, enter]
  refine ⟨w.engine.queue.length + 1 + 1 + 1, ?_⟩
  refine (run_advance hlook _).trans ((run_advance hcount _).trans ?_)
  rw [List.replicate_succ', run_concat_iff]
  refine ⟨_, run_take (by exact phase_enter_self), ?_⟩
  split
  · rename_i hqueue
    simp [step, advance, enter, hhand, hqueue, takeAll_of_nil hqueue]
  · rename_i hqueue
    simp [step, advance, enter, hhand, hqueue]

/-- **A drain of a closed engine that nobody disturbs** drops the whole queue. -/
theorem run_discard_alone (hphase : w.phase t = .looking goal) (hclosed : w.engine.closed = true) :
    ∃ n, run step w (List.replicate n (.advance t)) = some
      { w.enter t (if w.engine.queue = [] then goal.over else goal.again) with
        engine := w.engine.takeAll } := by
  have hlook : w.advance t = some (w.enter t (.counting goal true)) := by
    simp [advance, hphase, hclosed]
  have hcount : (w.enter t (.counting goal true)).advance t =
      some (w.enter t (.dropping goal w.engine.queue.length 0)) := by
    simp [advance, enter]
  refine ⟨w.engine.queue.length + 1 + 1 + 1, ?_⟩
  refine (run_advance hlook _).trans ((run_advance hcount _).trans ?_)
  rw [List.replicate_succ', run_concat_iff]
  refine ⟨_, run_drop 0 (by exact phase_enter_self), ?_⟩
  simp [step, advance, enter]

end Shared

end Engine

end NamespaceLogging
