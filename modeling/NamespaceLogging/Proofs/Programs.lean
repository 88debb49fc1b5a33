import NamespaceLogging.Proofs.RegularSteps
import NamespaceLogging.Session.Run

/-!
# Programs

A program starts on a system without objects and takes one step after the other.  The scripts of the
handlers and sinks that it makes take steps as well, in the middle of its own.

Everything that holds of all programs is read from here: the states that a program can reach, the
states between two of its steps, and the points in the middle of a step at which an engine can be
seen.

## Main definitions

* `System.initial`: a system without objects.
* `System.Runs`, `System.Completes`: what a program does, to its end or not.
* `System.Reachable`, `System.Rested`: the states of a program, and those between two of its steps.
* `System.Passed`: the states in the middle of its steps as well.
* `System.Point`: an engine at some time of a program.

## Main results

* `System.Passed.sound`: the rules hold of every state that a program passes through.
* `System.Rested.atRest`: nothing is under way between two steps.
* `System.Rested.listed`: routers list their active engines, unless a shutdown hook has panicked.
* `System.Point.life`: at any time of a program, an engine has had a life.
-/

set_option autoImplicit false

namespace NamespaceLogging

open History

namespace System

variable {s t u : System} {e : EngineId} {x : Engine}

/-! ## States of a program -/

/-- A system without objects. -/
def initial (machinery : String) (callStack : List Frame) (clock : Instant) : System :=
  { machinery := machinery, callStack := callStack, clock := clock }

/-- A step is taken.  It may have been cut off in the middle, or may wait for ever. -/
def Takes (s t : System) : Prop := ∃ depth step, t = ((perform (.upTo depth) step).on s).2

/-- A step is taken and comes to its end, with an answer or by a panic. -/
def Finishes (s t : System) : Prop :=
  ∃ depth step, Act.isOver ((perform (.upTo depth) step).on s).1 = true ∧
    t = ((perform (.upTo depth) step).on s).2

/-- One step after the other. -/
def Runs : System → System → Prop := Relation.ReflTransGen Takes

/-- One step after the other, each to its end. -/
def Completes : System → System → Prop := Relation.ReflTransGen Finishes

/-- A state of a program. -/
def Reachable (s : System) : Prop :=
  ∃ machinery callStack clock, (initial machinery callStack clock).Runs s

/-- A state that a program passes through.  The steps that scripts take begin in such states. -/
def Passed (s : System) : Prop :=
  ∃ machinery callStack clock, (initial machinery callStack clock).Evolves s

/-- A state of a program between two of its steps. -/
def Rested (s : System) : Prop :=
  ∃ machinery callStack clock, (initial machinery callStack clock).Completes s

/-- A step that comes to its end was taken. -/
lemma Finishes.takes (h : s.Finishes t) : s.Takes t := by
  obtain ⟨depth, step, -, rfl⟩ := h
  exact ⟨depth, step, rfl⟩

/-- Steps that come to their ends were taken one after the other. -/
lemma Completes.runs (h : s.Completes t) : s.Runs t := by
  induction h with
  | refl => exact .refl
  | tail _ hfinishes ih => exact ih.tail hfinishes.takes

/-- A state between two steps of a program is one of its states. -/
lemma Rested.reachable (h : s.Rested) : s.Reachable := by
  obtain ⟨machinery, callStack, clock, h⟩ := h
  exact ⟨machinery, callStack, clock, h.runs⟩

/-- A program may take more steps in each of its states. -/
lemma Reachable.runs (hs : s.Reachable) (h : s.Runs t) : t.Reachable := by
  obtain ⟨machinery, callStack, clock, hs⟩ := hs
  exact ⟨machinery, callStack, clock, Relation.ReflTransGen.trans hs h⟩

/-- The state after some steps, with calls that nest to a depth. -/
def play (depth : Nat) (s : System) : List Step → System
  | [] => s
  | step :: steps => play depth ((perform (.upTo depth) step).on s).2 steps

/-- Whether all of the steps come to their end. -/
def playsOut (depth : Nat) (s : System) : List Step → Bool
  | [] => true
  | step :: steps =>
    let after := (perform (.upTo depth) step).on s
    Act.isOver after.1 && playsOut depth after.2 steps

/-- Playing steps takes them one after the other.  The induction is on the steps. -/
lemma runs_play (depth : Nat) : ∀ (steps : List Step) (s : System), s.Runs (s.play depth steps)
  | [], _ => .refl
  | step :: steps, _ => .head ⟨depth, step, rfl⟩ (runs_play depth steps _)

/-- Playing steps that play out takes each of them to its end.  The induction is on the steps. -/
lemma completes_play (depth : Nat) : ∀ (steps : List Step) (s : System),
    s.playsOut depth steps = true → s.Completes (s.play depth steps)
  | [], _, _ => .refl
  | step :: steps, _, h => by
    simp only [playsOut, Bool.and_eq_true] at h
    exact .head ⟨depth, step, h.1, rfl⟩ (completes_play depth steps _ h.2)

/-! ## What holds of them -/

/-- A system that has just begun keeps all rules: there is nothing in it to which they apply. -/
lemma sound_initial (machinery : String) (callStack : List Frame) (clock : Instant) :
    (initial machinery callStack clock).Sound where
  lives _ := .nobody
  careers e x hx := by simp [initial] at hx
  wired := by
    constructor <;> simp [initial, history, moments, Assembly.Lists]

/-- A step that is taken lets the system evolve, even if the step is cut off. -/
lemma Takes.evolves (hsound : s.Sound) (h : s.Takes t) : s.Evolves t := by
  obtain ⟨depth, step, rfl⟩ := h
  exact (regular_perform (Reentry.regular_upTo depth) step s hsound).1

/-- A step that comes to its end leaves all engines in balance. -/
lemma Finishes.balanced (hsound : s.Sound) (h : s.Finishes t) : s.Balanced t := by
  obtain ⟨depth, step, hover, rfl⟩ := h
  exact (regular_perform (Reentry.regular_upTo depth) step s hsound).2 hover

/-- **A program makes one change after the other.** -/
theorem Runs.evolves (hsound : s.Sound) (h : s.Runs t) : s.Evolves t := by
  induction h with
  | refl => exact .refl
  | tail _ htakes ih => exact ih.trans (htakes.evolves (ih.sound hsound))

/-- A program passes through all its states. -/
lemma Reachable.passed (hs : s.Reachable) : s.Passed := by
  obtain ⟨machinery, callStack, clock, hs⟩ := hs
  exact ⟨machinery, callStack, clock, hs.evolves (sound_initial machinery callStack clock)⟩

/-- **The rules hold of every state that a program passes through.** -/
theorem Passed.sound (hs : s.Passed) : s.Sound := by
  obtain ⟨machinery, callStack, clock, hs⟩ := hs
  exact hs.sound (sound_initial machinery callStack clock)

/-- The rules hold of every state of a program. -/
theorem Reachable.sound (hs : s.Reachable) : s.Sound := hs.passed.sound

/-- What is there in a state of a program lasts in all later ones. -/
lemma Runs.lasts (hs : s.Reachable) (h : s.Runs t) : s.Lasts t := (h.evolves hs.sound).lasts

/-- What holds of the system without objects, and after every step that comes to its end if it held
before, holds between any two steps. -/
lemma Rested.induction {P : System → Prop} (hs : s.Rested)
    (hinitial : ∀ machinery callStack clock, P (initial machinery callStack clock))
    (hstep : ∀ {s t : System}, s.Sound → s.Evolves t → s.Balanced t → P s → P t) : P s := by
  obtain ⟨machinery, callStack, clock, hs⟩ := hs
  have hsound := sound_initial machinery callStack clock
  induction hs with
  | refl => exact hinitial machinery callStack clock
  | tail h hfinish ih =>
    have hsound' := (Completes.runs h |>.evolves hsound).sound hsound
    exact hstep hsound' (hfinish.takes.evolves hsound') (hfinish.balanced hsound') ih

/-- **Routers list their active engines** between two steps, unless a shutdown hook has panicked. -/
theorem Rested.listed (hs : s.Rested) :
    (∃ e, Entry.crashed e ∈ s.history) ∨ ∀ e, s.Listed e := by
  refine hs.induction (P := fun s => (∃ e, Entry.crashed e ∈ s.history) ∨ ∀ e, s.Listed e)
    (fun _ _ _ => .inr fun e x hx => ?_) fun {s t} _ hevolves hbalanced ih => ?_
  · simp [initial] at hx
  · rcases ih with ⟨e, hcrashed⟩ | hlisted
    · exact .inl ⟨e, hevolves.lasts.mem_history hcrashed⟩
    · rcases hbalanced.lists with ⟨new, e, hnew, hcrashed⟩ | hkept
      · exact .inl ⟨e, hnew ▸ List.mem_append_right _ hcrashed⟩
      · exact .inr fun e => hkept e (hlisted e)

/-! ## Engines at any time -/

/-- An engine at some time of a program: now, or at a moment that was written down.  The history up
to that time is `h`. -/
inductive Point (s : System) (e : EngineId) : List Entry → Engine → Prop
  | now {x : Engine} (engine : s.engines[e]? = some x) : Point s e s.history x
  | past {before after : List Moment} {m : Moment} {x : Engine}
      (moments : s.moments = before ++ m :: after) (engine : m.assembly.engines[e]? = some x) :
      Point s e ((before ++ [m]).map Moment.entry) x

/-- **At any time of a program, an engine has had a life.** -/
theorem Point.life {h : List Entry} (hpoint : s.Point e h x) (hs : s.Reachable) :
    ∃ ms : List Moment, h = ms.map Moment.entry ∧ Engine.Life e ms (some x) := by
  cases hpoint with
  | now engine => exact ⟨s.moments, rfl, hs.sound.lives.life engine⟩
  | @past before after m x moments engine =>
    exact ⟨before ++ [m], rfl, engine ▸ (hs.sound.lives e).past moments⟩

/-! ## A small program -/

/-- A log call with a text. -/
def smallCall (text : String) : LogCall where
  level := .info
  site := .unknown
  template := text
  args := []
  cause := none

/-- A sink that takes every record, with scripts for its batches and for its end. -/
def smallSink (onBatch : Nat → List String → List (Move Step)) (onShutdown : Nat → List (Move Step)) :
    SinkBehaviour Step where
  name := "sink"
  least := .trace
  onInit _ := []
  onRecord _ _ := []
  object? _ message := some message
  onBatch := onBatch
  onShutdown := onShutdown

/-- A program with one router and one engine around a sink, which logs a text. -/
def smallProgram (threshold : Nat) (sink : SinkBehaviour Step) (text : String) : List Step :=
  [.makeRouter "router" (.ok (.startingAt .info)),
    .makeEngine "engine" threshold (.scripted sink),
    .onEngine "engine" (.init "router"),
    .onRouter "router" (.log (smallCall text))]

/-- The state after some steps on a system without objects. -/
def smallRun (steps : List Step) : System := (initial "" [] ⟨2024, 1, 1, 0, 0, 0, 0⟩).play 8 steps

/-- The state after some steps is one of a program. -/
lemma reachable_smallRun (steps : List Step) : (smallRun steps).Reachable :=
  ⟨_, _, _, runs_play 8 steps _⟩

/-- The state after some steps that play out is one between two steps of a program. -/
lemma rested_smallRun {steps : List Step}
    (hover : (initial "" [] ⟨2024, 1, 1, 0, 0, 0, 0⟩).playsOut 8 steps = true) :
    (smallRun steps).Rested :=
  ⟨_, _, _, completes_play 8 steps _ hover⟩

end System

end NamespaceLogging
