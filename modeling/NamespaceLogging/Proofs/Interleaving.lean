import Mathlib.Data.List.Induction
import Mathlib.Tactic.Common

/-!
# Interleavings

Several threads take their steps in any order.  Where the order matters, a step is small enough that
nothing can happen in the middle of it.  What a step does is given by a function from a state and an
action to the next state; it has no value where the action cannot be taken, as when a thread waits for
a lock.  A run takes actions one after the other, and all interleavings are all lists of actions that
have a run.

## Main definitions

* `Interleaving.run`: the state after some actions.

## Main results

* `Interleaving.run_keeps`: what every step keeps is kept by a run.
* `Interleaving.run_induct`: the same with regard to the actions so far.
-/

set_option autoImplicit false

namespace NamespaceLogging

namespace Interleaving

variable {State Action : Type} {step : State → Action → Option State} {s t u : State} {a : Action}
  {actions more : List Action}

/-- The state after some actions, if each of them can be taken when its turn comes. -/
def run (step : State → Action → Option State) (s : State) (actions : List Action) : Option State :=
  actions.foldlM step s

/-- Without any action, a run ends where it began. -/
@[simp]
lemma run_nil : run step s [] = some s := rfl

/-- A run takes its first action, if it can be taken, and goes on from there. -/
lemma run_cons_iff :
    run step s (a :: actions) = some u ↔ ∃ t, step s a = some t ∧ run step t actions = some u := by
  simp [run, Option.bind_eq_some_iff]

/-- A run can be cut anywhere: the second part begins in the state in which the first one ended. -/
lemma run_append_iff : run step s (actions ++ more) = some u ↔
    ∃ t, run step s actions = some t ∧ run step t more = some u := by
  simp [run, Option.bind_eq_some_iff]

/-- A run takes its last action in the state to which all others have led. -/
lemma run_concat_iff :
    run step s (actions ++ [a]) = some u ↔ ∃ t, run step s actions = some t ∧ step t a = some u := by
  simp [run, Option.bind_eq_some_iff]

/-- What every step keeps is kept by a run. -/
lemma run_keeps {P : State → Prop} (hrun : run step s actions = some t) (hs : P s)
    (hstep : ∀ u v, ∀ a ∈ actions, P u → step u a = some v → P v) : P t := by
  induction actions generalizing s with
  | nil =>
    obtain rfl : s = t := by simpa using hrun
    exact hs
  | cons a actions ih =>
    obtain ⟨u, hu, hrun⟩ := run_cons_iff.mp hrun
    apply ih hrun
    · exact hstep s u a List.mem_cons_self hs hu
    · intro v w b hb
      exact hstep v w b (List.mem_cons_of_mem a hb)

/-- What holds at the start, and then after each action that a run takes, by what came before it. -/
lemma run_induct {P : List Action → State → Prop} (hrun : run step s actions = some t) (hs : P [] s)
    (hstep : ∀ past u v a, run step s past = some u → P past u → step u a = some v →
      P (past ++ [a]) v) : P actions t := by
  induction actions using List.reverseRecOn generalizing t with
  | nil =>
    obtain rfl : s = t := by simpa using hrun
    exact hs
  | append_singleton past a ih =>
    obtain ⟨u, hu, hlast⟩ := run_concat_iff.mp hrun
    exact hstep past u t a hu (ih hu) hlast

end Interleaving

end NamespaceLogging
