import Mathlib.Logic.Function.Basic
import NamespaceLogging.Proofs.Interleaving
import NamespaceLogging.Proofs.TargetShutdown

/-!
# Filters that threads share

Threads change the filter of a router while another thread shuts the router down.  To change it takes
two accesses: a thread looks whether the router was shut down, and then it stores the filter.  A
shutdown marks the router, stores that no level is let through, and tears down what is left.  A change
that looks after the mark stores nothing.  But one that has looked before may be late with its store:
if that comes after the store of the shutdown, levels are enabled again, and stay so for good.

## Main definitions

* `Router.Shared`: a router with the calls of all threads.
* `Router.Shared.step`: what a thread does next, one access to shared data at a time.
* `Router.Shared.Silenced`: what is known since the store of the shutdown.

## Main results

* `Router.Shared.enabled_after_shutdown_iff`: when all calls have returned, a level is enabled if and
  only if a change was between its look and its store when the shutdown stored.
* `Router.Shared.exists_return`: every call comes to its end.
* `Router.Shared.run_alone`, `System.on_setFilter`, `System.on_isEnabled`: a call that no other one
  disturbs does what it does in a system.

## Implementation notes

What is torn down are the engines, the default handlers and the routes.  The filter has no part in
that, and so it is one step here.  A handler or an engine that changes the filter while it is told of
the end makes one more call.
-/

set_option autoImplicit false

namespace NamespaceLogging

namespace Router

open Interleaving

/-! ## Calls -/

/-- Whether a level is let through. -/
def enables (x : Router) (level : Level) : Bool := x.filter.any fun set => set.contains level

/-- The router with another filter. -/
def filtered (filter : LevelSet) (x : Router) : Router := { x with filter := some filter }

/-- The router, marked as shut down. -/
def marked (x : Router) : Router := { x with shutDown := true }

/-- The router that lets no level through. -/
def silenced (x : Router) : Router := { x with filter := none }

/-- The router without its engines. -/
def emptied (x : Router) : Router := { x with aspects := [] }

/-- What a thread asks of a router. -/
inductive Request where
  | setFilter (filter : LevelSet)
  | shutdown

/-- What a request does to a router that is not shared. -/
def Request.on (x : Router) : Request → Router
  | setFilter filter => if x.shutDown then x else x.filtered filter
  | shutdown => if x.shutDown then x else x.shut

/-- A router lets through either no level at all or `Level.fatal`, and perhaps more. -/
lemma exists_enables_iff {x : Router} : (∃ level, x.enables level = true) ↔ x.filter ≠ none := by
  cases hfilter : x.filter with
  | none => simp [enables, hfilter]
  | some set =>
    simp only [ne_eq, reduceCtorEq, not_false_eq_true, iff_true]
    exact ⟨.fatal, by simp [enables, hfilter]⟩

/-! ## Threads -/

/-- How far a thread has come with its call. -/
inductive Phase where
  /-- The thread has called nothing. -/
  | idle
  | called (request : Request)
  /-- It has seen that the router was not shut down, and is about to store the filter. -/
  | storing (filter : LevelSet)
  /-- It has marked the router, and is about to store that no level is let through. -/
  | silencing
  /-- It is about to tear down what is left. -/
  | dismantling
  | returned (request : Request)

namespace Phase

/-- The number of accesses to shared data that are left, at most. -/
def left : Phase → Nat
  | idle | returned _ => 0
  | called (.setFilter _) => 2
  | storing _ => 1
  | called .shutdown => 3
  | silencing => 2
  | dismantling => 1

/-- Whether a call is under way. -/
def isBusy (p : Phase) : Bool := decide (0 < p.left)

end Phase

/-- A router that threads share. -/
structure Shared (Thread : Type) where
  router : Router
  phase : Thread → Phase

namespace Shared

variable {Thread : Type} [DecidableEq Thread] {w w' u v : Shared Thread} {s t d : Thread} {x : Router}
  {p : Phase} {filter : LevelSet}

/-- A router that nobody has called. -/
def start (x : Router) : Shared Thread := ⟨x, fun _ => .idle⟩

/-- The thread comes to another phase. -/
def enter (w : Shared Thread) (t : Thread) (p : Phase) : Shared Thread :=
  { w with phase := Function.update w.phase t p }

/-- Somebody calls the router, or goes on with a call. -/
inductive Action (Thread : Type) where
  | call (t : Thread) (request : Request)
  | advance (t : Thread)

/-- The thread that acts. -/
def Action.thread {Thread : Type} : Action Thread → Thread
  | call t _ => t
  | advance t => t

/-- The next access of a thread to what is shared. -/
def advance (w : Shared Thread) (t : Thread) : Option (Shared Thread) :=
  match w.phase t with
  | .idle | .returned _ => none
  | .called (.setFilter filter) =>
    if w.router.shutDown then some (w.enter t (.returned (.setFilter filter)))
    else some (w.enter t (.storing filter))
  | .storing filter =>
    some { w.enter t (.returned (.setFilter filter)) with router := w.router.filtered filter }
  | .called .shutdown =>
    if w.router.shutDown then some (w.enter t (.returned .shutdown))
    else some { w.enter t .silencing with router := w.router.marked }
  | .silencing => some { w.enter t .dismantling with router := w.router.silenced }
  | .dismantling => some { w.enter t (.returned .shutdown) with router := w.router.emptied }

/-- What an action does, if it can be taken: a thread makes one call after the other. -/
def step (w : Shared Thread) : Action Thread → Option (Shared Thread)
  | .call t request => if (w.phase t).isBusy then none else some (w.enter t (.called request))
  | .advance t => w.advance t

/-- What a thread can do next, by the phase that it is in. -/
inductive Moves (w : Shared Thread) (t : Thread) : Shared Thread → Prop
  | refuse {request : Request} (hphase : w.phase t = .called request)
      (hdown : w.router.shutDown = true) : Moves w t (w.enter t (.returned request))
  | look {filter : LevelSet} (hphase : w.phase t = .called (.setFilter filter))
      (hup : w.router.shutDown = false) : Moves w t (w.enter t (.storing filter))
  | store {filter : LevelSet} (hphase : w.phase t = .storing filter) :
      Moves w t
        { w.enter t (.returned (.setFilter filter)) with router := w.router.filtered filter }
  | mark (hphase : w.phase t = .called .shutdown) (hup : w.router.shutDown = false) :
      Moves w t { w.enter t .silencing with router := w.router.marked }
  | silence (hphase : w.phase t = .silencing) :
      Moves w t { w.enter t .dismantling with router := w.router.silenced }
  | dismantle (hphase : w.phase t = .dismantling) :
      Moves w t { w.enter t (.returned .shutdown) with router := w.router.emptied }

/-- What a thread does next is one of the moves, by the phase that it is in. -/
lemma moves_of_advance (h : w.advance t = some w') : Moves w t w' := by
  cases hphase : w.phase t with
  | idle | returned request => simp [advance, hphase] at h
  | called request =>
    cases request with
    | setFilter filter =>
      simp only [advance, hphase] at h
      split at h
      · rename_i hdown
        obtain rfl := Option.some.inj h
        exact .refuse hphase hdown
      · rename_i hup
        obtain rfl := Option.some.inj h
        exact .look hphase (Bool.eq_false_iff.mpr hup)
    | shutdown =>
      simp only [advance, hphase] at h
      split at h
      · rename_i hdown
        obtain rfl := Option.some.inj h
        exact .refuse hphase hdown
      · rename_i hup
        obtain rfl := Option.some.inj h
        exact .mark hphase (Bool.eq_false_iff.mpr hup)
  | storing filter =>
    simp only [advance, hphase, Option.some.injEq] at h
    subst h
    exact .store hphase
  | silencing =>
    simp only [advance, hphase, Option.some.injEq] at h
    subst h
    exact .silence hphase
  | dismantling =>
    simp only [advance, hphase, Option.some.injEq] at h
    subst h
    exact .dismantle hphase

/-- Each of the moves is what the thread does next. -/
lemma advance_of_moves (h : Moves w t w') : w.advance t = some w' := by
  cases h with
  | @refuse request hphase hdown => cases request <;> simp [advance, hphase, hdown]
  | look hphase hup => simp [advance, hphase, hup]
  | store hphase => simp [advance, hphase]
  | mark hphase hup => simp [advance, hphase, hup]
  | silence hphase => simp [advance, hphase]
  | dismantle hphase => simp [advance, hphase]

/-- The thread that comes to a phase is in that phase. -/
@[simp]
lemma phase_enter_self : (w.enter t p).phase t = p := Function.update_self ..

/-- All other threads stay in their phases. -/
lemma phase_enter_of_ne (h : s ≠ t) : (w.enter t p).phase s = w.phase s :=
  Function.update_of_ne h ..

/-- A move of one thread leaves the phases of all others. -/
lemma Moves.phase_of_ne (h : Moves w t w') (hne : s ≠ t) : w'.phase s = w.phase s := by
  cases h <;> exact Function.update_of_ne hne ..

/-- A thread whose call is under way can go on. -/
lemma exists_move (h : (w.phase t).isBusy = true) : ∃ w', Moves w t w' := by
  cases hphase : w.phase t with
  | idle => simp [hphase, Phase.isBusy, Phase.left] at h
  | returned request => simp [hphase, Phase.isBusy, Phase.left] at h
  | storing filter => exact ⟨_, .store hphase⟩
  | silencing => exact ⟨_, .silence hphase⟩
  | dismantling => exact ⟨_, .dismantle hphase⟩
  | called request =>
    cases hdown : w.router.shutDown with
    | true => exact ⟨_, .refuse hphase hdown⟩
    | false =>
      cases request with
      | setFilter filter => exact ⟨_, .look hphase hdown⟩
      | shutdown => exact ⟨_, .mark hphase hdown⟩

/-- With each access less of a call is left. -/
lemma Moves.left_lt (h : Moves w t w') : (w'.phase t).left < (w.phase t).left := by
  cases h with
  | @refuse request hphase _ =>
    rw [hphase, phase_enter_self]
    cases request <;> simp [Phase.left]
  | look hphase _ =>
    rw [hphase, phase_enter_self]
    simp [Phase.left]
  | store hphase => simp [hphase, enter, Phase.left]
  | mark hphase _ => simp [hphase, enter, Phase.left]
  | silence hphase => simp [hphase, enter, Phase.left]
  | dismantle hphase => simp [hphase, enter, Phase.left]

/-! ## Marked routers -/

/-- A router that was marked stays so. -/
lemma Moves.down (h : Moves w t w') (hdown : w.router.shutDown = true) :
    w'.router.shutDown = true := by
  cases h with
  | mark => rfl
  | refuse | look | store | silence | dismantle => exact hdown

/-- Whoever is about to store in a marked router was so before. -/
lemma Moves.storing (h : Moves w t w') (hdown : w.router.shutDown = true)
    (hphase : w'.phase s = .storing filter) : w.phase s = .storing filter := by
  by_cases hs : s = t
  · subst hs
    cases h with
    | look _ hup => simp [hup] at hdown
    | refuse | store | mark | silence | dismantle => simp [enter] at hphase
  · rwa [h.phase_of_ne hs] at hphase

/-- Nobody is about to silence a marked router who was not so before. -/
lemma Moves.silencing (h : Moves w t w') (hdown : w.router.shutDown = true)
    (hphase : w'.phase s = .silencing) : w.phase s = .silencing := by
  by_cases hs : s = t
  · subst hs
    cases h with
    | mark _ hup => simp [hup] at hdown
    | refuse | look | store | silence | dismantle => simp [enter] at hphase
  · rwa [h.phase_of_ne hs] at hphase

/-- A call changes nothing yet. -/
lemma step_call {request : Request} (h : w.step (.call t request) = some w') :
    (w.phase t).isBusy = false ∧ w' = w.enter t (.called request) := by
  simp only [step, Option.ite_none_left_eq_some, Option.some.injEq, Bool.not_eq_true] at h
  exact ⟨h.1, h.2.symm⟩

/-- A thread that begins a call is not in the middle of another one. -/
lemma phase_of_call {request : Request} (h : w.step (.call t request) = some w')
    (hphase : w'.phase s = p) (hp : ∀ request, p ≠ .called request) : w.phase s = p := by
  obtain ⟨-, rfl⟩ := step_call h
  by_cases hs : s = t
  · subst hs
    rw [phase_enter_self] at hphase
    exact absurd hphase.symm (hp request)
  · rwa [phase_enter_of_ne hs] at hphase

/-- Whoever does not act stays where it is. -/
lemma phase_of_step {a : Action Thread} (h : w.step a = some w') (hs : s ≠ a.thread) :
    w'.phase s = w.phase s := by
  cases a with
  | advance t => exact (moves_of_advance h).phase_of_ne hs
  | call t request =>
    obtain ⟨-, rfl⟩ := step_call h
    exact phase_enter_of_ne hs

/-- A thread that does nothing in a run is in its phase at the end still. -/
lemma phase_of_run {actions : List (Action Thread)} (hrun : run step w actions = some w')
    (hs : ∀ a ∈ actions, s ≠ a.thread) : w'.phase s = w.phase s := by
  refine run_keeps (P := fun u => u.phase s = w.phase s) hrun rfl ?_
  intro u v a ha hu hstep
  rw [phase_of_step hstep (hs a ha), hu]

/-- One thread at most shuts the router down, and it has marked it. -/
structure Sound (w : Shared Thread) : Prop where
  down : ∀ t, w.phase t = .silencing → w.router.shutDown = true
  one : ∀ s t, w.phase s = .silencing → w.phase t = .silencing → s = t

omit [DecidableEq Thread] in
/-- When nobody has called the router yet, there is nothing to know. -/
lemma sound_start (x : Router) : (start x : Shared Thread).Sound := by
  constructor <;> simp [start]

/-- Whatever a thread does, the others can go on relying on what they know. -/
lemma Sound.move (hw : w.Sound) (h : Moves w t w') : w'.Sound := by
  cases hdown : w.router.shutDown with
  | true =>
    constructor
    · intro s hs
      exact h.down hdown
    · intro s s' hs hs'
      exact hw.one s s' (h.silencing hdown hs) (h.silencing hdown hs')
  | false =>
    -- nobody was about to silence the router, and so the one who moved is the only one that can be
    have honly : ∀ s, w'.phase s = .silencing → s = t := by
      intro s hs
      by_contra hne
      rw [h.phase_of_ne hne] at hs
      simpa [hdown] using hw.down s hs
    constructor
    · intro s hs
      obtain rfl := honly s hs
      cases h with
      | mark => rfl
      | refuse | look | store | silence | dismantle => simp [enter] at hs
    · intro s s' hs hs'
      rw [honly s hs, honly s' hs']

/-- Whatever happens next, threads can go on relying on what they know. -/
lemma Sound.step {a : Action Thread} (hw : w.Sound) (h : w.step a = some w') : w'.Sound := by
  cases a with
  | advance t => exact hw.move (moves_of_advance h)
  | call t request =>
    have hrouter : w'.router = w.router := by
      obtain ⟨-, rfl⟩ := step_call h
      rfl
    constructor
    · intro s hs
      rw [hrouter]
      exact hw.down s (phase_of_call h hs (by simp))
    · intro s s' hs hs'
      exact hw.one s s' (phase_of_call h hs (by simp)) (phase_of_call h hs' (by simp))

/-- However threads interleave, they can rely on what they know. -/
lemma sound_run {actions : List (Action Thread)} (hrun : run step (start x) actions = some w) :
    w.Sound :=
  run_keeps hrun (sound_start x) fun _ _ _ _ hu hstep => hu.step hstep

/-! ## From the mark to the store -/

/-- The thread `d` has marked the router in a state `u` in which it was up, and who is about to store
now was so in that state. -/
def Marked (actions : List (Action Thread)) (x : Router) (w : Shared Thread) (d : Thread) : Prop :=
  ∃ first second u, actions = first ++ .advance d :: second ∧ run step (start x) first = some u ∧
    u.phase d = .called .shutdown ∧ u.router.shutDown = false ∧
    ∀ t filter, w.phase t = .storing filter → u.phase t = .storing filter

/-- Who has marked the router has done so for ever; who is about to store after more steps was so
before. -/
lemma Marked.concat {actions : List (Action Thread)} {a : Action Thread} (h : Marked actions x w d)
    (hstoring : ∀ t filter, w'.phase t = .storing filter → w.phase t = .storing filter) :
    Marked (actions ++ [a]) x w' d := by
  obtain ⟨first, second, u, rfl, hu, hphase, hup, hbefore⟩ := h
  refine ⟨first, second ++ [a], u, by simp, hu, hphase, hup, ?_⟩
  intro t filter ht
  exact hbefore t filter (hstoring t filter ht)

/-- **Who is late has looked before the mark.** -/
lemma marked_run {actions : List (Action Thread)} (hrun : run step (start x) actions = some w)
    (hphase : w.phase d = .silencing) : Marked actions x w d := by
  refine run_induct (P := fun past w => w.phase d = .silencing → Marked past x w d) hrun
    (by simp [start]) ?_ hphase
  intro past u v a hpast ih hstep hsilencing
  have hsound := sound_run hpast
  cases a with
  | call t request =>
    apply (ih (phase_of_call hstep hsilencing (by simp))).concat
    intro s filter hs
    exact phase_of_call hstep hs (by simp)
  | advance t =>
    have hmove := moves_of_advance hstep
    by_cases hd : d = t
    · subst hd
      cases hmove with
      | mark hcalled hup =>
        refine ⟨past, [], u, rfl, hpast, hcalled, hup, ?_⟩
        intro s filter hs
        by_cases hsd : s = d
        · subst hsd
          simp [enter] at hs
        · rwa [← phase_enter_of_ne (w := u) (p := .silencing) hsd]
      | refuse | look | store | silence | dismantle => simp [enter] at hsilencing
    · rw [hmove.phase_of_ne hd] at hsilencing
      apply (ih hsilencing).concat
      intro s filter hs
      exact hmove.storing (hsound.down d hsilencing) hs

/-! ## After the store of the shutdown -/

/-- The shutdown has stored in the state after `v` that no level is let through.  What was stored since
comes from those who were about to store in `v`; as long as there is nothing, they still are. -/
structure Silenced (v w : Shared Thread) : Prop where
  down : w.router.shutDown = true
  stored : ∀ t, w.phase t ≠ .silencing
  storing : ∀ t filter, w.phase t = .storing filter → v.phase t = .storing filter
  late : ∀ filter, w.router.filter = some filter → ∃ t, v.phase t = .storing filter
  waiting : w.router.filter = none →
    ∀ t filter, v.phase t = .storing filter → w.phase t = .storing filter

/-- The store of the shutdown. -/
lemma silenced_of_move (hv : v.Sound) (hphase : v.phase d = .silencing) (h : Moves v d w) :
    Silenced v w := by
  have hother : ∀ t filter, t = d → v.phase t ≠ .storing filter := by
    rintro t filter rfl
    simp [hphase]
  cases h with
  | silence =>
    constructor
    · exact hv.down d hphase
    · intro t ht
      by_cases htd : t = d
      · subst htd
        simp [enter] at ht
      · rw [show (v.enter d .dismantling).phase t = v.phase t from phase_enter_of_ne htd] at ht
        exact htd (hv.one t d ht hphase)
    · intro t filter ht
      by_cases htd : t = d
      · subst htd
        simp [enter] at ht
      · rwa [← phase_enter_of_ne (w := v) (p := .dismantling) htd]
    · intro filter hfilter
      simp [silenced] at hfilter
    · intro _ t filter ht
      have htd : t ≠ d := fun heq => hother t filter heq ht
      exact (phase_enter_of_ne htd).trans ht
  | refuse hcalled => simp [hphase] at hcalled
  | look hcalled => simp [hphase] at hcalled
  | store hcalled => simp [hphase] at hcalled
  | mark hcalled => simp [hphase] at hcalled
  | dismantle hcalled => simp [hphase] at hcalled

namespace Silenced

/-- Whatever a thread does after the store of the shutdown, what is stored comes from those who were
about to store then. -/
lemma move (hw : Silenced v w) (h : Moves w t w') : Silenced v w' := by
  have hstays : (∀ filter, w.phase t ≠ .storing filter) → ∀ s filter, w.phase s = .storing filter →
      w'.phase s = .storing filter := by
    intro ht s filter hs
    have hst : s ≠ t := by
      rintro rfl
      exact ht filter hs
    rwa [h.phase_of_ne hst]
  refine ⟨h.down hw.down, ?_, ?_, ?_, ?_⟩
  · intro s hs
    exact hw.stored s (h.silencing hw.down hs)
  · intro s filter hs
    exact hw.storing s filter (h.storing hw.down hs)
  · intro filter hfilter
    cases h with
    | store hphase =>
      obtain rfl := Option.some.inj hfilter
      exact ⟨t, hw.storing t _ hphase⟩
    | silence hphase => exact absurd hphase (hw.stored t)
    | mark _ hup => simp [hw.down] at hup
    | refuse | look | dismantle => exact hw.late filter hfilter
  · intro hnone s filter hs
    cases h with
    | store => simp [filtered] at hnone
    | silence hphase => exact absurd hphase (hw.stored t)
    | mark _ hup => simp [hw.down] at hup
    | look _ hup => simp [hw.down] at hup
    | refuse hphase => exact hstays (by simp [hphase]) s filter (hw.waiting hnone s filter hs)
    | dismantle hphase => exact hstays (by simp [hphase]) s filter (hw.waiting hnone s filter hs)

/-- The same for everything that can happen. -/
lemma step {a : Action Thread} (hw : Silenced v w) (h : w.step a = some w') : Silenced v w' := by
  cases a with
  | advance t => exact hw.move (moves_of_advance h)
  | call t request =>
    have hrouter : w'.router = w.router := by
      obtain ⟨-, rfl⟩ := step_call h
      rfl
    refine ⟨hrouter ▸ hw.down, ?_, ?_, hrouter ▸ hw.late, ?_⟩
    · intro s hs
      exact hw.stored s (phase_of_call h hs (by simp))
    · intro s filter hs
      exact hw.storing s filter (phase_of_call h hs (by simp))
    · intro hnone s filter hs
      rw [hrouter] at hnone
      have hphase := hw.waiting hnone s filter hs
      obtain ⟨hidle, rfl⟩ := step_call h
      have hst : s ≠ t := by
        rintro rfl
        simp [hphase, Phase.isBusy, Phase.left] at hidle
      rwa [phase_enter_of_ne hst]

/-- The same for any number of steps. -/
lemma run {actions : List (Action Thread)} (hw : Silenced v w)
    (hrun : Interleaving.run Shared.step w actions = some w') : Silenced v w' :=
  run_keeps hrun hw fun _ _ _ _ hu hstep => hu.step hstep

end Silenced

/-- Where the shutdown has stored and nobody is late, no access changes the filter. -/
lemma filter_of_move (hdown : w.router.shutDown = true) (hover : w.phase t ≠ .silencing)
    (hnobody : ∀ filter, w.phase t ≠ .storing filter) (h : Moves w t w') :
    w'.router.filter = w.router.filter := by
  cases h with
  | store hphase => exact absurd hphase (hnobody _)
  | silence hphase => exact absurd hphase hover
  | mark _ hup => simp [hdown] at hup
  | refuse | look | dismantle => rfl

/-- **Then the filter stays as it is**, whatever is called. -/
lemma filter_of_run {more : List (Action Thread)} (hw : Silenced v w)
    (hnobody : ∀ t filter, w.phase t ≠ .storing filter) (hrun : run step w more = some w') :
    w'.router.filter = w.router.filter := by
  have hkept : Silenced v w' ∧ (∀ t filter, w'.phase t ≠ .storing filter) ∧
      w'.router.filter = w.router.filter := by
    refine run_keeps (P := fun u => Silenced v u ∧ (∀ t filter, u.phase t ≠ .storing filter) ∧
      u.router.filter = w.router.filter) hrun ⟨hw, hnobody, rfl⟩ ?_
    rintro u u' a - ⟨hu, hnone, hfilter⟩ hstep
    refine ⟨hu.step hstep, ?_, ?_⟩
    · intro t filter ht
      cases a with
      | advance s => exact hnone t filter ((moves_of_advance hstep).storing hu.down ht)
      | call s request => exact hnone t filter (phase_of_call hstep ht (by simp))
    · rw [← hfilter]
      cases a with
      | advance s => exact filter_of_move hu.down (hu.stored s) (hnone s) (moves_of_advance hstep)
      | call s request =>
        obtain ⟨-, rfl⟩ := step_call hstep
        rfl
  exact hkept.2.2

/-! ## Calls come to their end -/

/-- A thread comes to the end of its call without anybody's help. -/
lemma exists_return (w : Shared Thread) (t : Thread) :
    ∃ more w', (∀ a ∈ more, a = .advance t) ∧ run step w more = some w' ∧
      (w'.phase t).isBusy = false ∧ ∀ s, s ≠ t → w'.phase s = w.phase s := by
  induction hleft : (w.phase t).left using Nat.strongRecOn generalizing w with
  | _ n ih =>
    cases hbusy : (w.phase t).isBusy with
    | false => exact ⟨[], w, by simp, rfl, hbusy, fun _ _ => rfl⟩
    | true =>
      obtain ⟨u, hmove⟩ := exists_move hbusy
      obtain ⟨more, w', hmore, hrun, hreturned, hothers⟩ := ih _ (hleft ▸ hmove.left_lt) u rfl
      refine ⟨.advance t :: more, w', ?_, ?_, hreturned, ?_⟩
      · intro a ha
        rcases List.mem_cons.mp ha with rfl | ha
        · rfl
        · exact hmore a ha
      · exact run_cons_iff.mpr ⟨u, advance_of_moves hmove, hrun⟩
      · intro s hs
        rw [hothers s hs, hmove.phase_of_ne hs]

/-- Any threads come to the end of their calls without the help of the others. -/
lemma exists_returns (w : Shared Thread) (ts : List Thread) :
    ∃ more w', run step w more = some w' ∧ (∀ t ∈ ts, (w'.phase t).isBusy = false) ∧
      ∀ s, s ∉ ts → w'.phase s = w.phase s := by
  induction ts generalizing w with
  | nil => exact ⟨[], w, rfl, by simp, fun _ _ => rfl⟩
  | cons t ts ih =>
    obtain ⟨first, u, -, hfirst, hreturned, hothers⟩ := exists_return w t
    obtain ⟨second, w', hsecond, hall, hrest⟩ := ih u
    refine ⟨first ++ second, w', run_append_iff.mpr ⟨u, hfirst, hsecond⟩, ?_, ?_⟩
    · intro s hs
      by_cases hmem : s ∈ ts
      · exact hall s hmem
      · rcases List.mem_cons.mp hs with rfl | hs
        · rwa [hrest s hmem]
        · exact absurd hs hmem
    · intro s hs
      rw [List.mem_cons, not_or] at hs
      rw [hrest s hs.2, hothers s hs.1]

/-- Only threads that have acted are in the middle of a call. -/
lemma exists_busy {actions : List (Action Thread)} (hrun : run step (start x) actions = some w) :
    ∃ ts : List Thread, ∀ t, (w.phase t).isBusy = true → t ∈ ts := by
  refine ⟨actions.map Action.thread, ?_⟩
  intro t ht
  by_contra hmem
  have hidle : w.phase t = .idle := by
    apply phase_of_run hrun
    rintro a ha rfl
    exact hmem (List.mem_map_of_mem ha)
  simp [hidle, Phase.isBusy, Phase.left] at ht

/-- Who is late may be the last of all. -/
lemma exists_late {ts : List Thread} (hbusy : ∀ s, (w.phase s).isBusy = true → s ∈ ts)
    (hphase : w.phase t = .storing filter) :
    ∃ more w', run step w more = some w' ∧ (∀ s, (w'.phase s).isBusy = false) ∧
      w'.router.filter = some filter := by
  obtain ⟨more, u, hmore, hreturned, hothers⟩ := exists_returns w (ts.filter fun s => s ≠ t)
  have hstoring : u.phase t = .storing filter := by
    rw [hothers t (by simp), hphase]
  set w' : Shared Thread :=
    { u.enter t (.returned (.setFilter filter)) with router := u.router.filtered filter }
  have hmove : Moves u t w' := .store hstoring
  have hstep : u.step (.advance t) = some w' := advance_of_moves hmove
  refine ⟨more ++ [.advance t], w', run_concat_iff.mpr ⟨u, hmore, hstep⟩, ?_, rfl⟩
  intro s
  by_cases hst : s = t
  · subst hst
    simp [w', enter, Phase.isBusy, Phase.left]
  · rw [hmove.phase_of_ne hst]
    by_cases hmem : s ∈ ts
    · exact hreturned s (List.mem_filter.mpr ⟨hmem, by simpa using hst⟩)
    · rw [hothers s (fun hs => hmem (List.mem_of_mem_filter hs))]
      exact Bool.eq_false_iff.mpr fun hs => hmem (hbusy s hs)

/-! ## After the shutdown -/

/-- **What a shutdown leaves enabled.**  Let a router be shut down while threads change its filter, and
let `v` be the state in which the shutdown is about to store that no level is let through.  However the
threads interleave:

* the changes that are about to store in `v` have looked before the shutdown marked the router;
* when all calls have returned, a level is enabled if and only if there is such a change, and the
  filter is then the one of such a change;
* it stays as it is, whatever is called later;
* each of these changes may be the last one of all.

**Proof sketch.** Whoever looks after the mark does not store.  So all stores after the one of the
shutdown are those of changes that were about to store; nobody stores again that no level is let
through, since only one thread can have marked the router. -/
theorem enabled_after_shutdown_iff {before after : List (Action Thread)}
    (hbefore : run step (start x) before = some v) (hphase : v.phase d = .silencing)
    (hafter : run step v (.advance d :: after) = some w)
    (hreturned : ∀ t, (w.phase t).isBusy = false) :
    Marked before x v d ∧
    ((∃ level, w.router.enables level = true) ↔ ∃ t filter, v.phase t = .storing filter) ∧
    (∀ filter, w.router.filter = some filter → ∃ t, v.phase t = .storing filter) ∧
    (∀ more w', run step w more = some w' → w'.router.filter = w.router.filter) ∧
    ∀ t filter, v.phase t = .storing filter → ∃ later w', run step v (.advance d :: later) = some w' ∧
      (∀ s, (w'.phase s).isBusy = false) ∧ w'.router.filter = some filter := by
  obtain ⟨u, hstore, hrun⟩ := run_cons_iff.mp hafter
  have hu : Silenced v u := silenced_of_move (sound_run hbefore) hphase (moves_of_advance hstore)
  have hw : Silenced v w := hu.run hrun
  have hnobody : ∀ t filter, w.phase t ≠ .storing filter := by
    intro t filter ht
    have hidle := hreturned t
    simp [ht, Phase.isBusy, Phase.left] at hidle
  refine ⟨marked_run hbefore hphase, ?_, hw.late, ?_, ?_⟩
  · rw [exists_enables_iff]
    constructor
    · intro hsome
      obtain ⟨filter, hfilter⟩ := Option.ne_none_iff_exists'.mp hsome
      obtain ⟨t, ht⟩ := hw.late filter hfilter
      exact ⟨t, filter, ht⟩
    · rintro ⟨t, filter, ht⟩ hnone
      exact hnobody t filter (hw.waiting hnone t filter ht)
  · intro more w' hmore
    exact filter_of_run hw hnobody hmore
  · intro t filter ht
    obtain ⟨ts, hbusy⟩ := exists_busy (run_concat_iff.mpr ⟨v, hbefore, hstore⟩)
    have hfilter : u.router.filter = none := by
      cases moves_of_advance hstore with
      | silence => rfl
      | refuse hcalled => simp [hphase] at hcalled
      | look hcalled => simp [hphase] at hcalled
      | store hcalled => simp [hphase] at hcalled
      | mark hcalled => simp [hphase] at hcalled
      | dismantle hcalled => simp [hphase] at hcalled
    obtain ⟨later, w', hlater, hall, hlast⟩ := exists_late hbusy (hu.waiting hfilter t filter ht)
    exact ⟨later, w', run_cons_iff.mpr ⟨u, hstore, hlater⟩, hall, hlast⟩

/-- A change looks, and then another thread begins to shut the router down. -/
def overtaken : List (Action Nat) :=
  [.call 0 (.setFilter (.startingAt .info)), .advance 0, .call 1 .shutdown, .advance 1]

/-- The shutdown comes to its end, and then the change stores. -/
def overtaking : List (Action Nat) := [.advance 1, .advance 0]

/-- A router that was shut down, and lets levels through for good when all calls have returned. -/
theorem enabled_after_shutdown_of_overtaken : ∃ v w : Shared Nat,
    run step (start (.fresh (.startingAt .warn) 0)) overtaken = some v ∧ v.phase 1 = .silencing ∧
      run step v (.advance 1 :: overtaking) = some w ∧ (∀ t, (w.phase t).isBusy = false) ∧
      w.router.shutDown = true ∧ (∃ level, w.router.enables level = true) ∧
      ∀ more w', run step w more = some w' → w'.router.filter = w.router.filter := by
  have hview : (run step (start (.fresh (.startingAt .warn) 0) : Shared Nat) overtaken).map
      (fun v => (v.phase 0, v.phase 1)) = some (.storing (.startingAt .info), .silencing) := by
    with_unfolding_all rfl
  obtain ⟨v, hv, heq⟩ := Option.map_eq_some_iff.mp hview
  obtain ⟨hlate, hphase⟩ := Prod.mk.inj heq
  have hend : ((run step (start (.fresh (.startingAt .warn) 0) : Shared Nat) overtaken).bind fun v =>
      run step v (.advance 1 :: overtaking)).map
        (fun w => ((w.phase 0).isBusy, (w.phase 1).isBusy, w.router.shutDown)) =
          some (false, false, true) := by with_unfolding_all rfl
  rw [hv, Option.bind_some] at hend
  obtain ⟨w, hw, heq⟩ := Option.map_eq_some_iff.mp hend
  simp only [Prod.mk.injEq] at heq
  obtain ⟨hzero, hone, hdown⟩ := heq
  have hreturned : ∀ t, (w.phase t).isBusy = false := by
    intro t
    by_cases ht : t = 0 ∨ t = 1
    · rcases ht with rfl | rfl
      · exact hzero
      · exact hone
    · rw [not_or] at ht
      have hidle : w.phase t = .idle := by
        apply phase_of_run (run_append_iff.mpr ⟨v, hv, hw⟩)
        simp [overtaken, overtaking, Action.thread, ht]
      rw [hidle]
      rfl
  obtain ⟨-, henabled, -, hstays, -⟩ := enabled_after_shutdown_iff hv hphase hw hreturned
  exact ⟨v, w, hv, hphase, hw, hreturned, hdown, henabled.mpr ⟨0, _, hlate⟩, hstays⟩

/-! ## Calls that nobody disturbs -/

/-- What one more step of a thread adds to a run. -/
lemma Moves.run (h : Moves w t u) (n : Nat) :
    run step w (List.replicate (n + 1) (.advance t)) = run step u (List.replicate n (.advance t)) := by
  simp [Interleaving.run, List.replicate_succ, Shared.step, advance_of_moves h]

/-- **A call that nobody disturbs** does what it does to a router that is not shared. -/
theorem run_alone (hidle : (w.phase t).isBusy = false) (request : Request) :
    ∃ n, run step w (.call t request :: List.replicate n (.advance t)) =
      some ⟨request.on w.router, Function.update w.phase t (.returned request)⟩ := by
  have hcall : step w (.call t request) = some (w.enter t (.called request)) := by
    simp [step, hidle]
  have hphase : (w.enter t (.called request)).phase t = .called request := phase_enter_self
  cases hdown : w.router.shutDown with
  | true =>
    refine ⟨1, run_cons_iff.mpr ⟨_, hcall, ?_⟩⟩
    rw [(Moves.refuse hphase hdown).run]
    cases request <;> simp [enter, Request.on, hdown]
  | false =>
    cases request with
    | setFilter filter =>
      refine ⟨2, run_cons_iff.mpr ⟨_, hcall, ?_⟩⟩
      rw [(Moves.look hphase hdown).run, (Moves.store phase_enter_self).run]
      simp [enter, Request.on, hdown]
    | shutdown =>
      refine ⟨3, run_cons_iff.mpr ⟨_, hcall, ?_⟩⟩
      rw [(Moves.mark hphase hdown).run]
      refine Eq.trans (Moves.run (.silence (by exact phase_enter_self)) 1) ?_
      refine Eq.trans (Moves.run (.dismantle (by exact phase_enter_self)) 0) ?_
      simp [enter, Request.on, hdown, shut, marked, silenced, emptied]

end Shared

end Router

namespace System

open Act

variable {s : System} {r : RouterId} {y : Router}

/-- A level is enabled in a system if the router lets it through. -/
lemma on_isEnabled (hy : s.routers[r]? = some y) (level : Level) :
    (isEnabled r level).on s = (.ok (y.enables level), s) := by
  rw [isEnabled, on_bind_of_ok (on_router_of_some hy)]
  rfl

/-- In a system, the filter of a router is changed by such a request. -/
lemma on_setFilter (hy : s.routers[r]? = some y) (filter : LevelSet) :
    (setFilter r filter).on s =
      (.ok (), s.onRouter r fun x => (Router.Request.setFilter filter).on x) := by
  rw [setFilter, on_bind_of_ok (on_router_of_some hy), onRouter_eq hy]
  cases hdown : y.shutDown with
  | true =>
    have hself : s.onRouter r id = { s with routers := s.routers.set r y } := onRouter_eq hy id
    rw [onRouter, List.modify_id] at hself
    simp only [Bool.not_true, Bool.false_eq_true, if_false, Router.Request.on, hdown, if_true, ← hself]
    rfl
  | false =>
    have hset := onRouter_eq hy fun x => x.filtered filter
    simp only [Bool.not_false, if_true, Router.Request.on, hdown, Bool.false_eq_true, if_false,
      ← hset]
    rfl

end System

end NamespaceLogging
