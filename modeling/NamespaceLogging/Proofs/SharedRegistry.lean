import Mathlib.Logic.Function.Basic
import NamespaceLogging.Proofs.Interleaving
import NamespaceLogging.Proofs.RouteCache

/-!
# Registries that threads share

Threads call one registry at the same time.  Registrations are read and changed under a mutex, while
the routes that are kept can be read at any moment, also in the middle of a change.  A change takes
two steps: first the registrations change, then all routes are forgotten.  A change is in force from its
second step on.

## Main definitions

* `Registry.Op.reply`: what a call returns on a registry that is not shared.
* `Registry.Shared`: a registry with its mutex and the calls of all threads.
* `Registry.Shared.step`: what a thread does next, one access to shared data at a time.
* `Registry.Shared.Moves`: the same as a relation, with one case for each access.
* `Registry.Shared.Sound`: what the kept routes and the calls rely on.

## Main results

* `Registry.Shared.Sound.step`: whatever a thread does, everybody can go on relying on the rest.
* `Registry.Shared.run_alone`: a call that no other one disturbs does what it does on a registry that
  is not shared.
-/

set_option autoImplicit false

namespace NamespaceLogging

namespace Registry

open Interleaving

/-! ## Calls and their answers -/

/-- What a call returns. -/
inductive Reply where
  | route (route : Route)
  | slot (id : SlotId)
  | refused (e : ConfigError)
  | removed (id : Option SlotId)
  | dropped (ids : List SlotId)

namespace Op

/-- What a call on a registry returns. -/
def reply (r : Registry) : Op → Reply
  | register ns id =>
    match r.register ns id with
    | .ok _ => .slot id
    | .error e => .refused e
  | unregister ns => .removed (r.unregister ns).1
  | clear => .dropped r.clear.1
  | resolve ns => .route (r.resolve ns).1

/-- What a call returns where these registrations are in force. -/
def answer (entries : List (List Char × SlotId)) (op : Op) : Reply := op.reply ⟨entries, []⟩

/-- The changes that a call makes: itself, if it is one. -/
def change (op : Op) : List Op := if op.changes then [op] else []

/-- Whether a call returns at once, for an error in what was asked. -/
def isRefused : Op → Bool
  | register ns _ => !accepts ns
  | _ => false

/-- What a call returns without the mutex, if it does not need it. -/
def atOnce (r : Registry) : Op → Option Reply
  | register ns _ => if accepts ns then none else some (.refused (.emptyNamespace ns))
  | resolve ns => (r.found.lookup ns).map .route
  | _ => none

variable {r : Registry} {op : Op} {ns : String} {id : SlotId} {reply : Reply}
  {entries : List (List Char × SlotId)}

/-- What a resolution answers where some registrations are in force is what the walk up the
namespace finds. -/
lemma answer_resolve :
    (resolve ns).answer entries = .route (walk entries (Namespace.normalize ns.toList)) := rfl

/-- A call that makes a change makes itself. -/
lemma change_of_changes (h : op.changes = true) : op.change = [op] := by
  simp [change, h]

/-- A call that needs the mutex was not refused. -/
lemma isRefused_of_atOnce (h : op.atOnce r = none) : op.isRefused = false := by
  cases op with
  | register ns id => simpa [atOnce, isRefused] using h
  | unregister ns => rfl
  | clear => rfl
  | resolve ns => rfl

/-- What a change returns does not depend on the routes that are kept. -/
lemma reply_of_changes (h : op.changes = true) : op.reply r = op.answer r.entries := by
  cases op with
  | register ns id =>
    have haccepts : accepts ns = true := h
    simp [answer, reply, Registry.register, haccepts]
  | unregister ns => rfl
  | clear => rfl
  | resolve ns => simp [changes] at h

end Op

/-- The registry that keeps one more route.  If another one was kept for the namespace, it goes. -/
def remember (ns : String) (route : Route) (r : Registry) : Registry :=
  { r with found := (ns, route) :: r.found.filter fun entry => entry.1 != ns }

/-- The registry with its registrations changed, before it forgets the routes. -/
def reenter (op : Op) (r : Registry) : Registry := { r with entries := op.onEntries r.entries }

/-- The registry without any route. -/
def forget (r : Registry) : Registry := { r with found := [] }

/-! ## Threads -/

/-- How far a thread has come with its call. -/
inductive Phase where
  /-- The thread has called nothing. -/
  | idle
  | called (op : Op)
  /-- It needs the mutex. -/
  | waiting (op : Op)
  /-- It holds the mutex. -/
  | inside (op : Op)
  /-- It holds the mutex and has found a route, which it has not kept yet. -/
  | found (ns : String) (route : Route)
  /-- It holds the mutex and has changed the registrations, but not forgotten the routes yet. -/
  | changed (op : Op) (reply : Reply)
  /-- It holds the mutex and has nothing left to do. -/
  | leaving (op : Op) (reply : Reply)
  | returned (op : Op) (reply : Reply)

namespace Phase

/-- Whether a thread holds the mutex. -/
def holds : Phase → Bool
  | inside _ | found _ _ | changed _ _ | leaving _ _ => true
  | _ => false

/-- The call that is under way. -/
def op? : Phase → Option Op
  | called op | waiting op | inside op | changed op _ | leaving op _ => some op
  | found ns _ => some (.resolve ns)
  | idle | returned _ _ => none

/-- What is known of a call, by the registrations as they stand and the changes that are in force. -/
def Fits (entries : List (List Char × SlotId)) (changes : List Op) : Phase → Prop
  | waiting op | inside op => op.isRefused = false
  | found ns route => route = walk (inForce changes) (Namespace.normalize ns.toList)
  | changed op reply =>
    op.changes = true ∧ entries = inForce (changes ++ [op]) ∧ reply = op.answer (inForce changes)
  | _ => True

/-- A thread that has no call under way does not hold the mutex. -/
lemma holds_eq_false_of_op? {p : Phase} (h : p.op? = none) : p.holds = false := by
  cases p <;> simp_all [op?, holds]

/-- Who does not hold the mutex relies on nothing that it guards. -/
lemma Fits.of_outside {p : Phase} {entries more : List (List Char × SlotId)}
    {changes changes' : List Op} (h : p.Fits entries changes) (hp : p.holds = false) :
    p.Fits more changes' := by
  cases p <;> simp_all [Fits, holds]

end Phase

/-- A registry that threads share. -/
structure Shared (Thread : Type) where
  registry : Registry
  /-- The thread that holds the mutex. -/
  holder : Option Thread
  phase : Thread → Phase
  /-- The changes that have come into force, in their order. -/
  changes : List Op

namespace Shared

variable {Thread : Type} [DecidableEq Thread] {w w' u v : Shared Thread} {t t' : Thread} {p : Phase}
  {op : Op} {reply : Reply}

/-- A new registry that nobody has called. -/
def empty : Shared Thread := ⟨Registry.empty, none, fun _ => .idle, []⟩

/-- The thread comes to another phase. -/
def enter (w : Shared Thread) (t : Thread) (p : Phase) : Shared Thread :=
  { w with phase := Function.update w.phase t p }

/-- Somebody calls the registry, or goes on with a call. -/
inductive Action (Thread : Type) where
  | call (t : Thread) (op : Op)
  | advance (t : Thread)

/-- The thread that calls, if somebody does. -/
def Action.caller? {Thread : Type} : Action Thread → Option Thread
  | call t _ => some t
  | advance _ => none

/-- The next access of a thread to what is shared. -/
def advance (w : Shared Thread) (t : Thread) : Option (Shared Thread) :=
  match w.phase t with
  | .idle | .returned _ _ => none
  | .called op =>
    match op.atOnce w.registry with
    | some reply => some (w.enter t (.returned op reply))
    | none => some (w.enter t (.waiting op))
  | .waiting op =>
    if w.holder = none then some { w.enter t (.inside op) with holder := some t } else none
  | .inside (.resolve ns) => some (w.enter t (.found ns (w.registry.lookup ns)))
  | .inside op =>
    some { w.enter t (.changed op (op.reply w.registry)) with registry := w.registry.reenter op }
  | .found ns route =>
    some { w.enter t (.leaving (.resolve ns) (.route route)) with
      registry := w.registry.remember ns route }
  | .changed op reply =>
    some { w.enter t (.leaving op reply) with
      registry := w.registry.forget, changes := w.changes ++ [op] }
  | .leaving op reply => some { w.enter t (.returned op reply) with holder := none }

/-- What an action does, if it can be taken: a thread makes one call after the other. -/
def step (w : Shared Thread) : Action Thread → Option (Shared Thread)
  | .call t op => if (w.phase t).op? = none then some (w.enter t (.called op)) else none
  | .advance t => w.advance t

/-- What a thread can do next, by the phase that it is in. -/
inductive Moves (w : Shared Thread) (t : Thread) : Shared Thread → Prop
  | hit {ns : String} {route : Route} (hphase : w.phase t = .called (.resolve ns))
      (hfound : w.registry.found.lookup ns = some route) :
      Moves w t (w.enter t (.returned (.resolve ns) (.route route)))
  | refuse {ns : String} {id : SlotId} (hphase : w.phase t = .called (.register ns id))
      (hns : accepts ns = false) :
      Moves w t (w.enter t (.returned (.register ns id) (.refused (.emptyNamespace ns))))
  | wait {op : Op} (hphase : w.phase t = .called op) (honce : op.atOnce w.registry = none) :
      Moves w t (w.enter t (.waiting op))
  | lock {op : Op} (hphase : w.phase t = .waiting op) (hfree : w.holder = none) :
      Moves w t { w.enter t (.inside op) with holder := some t }
  | find {ns : String} (hphase : w.phase t = .inside (.resolve ns)) :
      Moves w t (w.enter t (.found ns (w.registry.lookup ns)))
  | change {op : Op} (hphase : w.phase t = .inside op) (hop : ∀ ns, op ≠ .resolve ns) :
      Moves w t { w.enter t (.changed op (op.reply w.registry)) with
        registry := w.registry.reenter op }
  | keep {ns : String} {route : Route} (hphase : w.phase t = .found ns route) :
      Moves w t { w.enter t (.leaving (.resolve ns) (.route route)) with
        registry := w.registry.remember ns route }
  | forget {op : Op} {reply : Reply} (hphase : w.phase t = .changed op reply) :
      Moves w t { w.enter t (.leaving op reply) with
        registry := w.registry.forget, changes := w.changes ++ [op] }
  | unlock {op : Op} {reply : Reply} (hphase : w.phase t = .leaving op reply) :
      Moves w t { w.enter t (.returned op reply) with holder := none }

/-- What a thread does next is one of the moves, by the phase that it is in. -/
lemma moves_of_advance (h : w.advance t = some w') : Moves w t w' := by
  cases hphase : w.phase t with
  | idle | returned op reply => simp [advance, hphase] at h
  | called op =>
    simp only [advance, hphase] at h
    split at h
    · rename_i reply honce
      obtain rfl := Option.some.inj h
      cases op with
      | register ns id =>
        obtain ⟨hns, rfl⟩ : accepts ns = false ∧ Reply.refused (.emptyNamespace ns) = reply := by
          simpa [Op.atOnce] using honce
        exact .refuse hphase hns
      | resolve ns =>
        obtain ⟨route, hroute, rfl⟩ := Option.map_eq_some_iff.mp honce
        exact .hit hphase hroute
      | unregister ns => simp [Op.atOnce] at honce
      | clear => simp [Op.atOnce] at honce
    · rename_i honce
      obtain rfl := Option.some.inj h
      exact .wait hphase honce
  | waiting op =>
    simp only [advance, hphase, Option.ite_none_right_eq_some, Option.some.injEq] at h
    obtain ⟨hfree, rfl⟩ := h
    exact .lock hphase hfree
  | inside op =>
    cases op with
    | resolve ns =>
      simp only [advance, hphase, Option.some.injEq] at h
      subst h
      exact .find hphase
    | register | unregister | clear =>
      simp only [advance, hphase, Option.some.injEq] at h
      subst h
      exact .change hphase (by simp)
  | found ns route =>
    simp only [advance, hphase, Option.some.injEq] at h
    subst h
    exact .keep hphase
  | changed op reply =>
    simp only [advance, hphase, Option.some.injEq] at h
    subst h
    exact .forget hphase
  | leaving op reply =>
    simp only [advance, hphase, Option.some.injEq] at h
    subst h
    exact .unlock hphase

/-- Each of the moves is what the thread does next. -/
lemma advance_of_moves (h : Moves w t w') : w.advance t = some w' := by
  cases h with
  | hit hphase hfound => simp [advance, hphase, Op.atOnce, hfound]
  | refuse hphase hns => simp [advance, hphase, Op.atOnce, hns]
  | wait hphase honce => simp [advance, hphase, honce]
  | lock hphase hfree => simp [advance, hphase, hfree]
  | find hphase => simp [advance, hphase]
  | @change op hphase hop =>
    cases op with
    | resolve ns => exact absurd rfl (hop ns)
    | register ns id => simp [advance, hphase]
    | unregister ns => simp [advance, hphase]
    | clear => simp [advance, hphase]
  | keep hphase => simp [advance, hphase]
  | forget hphase => simp [advance, hphase]
  | unlock hphase => simp [advance, hphase]

/-- The thread that comes to a phase is in that phase. -/
@[simp]
lemma phase_enter_self : (w.enter t p).phase t = p := Function.update_self ..

/-- All other threads stay in their phases. -/
lemma phase_enter_of_ne (h : t' ≠ t) : (w.enter t p).phase t' = w.phase t' :=
  Function.update_of_ne h ..

/-! ## What the routes and the calls rely on -/

/-- Who holds the mutex knows it.  Kept routes are those by the registrations in force, and these are
the ones that stand there, unless somebody is in the middle of a change. -/
structure Sound (w : Shared Thread) : Prop where
  mutex : ∀ t, (w.phase t).holds = true ↔ w.holder = some t
  fits : ∀ t, (w.phase t).Fits w.registry.entries w.changes
  found : ∀ k route, (k, route) ∈ w.registry.found →
    route = walk (inForce w.changes) (Namespace.normalize k.toList)
  settled : (∀ t op reply, w.phase t ≠ .changed op reply) → w.registry.entries = inForce w.changes

omit [DecidableEq Thread] in
/-- On a registry that nobody has called, there is nothing to rely on. -/
lemma sound_empty : (empty : Shared Thread).Sound where
  mutex t := by simp [empty, Phase.holds]
  fits t := trivial
  found k route hmem := by simp [empty, Registry.empty] at hmem
  settled _ := rfl

namespace Sound

omit [DecidableEq Thread] in
/-- Nobody else holds the mutex. -/
lemma outside (hw : w.Sound) (ht : (w.phase t).holds = true) (hne : t' ≠ t) :
    (w.phase t').holds = false := by
  rw [Bool.eq_false_iff]
  intro ht'
  have hholder := (hw.mutex t').mp ht'
  rw [(hw.mutex t).mp ht] at hholder
  exact hne (Option.some.inj hholder).symm

omit [DecidableEq Thread] in
/-- While a thread holds the mutex and is in the middle of no change, nobody is. -/
lemma entries_of_holds (hw : w.Sound) (ht : (w.phase t).holds = true)
    (hchanged : ∀ op reply, w.phase t ≠ .changed op reply) :
    w.registry.entries = inForce w.changes := by
  apply hw.settled
  intro t' op reply hphase
  by_cases hne : t' = t
  · rw [hne] at hphase
    exact hchanged op reply hphase
  · have hout := hw.outside ht hne
    simp [hphase, Phase.holds] at hout

/-- A thread that gets by without the mutex disturbs nothing. -/
lemma enter_outside (hw : w.Sound) (hold : (w.phase t).holds = false) (hnew : p.holds = false)
    (hfits : p.Fits w.registry.entries w.changes) : (w.enter t p).Sound where
  mutex s := by
    by_cases hs : s = t
    · subst hs
      rw [phase_enter_self, hnew, ← hold]
      exact hw.mutex s
    · rw [phase_enter_of_ne hs]
      exact hw.mutex s
  fits s := by
    by_cases hs : s = t
    · subst hs
      rw [phase_enter_self]
      exact hfits
    · rw [phase_enter_of_ne hs]
      exact hw.fits s
  found := hw.found
  settled hnobody := by
    apply hw.settled
    intro s op reply hphase
    by_cases hs : s = t
    · subst hs
      simp [hphase, Phase.holds] at hold
    · apply hnobody s op reply
      rw [phase_enter_of_ne hs]
      exact hphase

/-- A thread that held the mutex, or has got it, may change what the mutex guards: no other thread
relies on it. -/
lemma enter_inside (hw : w.Sound) (hout : ∀ s, s ≠ t → (w.phase s).holds = false)
    (hphase : w'.phase = Function.update w.phase t p)
    (hholder : w'.holder = if p.holds then some t else none)
    (hfits : p.Fits w'.registry.entries w'.changes)
    (hfound : ∀ k route, (k, route) ∈ w'.registry.found →
      route = walk (inForce w'.changes) (Namespace.normalize k.toList))
    (hsettled : (∀ op reply, p ≠ .changed op reply) → w'.registry.entries = inForce w'.changes) :
    w'.Sound where
  mutex s := by
    rw [hphase, hholder]
    by_cases hs : s = t
    · subst hs
      rw [Function.update_self]
      cases p.holds <;> simp
    · rw [Function.update_of_ne hs, hout s hs]
      cases p.holds <;> simp [Ne.symm hs]
  fits s := by
    rw [hphase]
    by_cases hs : s = t
    · subst hs
      rw [Function.update_self]
      exact hfits
    · rw [Function.update_of_ne hs]
      exact (hw.fits s).of_outside (hout s hs)
  found := hfound
  settled hnobody := by
    apply hsettled
    intro op reply hp
    apply hnobody t op reply
    rw [hphase, Function.update_self, hp]

/-- **Whatever a thread does next, everybody can go on relying on the rest.** -/
lemma move (hw : w.Sound) (hmove : Moves w t w') : w'.Sound := by
  have hguarded : ∀ {p}, w.phase t = p → p.holds = true → ∀ s, s ≠ t → (w.phase s).holds = false := by
    intro p hphase hp s hs
    exact hw.outside (hphase ▸ hp) hs
  have hfits := hw.fits t
  cases hmove with
  | hit hphase _ => exact hw.enter_outside (by rw [hphase]; rfl) rfl trivial
  | refuse hphase _ => exact hw.enter_outside (by rw [hphase]; rfl) rfl trivial
  | wait hphase honce =>
    exact hw.enter_outside (by rw [hphase]; rfl) rfl (Op.isRefused_of_atOnce honce)
  | @lock op hphase hfree =>
    have hout : ∀ s, (w.phase s).holds = false := by
      intro s
      rw [Bool.eq_false_iff]
      intro hs
      simpa [hfree] using (hw.mutex s).mp hs
    have hentries : w.registry.entries = inForce w.changes := by
      apply hw.settled
      intro s op reply hs
      have hholds := hout s
      simp [hs, Phase.holds] at hholds
    rw [hphase] at hfits
    exact hw.enter_inside (fun s _ => hout s) rfl rfl hfits hw.found (fun _ => hentries)
  | @find ns hphase =>
    have hentries : w.registry.entries = inForce w.changes :=
      hw.entries_of_holds (by rw [hphase]; rfl) (by simp [hphase])
    refine hw.enter_inside (hguarded hphase rfl) rfl ?_ ?_ hw.found (fun _ => hentries)
    · exact (hw.mutex t).mp (by rw [hphase]; rfl)
    · simp [Phase.Fits, lookup, hentries, enter]
  | @change op hphase hop =>
    have hentries : w.registry.entries = inForce w.changes :=
      hw.entries_of_holds (by rw [hphase]; rfl) (by simp [hphase])
    have hchanges : op.changes = true := by
      rw [hphase] at hfits
      cases op with
      | register ns id => simpa [Phase.Fits, Op.isRefused, Op.changes] using hfits
      | resolve ns => exact absurd rfl (hop ns)
      | unregister ns => rfl
      | clear => rfl
    refine hw.enter_inside (hguarded hphase rfl) rfl ?_ ?_ hw.found ?_
    · exact (hw.mutex t).mp (by rw [hphase]; rfl)
    · refine ⟨hchanges, ?_, ?_⟩
      · simp [reenter, hentries, inForce, enter]
      · rw [Op.reply_of_changes hchanges, hentries]
        rfl
    · intro hnot
      exact absurd rfl (hnot op _)
  | @keep ns route hphase =>
    have hentries : w.registry.entries = inForce w.changes :=
      hw.entries_of_holds (by rw [hphase]; rfl) (by simp [hphase])
    refine hw.enter_inside (hguarded hphase rfl) rfl ?_ trivial ?_ (fun _ => hentries)
    · exact (hw.mutex t).mp (by rw [hphase]; rfl)
    · intro k kept hmem
      rcases List.mem_cons.mp hmem with heq | hmem
      · cases heq
        rw [hphase] at hfits
        exact hfits
      · exact hw.found k kept (List.mem_of_mem_filter hmem)
  | @forget op reply hphase =>
    rw [hphase] at hfits
    refine hw.enter_inside (hguarded hphase rfl) rfl ?_ trivial ?_ (fun _ => hfits.2.1)
    · exact (hw.mutex t).mp (by rw [hphase]; rfl)
    · intro k kept hmem
      simp [Registry.forget] at hmem
  | @unlock op reply hphase =>
    have hentries : w.registry.entries = inForce w.changes :=
      hw.entries_of_holds (by rw [hphase]; rfl) (by simp [hphase])
    exact hw.enter_inside (hguarded hphase rfl) rfl rfl trivial hw.found (fun _ => hentries)

/-- **Whatever happens next**, everybody can go on relying on the rest: a call only begins, and
disturbs nobody. -/
lemma step {a : Action Thread} (hw : w.Sound) (hstep : w.step a = some w') : w'.Sound := by
  cases a with
  | call t op =>
    simp only [Shared.step, Option.ite_none_right_eq_some, Option.some.injEq] at hstep
    obtain ⟨hop, rfl⟩ := hstep
    exact hw.enter_outside (Phase.holds_eq_false_of_op? hop) rfl trivial
  | advance t => exact hw.move (moves_of_advance hstep)

end Sound

/-! ## Calls that nobody disturbs -/

/-- A route that is kept for a namespace without one takes nothing away. -/
lemma remember_of_lookup {r : Registry} {ns : String} {route : Route}
    (h : r.found.lookup ns = none) :
    r.remember ns route = { r with found := (ns, route) :: r.found } := by
  have hall : r.found.filter (fun entry => entry.1 != ns) = r.found := by
    apply List.filter_eq_self.mpr
    intro entry hentry
    have hne : (ns != entry.1) = true := List.lookup_eq_none_iff.mp h entry hentry
    exact bne_iff_ne.mpr (bne_iff_ne.mp hne).symm
  rw [remember, hall]

/-- What one more step of a thread adds to a run. -/
lemma run_advance (h : Moves w t u) (n : Nat) :
    run step w (List.replicate (n + 1) (.advance t)) = run step u (List.replicate n (.advance t)) := by
  simp [Interleaving.run, List.replicate_succ, Shared.step, advance_of_moves h]

/-- A call that needs the mutex gets it, if it is free. -/
lemma run_lock (hphase : w.phase t = .called op) (hfree : w.holder = none)
    (honce : op.atOnce w.registry = none) (n : Nat) :
    run step w (List.replicate (n + 2) (.advance t)) =
      run step { w.enter t (.inside op) with holder := some t } (List.replicate n (.advance t)) := by
  refine Eq.trans (run_advance (.wait hphase honce) (n + 1)) ?_
  refine Eq.trans (run_advance (.lock (by exact phase_enter_self) (by exact hfree)) n) ?_
  simp [enter]

/-- A change goes through the mutex, in five steps. -/
lemma run_change (hphase : w.phase t = .called op) (hfree : w.holder = none)
    (hop : op.changes = true) :
    run step w (List.replicate 5 (.advance t)) = some { w with
      registry := op.on w.registry
      phase := Function.update w.phase t (.returned op (op.reply w.registry))
      changes := w.changes ++ [op] } := by
  have honce : op.atOnce w.registry = none := by
    cases op <;> simp_all [Op.atOnce, Op.changes]
  have hresolve : ∀ ns, op ≠ .resolve ns := by
    rintro ns rfl
    simp [Op.changes] at hop
  have hon : (w.registry.reenter op).forget = op.on w.registry := by
    cases op <;> simp_all [reenter, Registry.forget, Op.on, Op.onEntries, Op.changes, register,
      unregister, clear, Registry.empty, Except.toOption]
  refine Eq.trans (run_lock hphase hfree honce 3) ?_
  refine Eq.trans (run_advance (.change (by exact phase_enter_self) hresolve) 2) ?_
  refine Eq.trans (run_advance (.forget (by exact phase_enter_self)) 1) ?_
  refine Eq.trans (run_advance (.unlock (by exact phase_enter_self)) 0) ?_
  simp [enter, hfree, ← hon]

/-- A route that is not kept is found and kept, in five steps. -/
lemma run_miss {ns : String} (hphase : w.phase t = .called (.resolve ns)) (hfree : w.holder = none)
    (hnone : w.registry.found.lookup ns = none) :
    run step w (List.replicate 5 (.advance t)) = some { w with
      registry := (w.registry.resolve ns).2
      phase := Function.update w.phase t
        (.returned (.resolve ns) (.route (w.registry.resolve ns).1)) } := by
  have honce : (Op.resolve ns).atOnce w.registry = none := by simp [Op.atOnce, hnone]
  refine Eq.trans (run_lock hphase hfree honce 3) ?_
  refine Eq.trans (run_advance (.find (by exact phase_enter_self)) 2) ?_
  refine Eq.trans (run_advance (.keep (by exact phase_enter_self)) 1) ?_
  refine Eq.trans (run_advance (.unlock (by exact phase_enter_self)) 0) ?_
  simp [enter, hfree, resolve, hnone, remember_of_lookup hnone]

/-- **A call that nobody disturbs** does what it does on a registry that is not shared, and returns
the same. -/
theorem run_alone (hfree : w.holder = none) (hidle : (w.phase t).op? = none) (op : Op) :
    ∃ n, run step w (.call t op :: List.replicate n (.advance t)) = some { w with
      registry := op.on w.registry
      phase := Function.update w.phase t (.returned op (op.reply w.registry))
      changes := w.changes ++ op.change } := by
  have hcall : step w (.call t op) = some (w.enter t (.called op)) := by simp [step, hidle]
  have hphase : (w.enter t (.called op)).phase t = .called op := phase_enter_self
  by_cases hop : op.changes = true
  · refine ⟨5, run_cons_iff.mpr ⟨_, hcall, ?_⟩⟩
    rw [run_change hphase hfree hop, Op.change_of_changes hop]
    simp [enter]
  · have hchange : op.change = [] := by simp [Op.change, hop]
    cases op with
    | register ns id =>
      have hns : accepts ns = false := by simpa [Op.changes] using hop
      refine ⟨1, run_cons_iff.mpr ⟨_, hcall, ?_⟩⟩
      rw [run_advance (.refuse hphase hns)]
      simp [enter, hchange, Op.on, Op.reply, register, hns, Except.toOption]
    | unregister ns => simp [Op.changes] at hop
    | clear => simp [Op.changes] at hop
    | resolve ns =>
      cases hfound : w.registry.found.lookup ns with
      | some route =>
        refine ⟨1, run_cons_iff.mpr ⟨_, hcall, ?_⟩⟩
        rw [run_advance (.hit hphase hfound)]
        simp [enter, hchange, Op.on, Op.reply, resolve, hfound]
      | none =>
        refine ⟨5, run_cons_iff.mpr ⟨_, hcall, ?_⟩⟩
        rw [run_miss hphase hfree hfound]
        simp [enter, hchange, Op.on, Op.reply]

end Shared

end Registry

end NamespaceLogging
