import NamespaceLogging.Proofs.SharedRegistry

/-!
# No stale route

Between the two steps of a change, a route that was kept may answer for the registrations as they were;
but the call of the change has not returned yet, and so nobody could rely on it.  What a call returns is
right for one moment while it was under way.

## Main definitions

* `Registry.Shared.Answered`: a call took effect at one moment while it was under way.
* `Registry.Shared.Story`: what has come of the last call of a thread.
* `Registry.Shared.Ends`: a call comes to its end without anybody's help.

## Main results

* `Registry.Shared.story_run`: every call is under way, or took effect at one moment.
* `Registry.Shared.exists_end`: every call that is under way can come to its end.
* `Registry.Shared.no_stale_route`: every call answers for the registrations that were in force at a
  moment between its start and its end.
-/

set_option autoImplicit false

namespace NamespaceLogging

namespace Registry

open Interleaving

namespace Shared

variable {Thread : Type} [DecidableEq Thread] {w w' u v : Shared Thread} {t t' : Thread} {p : Phase}
  {op : Op} {reply : Reply}

/-! ## The moment of a call -/

/-- A thread makes no call. -/
def Quiet (t : Thread) (actions : List (Action Thread)) : Prop := ∀ a ∈ actions, a.caller? ≠ some t

/-- The last call of a thread, which began in the state `u`. -/
def Begun (actions : List (Action Thread)) (w : Shared Thread) (t : Thread) (op : Op) : Prop :=
  ∃ first rest u, actions = first ++ .call t op :: rest ∧ Quiet t rest ∧
    run step empty first = some u ∧ u.changes <+: w.changes

/-- The last call of a thread began in the state `u`, and took effect by a step from the state `v`, in
which it was under way: it answers for the registrations that were in force in `v`, and if it is a
change, it came into force next.  All changes that were in force when it began are so in `v`. -/
def Answered (actions : List (Action Thread)) (w : Shared Thread) (t : Thread) (op : Op)
    (reply : Reply) : Prop :=
  ∃ first second third u v, actions = first ++ .call t op :: (second ++ .advance t :: third) ∧
    Quiet t (second ++ .advance t :: third) ∧ run step empty first = some u ∧
    run step empty (first ++ .call t op :: second) = some v ∧ (v.phase t).op? = some op ∧
    u.changes <+: v.changes ∧ reply = op.answer (inForce v.changes) ∧
    v.changes ++ op.change <+: w.changes

/-- What has come of the last call of a thread. -/
def Story (actions : List (Action Thread)) (w : Shared Thread) (t : Thread) : Phase → Prop
  | .idle => True
  | .called op | .waiting op | .inside op | .changed op _ => Begun actions w t op
  | .found ns _ => Begun actions w t (.resolve ns)
  | .leaving op reply | .returned op reply => Answered actions w t op reply

variable {actions : List (Action Thread)} {a : Action Thread}

omit [DecidableEq Thread] in
/-- A thread that makes no call, also not by one action more, makes none in all of them. -/
lemma Quiet.concat (h : Quiet t actions) (ha : a.caller? ≠ some t) : Quiet t (actions ++ [a]) := by
  intro b hb
  rcases List.mem_append.mp hb with hb | hb
  · exact h b hb
  · obtain rfl := List.mem_singleton.mp hb
    exact ha

/-- The last call of a thread goes on having begun while the thread makes no other call. -/
lemma Begun.concat (h : Begun actions w t op) (ha : a.caller? ≠ some t)
    (hmore : w.changes <+: w'.changes) : Begun (actions ++ [a]) w' t op := by
  obtain ⟨first, rest, u, rfl, hquiet, hu, hchanges⟩ := h
  exact ⟨first, rest ++ [a], u, by simp, hquiet.concat ha, hu, hchanges.trans hmore⟩

/-- The last call of a thread goes on having taken effect while the thread makes no other call. -/
lemma Answered.concat (h : Answered actions w t op reply) (ha : a.caller? ≠ some t)
    (hmore : w.changes <+: w'.changes) : Answered (actions ++ [a]) w' t op reply := by
  obtain ⟨first, second, third, u, v, rfl, hquiet, hu, hv, hphase, hchanges, hreply, hin⟩ := h
  refine ⟨first, second, third ++ [a], u, v, by simp, ?_, hu, hv, hphase, hchanges, hreply,
    hin.trans hmore⟩
  simpa using hquiet.concat ha

/-- What has come of the last call of a thread does not change while the thread makes no other
call. -/
lemma Story.concat (h : Story actions w t p) (ha : a.caller? ≠ some t)
    (hmore : w.changes <+: w'.changes) : Story (actions ++ [a]) w' t p := by
  cases p with
  | idle => trivial
  | called op => exact Begun.concat h ha hmore
  | waiting op => exact Begun.concat h ha hmore
  | inside op => exact Begun.concat h ha hmore
  | found ns route => exact Begun.concat h ha hmore
  | changed op reply => exact Begun.concat h ha hmore
  | leaving op reply => exact Answered.concat h ha hmore
  | returned op reply => exact Answered.concat h ha hmore

/-- A call takes effect. -/
lemma Begun.answered (h : Begun actions w t op) (hrun : run step empty actions = some w)
    (hphase : (w.phase t).op? = some op) (hreply : reply = op.answer (inForce w.changes))
    (hmore : w.changes ++ op.change <+: w'.changes) :
    Answered (actions ++ [.advance t]) w' t op reply := by
  obtain ⟨first, rest, u, rfl, hquiet, hu, hchanges⟩ := h
  refine ⟨first, rest, [], u, w, by simp, ?_, hu, hrun, hphase, hchanges, hreply, hmore⟩
  exact hquiet.concat (by simp [Action.caller?])

/-- A move of one thread leaves the phases of all others. -/
lemma Moves.phase_of_ne (h : Moves w t w') (hne : t' ≠ t) : w'.phase t' = w.phase t' := by
  cases h <;> exact Function.update_of_ne hne ..

/-- Whatever a thread does, changes that are in force stay in force. -/
lemma Moves.changes_grow (h : Moves w t w') : w.changes <+: w'.changes := by
  cases h <;> simp [enter]

/-- Whatever happens next, changes that are in force stay in force. -/
lemma changes_grow (h : w.step a = some w') : w.changes <+: w'.changes := by
  cases a with
  | call t op =>
    simp only [step, Option.ite_none_right_eq_some, Option.some.injEq] at h
    obtain ⟨-, rfl⟩ := h
    exact List.prefix_refl _
  | advance t => exact (moves_of_advance h).changes_grow

/-- A run only adds to the changes that are in force. -/
lemma prefix_changes_of_run (hrun : run step u actions = some w) : u.changes <+: w.changes :=
  run_keeps (P := fun v => u.changes <+: v.changes) hrun (List.prefix_refl _)
    fun _ _ _ _ hv hstep => hv.trans (changes_grow hstep)

/-- **A call takes effect** when it answers at once, when the route that was found is kept, or when
the routes are forgotten after a change. -/
lemma Moves.story (h : Moves w t w') (hw : w.Sound) (hrun : run step empty actions = some w)
    (hstory : Story actions w t (w.phase t)) :
    Story (actions ++ [.advance t]) w' t (w'.phase t) := by
  have hquiet : (Action.advance t).caller? ≠ some t := by simp [Action.caller?]
  have hon := hstory.concat hquiet h.changes_grow
  have hfits := hw.fits t
  cases h with
  | @hit ns route hphase hfound =>
    rw [hphase] at hstory
    rw [phase_enter_self]
    refine Begun.answered hstory hrun (by rw [hphase]; rfl) ?_ (by simp [Op.change, Op.changes, enter])
    rw [Op.answer_resolve, hw.found ns route (mem_of_lookup hfound)]
  | @refuse ns id hphase hns =>
    rw [hphase] at hstory
    rw [phase_enter_self]
    refine Begun.answered hstory hrun (by rw [hphase]; rfl) ?_
      (by simp [Op.change, Op.changes, hns, enter])
    simp [Op.answer, Op.reply, Registry.register, hns]
  | wait hphase _ =>
    rw [hphase] at hon
    rw [phase_enter_self]
    exact hon
  | lock hphase _ =>
    rw [hphase] at hon
    simp only [enter, Function.update_self]
    exact hon
  | find hphase =>
    rw [hphase] at hon
    simp only [enter, Function.update_self]
    exact hon
  | change hphase _ =>
    rw [hphase] at hon
    simp only [enter, Function.update_self]
    exact hon
  | @keep ns route hphase =>
    rw [hphase] at hstory hfits
    simp only [enter, Function.update_self]
    refine Begun.answered hstory hrun (by rw [hphase]; rfl) ?_ (by simp [Op.change, Op.changes])
    rw [Op.answer_resolve, ← hfits]
  | @forget op reply hphase =>
    rw [hphase] at hstory hfits
    simp only [enter, Function.update_self]
    refine Begun.answered hstory hrun (by rw [hphase]; rfl) hfits.2.2 ?_
    simp [Op.change_of_changes hfits.1]
  | unlock hphase =>
    rw [hphase] at hon
    simp only [enter, Function.update_self]
    exact hon

/-- However the threads interleave, they can rely on the routes and the registrations. -/
lemma sound_run (hrun : run step empty actions = some w) : w.Sound :=
  run_keeps hrun sound_empty fun _ _ _ _ hu hstep => hu.step hstep

/-- **Every call** is under way, or has taken effect at one moment. -/
lemma story_run (hrun : run step empty actions = some w) (t : Thread) :
    Story actions w t (w.phase t) := by
  refine run_induct (P := fun actions w => Story actions w t (w.phase t)) hrun trivial ?_
  intro past u v a hpast hstory hstep
  have hmore := changes_grow hstep
  cases a with
  | call s op =>
    simp only [step, Option.ite_none_right_eq_some, Option.some.injEq] at hstep
    obtain ⟨-, rfl⟩ := hstep
    by_cases hs : t = s
    · subst hs
      rw [phase_enter_self]
      exact ⟨past, [], u, rfl, by simp [Quiet], hpast, hmore⟩
    · rw [phase_enter_of_ne hs]
      exact hstory.concat (by simp [Action.caller?, Ne.symm hs]) hmore
  | advance s =>
    have hmove := moves_of_advance hstep
    by_cases hs : t = s
    · subst hs
      exact hmove.story (sound_run hpast) hpast hstory
    · rw [hmove.phase_of_ne hs]
      exact hstory.concat (by simp [Action.caller?]) hmore

/-! ## Calls come to their end -/

/-- A thread comes to the end of its call without anybody's help, and leaves the mutex free. -/
def Ends (w : Shared Thread) (t : Thread) (op : Op) : Prop :=
  ∃ more v reply, (∀ a ∈ more, a = .advance t) ∧ run step w more = some v ∧
    v.phase t = .returned op reply ∧ v.holder = none ∧ ∀ s, s ≠ t → v.phase s = w.phase s

/-- A call that has returned has come to its end. -/
lemma ends_of_returned (hphase : w.phase t = .returned op reply) (hfree : w.holder = none) :
    w.Ends t op :=
  ⟨[], w, reply, by simp, rfl, hphase, hfree, fun _ _ => rfl⟩

/-- A call that comes to its end after one of its moves does so before it as well. -/
lemma Ends.move (hmove : Moves w t u) (h : u.Ends t op) : w.Ends t op := by
  obtain ⟨more, v, reply, hmore, hrun, hphase, hholder, hothers⟩ := h
  refine ⟨.advance t :: more, v, reply, ?_, ?_, hphase, hholder, ?_⟩
  · intro a ha
    rcases List.mem_cons.mp ha with rfl | ha
    · rfl
    · exact hmore a ha
  · exact run_cons_iff.mpr ⟨u, advance_of_moves hmove, hrun⟩
  · intro s hs
    rw [hothers s hs]
    exact hmove.phase_of_ne hs

/-- Who holds the mutex is not stopped by anybody. -/
lemma ends_of_holds (hp : (w.phase t).holds = true) (hop : (w.phase t).op? = some op) :
    w.Ends t op := by
  have hleaving : ∀ {w : Shared Thread} {op reply}, w.phase t = .leaving op reply → w.Ends t op := by
    intro w op reply hphase
    exact .move (.unlock hphase) (ends_of_returned phase_enter_self rfl)
  have hfound : ∀ {w : Shared Thread} {ns route}, w.phase t = .found ns route →
      w.Ends t (.resolve ns) := by
    intro w ns route hphase
    exact .move (.keep hphase) (hleaving phase_enter_self)
  have hchanged : ∀ {w : Shared Thread} {op reply}, w.phase t = .changed op reply → w.Ends t op := by
    intro w op reply hphase
    exact .move (.forget hphase) (hleaving phase_enter_self)
  cases hphase : w.phase t with
  | inside op' =>
    obtain rfl : op' = op := by simpa [hphase, Phase.op?] using hop
    by_cases hresolve : ∃ ns, op' = .resolve ns
    · obtain ⟨ns, rfl⟩ := hresolve
      exact .move (.find hphase) (hfound phase_enter_self)
    · exact .move (.change hphase fun ns heq => hresolve ⟨ns, heq⟩) (hchanged phase_enter_self)
  | found ns route =>
    obtain rfl : Op.resolve ns = op := by simpa [hphase, Phase.op?] using hop
    exact hfound hphase
  | changed op' reply =>
    obtain rfl : op' = op := by simpa [hphase, Phase.op?] using hop
    exact hchanged hphase
  | leaving op' reply =>
    obtain rfl : op' = op := by simpa [hphase, Phase.op?] using hop
    exact hleaving hphase
  | idle => simp [hphase, Phase.holds] at hp
  | called op' => simp [hphase, Phase.holds] at hp
  | waiting op' => simp [hphase, Phase.holds] at hp
  | returned op' reply => simp [hphase, Phase.holds] at hp

/-- A call that waits for the mutex gets it if it is free, and comes to its end then. -/
lemma ends_waiting (hfree : w.holder = none) (hphase : w.phase t = .waiting op) : w.Ends t op := by
  refine .move (.lock hphase hfree) (ends_of_holds ?_ ?_)
  · simp [enter, Phase.holds]
  · simp [enter, Phase.op?]

/-- Where the mutex is free, every thread comes to the end of its call. -/
lemma ends_of_free (hw : w.Sound) (hfree : w.holder = none) (hop : (w.phase t).op? = some op) :
    w.Ends t op := by
  have hout : (w.phase t).holds = false := by
    rw [Bool.eq_false_iff]
    intro ht
    simpa [hfree] using (hw.mutex t).mp ht
  cases hphase : w.phase t with
  | called op' =>
    obtain rfl : op' = op := by simpa [hphase, Phase.op?] using hop
    cases honce : op'.atOnce w.registry with
    | none => exact .move (.wait hphase honce) (ends_waiting hfree phase_enter_self)
    | some reply =>
      have hmove : Moves w t (w.enter t (.returned op' reply)) :=
        moves_of_advance (by simp [advance, hphase, honce])
      exact .move hmove (ends_of_returned phase_enter_self hfree)
  | waiting op' =>
    obtain rfl : op' = op := by simpa [hphase, Phase.op?] using hop
    exact ends_waiting hfree hphase
  | idle => simp [hphase, Phase.op?] at hop
  | returned op' reply => simp [hphase, Phase.op?] at hop
  | inside op' => simp [hphase, Phase.holds] at hout
  | found ns route => simp [hphase, Phase.holds] at hout
  | changed op' reply => simp [hphase, Phase.holds] at hout
  | leaving op' reply => simp [hphase, Phase.holds] at hout

/-- **No call is stuck**: the holder of the mutex comes to its end, and then any other thread does. -/
lemma exists_end (hw : w.Sound) (hop : (w.phase t).op? = some op) :
    ∃ more v reply, (∀ a ∈ more, a.caller? = none) ∧ run step w more = some v ∧
      v.phase t = .returned op reply := by
  have hquiet : ∀ {s : Thread} {more : List (Action Thread)}, (∀ a ∈ more, a = .advance s) →
      ∀ a ∈ more, a.caller? = none := by
    intro s more hmore a ha
    rw [hmore a ha]
    rfl
  have hfinish : ∀ {w : Shared Thread}, w.Ends t op → ∃ more v reply,
      (∀ a ∈ more, a.caller? = none) ∧ run step w more = some v ∧ v.phase t = .returned op reply := by
    rintro w ⟨more, v, reply, hmore, hrun, hphase, -⟩
    exact ⟨more, v, reply, hquiet hmore, hrun, hphase⟩
  cases hholder : w.holder with
  | none => exact hfinish (ends_of_free hw hholder hop)
  | some s =>
    have hs : (w.phase s).holds = true := (hw.mutex s).mpr hholder
    by_cases hst : s = t
    · subst hst
      exact hfinish (ends_of_holds hs hop)
    · obtain ⟨op', hop'⟩ : ∃ op', (w.phase s).op? = some op' := by
        cases hphase : w.phase s <;> simp_all [Phase.op?, Phase.holds]
      obtain ⟨before, u, reply', hbefore, hu, -, hfree, hothers⟩ := ends_of_holds hs hop'
      have hsound : u.Sound := run_keeps hu hw fun _ _ _ _ hv hstep => hv.step hstep
      have htop : (u.phase t).op? = some op := by rw [hothers t (Ne.symm hst), hop]
      obtain ⟨more, v, reply, hmore, hrun, hphase⟩ := hfinish (ends_of_free hsound hfree htop)
      refine ⟨before ++ more, v, reply, ?_, run_append_iff.mpr ⟨u, hu, hrun⟩, hphase⟩
      intro a ha
      rcases List.mem_append.mp ha with ha | ha
      · exact hquiet hbefore a ha
      · exact hmore a ha

/-! ## No stale route -/

omit [DecidableEq Thread] in
/-- The last call of a thread stands where it is made last. -/
lemma eq_of_quiet {first first' rest rest' : List (Action Thread)} {op op' : Op}
    (heq : first ++ .call t op :: rest = first' ++ .call t op' :: rest') (hrest : Quiet t rest)
    (hrest' : Quiet t rest') : first = first' := by
  rcases List.append_eq_append_iff.mp heq with ⟨between, rfl, htail⟩ | ⟨between, rfl, htail⟩
  · cases between with
    | nil => simp
    | cons a between =>
      obtain ⟨rfl, rfl⟩ := List.cons.inj htail
      exact absurd rfl (hrest (.call t op') (by simp))
  · cases between with
    | nil => simp
    | cons a between =>
      obtain ⟨rfl, rfl⟩ := List.cons.inj htail
      exact absurd rfl (hrest' (.call t op) (by simp))

/-- A call that has returned took effect at one moment. -/
lemma answered_of_returned (hrun : run step empty actions = some w)
    (hphase : w.phase t = .returned op reply) : Answered actions w t op reply := by
  have hstory := story_run hrun t
  rw [hphase] at hstory
  exact hstory

/-- A call that took effect has done so also when more changes have come into force. -/
lemma Answered.mono (h : Answered actions w t op reply) (hmore : w.changes <+: w'.changes) :
    Answered actions w' t op reply := by
  obtain ⟨first, second, third, u, v, hactions, hquiet, hu, hv, hphase, hchanges, hreply, hin⟩ := h
  exact ⟨first, second, third, u, v, hactions, hquiet, hu, hv, hphase, hchanges, hreply,
    hin.trans hmore⟩

/-- A change that took effect is in force. -/
lemma Answered.mem_changes (h : Answered actions w t op reply) (hop : op.changes = true) :
    op ∈ w.changes := by
  obtain ⟨-, -, -, -, v, -, -, -, -, -, -, -, hin⟩ := h
  rw [Op.change_of_changes hop] at hin
  exact hin.subset (by simp)

/-- **A hit in the middle of a change.**  The registrations have changed already, but a route that is
still kept is the one by the registrations before the change, and it is what the call returns. -/
lemma Sound.hit_of_changed {ns : String} {route : Route} (hw : w.Sound)
    (hchanged : w.phase t = .changed op reply) (hcalled : w.phase t' = .called (.resolve ns))
    (hfound : w.registry.found.lookup ns = some route) :
    w.registry.entries = inForce (w.changes ++ [op]) ∧
      route = walk (inForce w.changes) (Namespace.normalize ns.toList) ∧
      w.step (.advance t') = some (w.enter t' (.returned (.resolve ns) (.route route))) := by
  have hfits := hw.fits t
  rw [hchanged] at hfits
  refine ⟨hfits.2.1, hw.found ns route (mem_of_lookup hfound), ?_⟩
  exact advance_of_moves (.hit hcalled hfound)

/-- **No stale route.**  However the threads interleave:

* where the mutex is free, the registrations are those in force, and every kept route is the one that
  is found on them; at any other time, the registrations are at most one change ahead, and then a hit
  returns the route by the registrations before that change;
* every call that has returned answers for the registrations that were in force at a moment while it
  was under way;
* in particular, a resolution answers for all changes that were in force when it began, and perhaps
  for later ones; every call that had returned by then, at any time before, had taken effect, and
  if it was a change, it is one of them;
* every call that is under way can come to its end.

**Proof sketch.** A change comes into force when it forgets the routes, and up to then the kept routes
are the right ones; a hit in the middle of a change is right since the change is not in force yet.
A route that was not kept is found and kept under one lock, and no change can come in between. -/
theorem no_stale_route (hrun : run step empty actions = some w) :
    ((w.holder = none → w.registry.entries = inForce w.changes ∧
        ∀ k route, (k, route) ∈ w.registry.found → route = w.registry.lookup k) ∧
      (w.registry.entries = inForce w.changes ∨ ∃ t op reply,
        w.phase t = .changed op reply ∧ w.registry.entries = inForce (w.changes ++ [op])) ∧
      ∀ t op reply s ns route, w.phase t = .changed op reply → w.phase s = .called (.resolve ns) →
        w.registry.found.lookup ns = some route →
        w.registry.entries = inForce (w.changes ++ [op]) ∧
          route = walk (inForce w.changes) (Namespace.normalize ns.toList) ∧
          w.step (.advance s) = some (w.enter s (.returned (.resolve ns) (.route route)))) ∧
    (∀ t op reply, w.phase t = .returned op reply → Answered actions w t op reply) ∧
    (∀ first rest u t ns reply, actions = first ++ .call t (.resolve ns) :: rest → Quiet t rest →
      run step empty first = some u → w.phase t = .returned (.resolve ns) reply →
      (∃ later,
        reply = .route (walk (inForce (u.changes ++ later)) (Namespace.normalize ns.toList))) ∧
      ∀ before after v s op reply, first = before ++ after → run step empty before = some v →
        v.phase s = .returned op reply →
        Answered before u s op reply ∧ (op.changes = true → op ∈ u.changes)) ∧
    ∀ t op, (w.phase t).op? = some op → ∃ more v reply, (∀ a ∈ more, a.caller? = none) ∧
      run step w more = some v ∧ v.phase t = .returned op reply := by
  have hw := sound_run hrun
  refine ⟨⟨?_, ?_, ?_⟩, fun t op reply => answered_of_returned hrun, ?_, fun t op => exists_end hw⟩
  · intro hfree
    have hentries : w.registry.entries = inForce w.changes := by
      apply hw.settled
      intro t op reply hphase
      have hholder := (hw.mutex t).mp (by rw [hphase]; rfl)
      simp [hfree] at hholder
    refine ⟨hentries, fun k route hmem => ?_⟩
    rw [lookup, hentries]
    exact hw.found k route hmem
  · by_cases hchanged : ∃ t op reply, w.phase t = .changed op reply
    · obtain ⟨t, op, reply, hphase⟩ := hchanged
      have hfits := hw.fits t
      rw [hphase] at hfits
      exact .inr ⟨t, op, reply, hphase, hfits.2.1⟩
    · push Not at hchanged
      exact .inl (hw.settled hchanged)
  · intro t op reply s ns route hchanged hcalled hfound
    exact hw.hit_of_changed hchanged hcalled hfound
  · intro first rest u t ns reply heq hquiet hu hphase
    obtain ⟨first', second, third, u', v, heq', hquiet', hu', -, -, hchanges, hreply, -⟩ :=
      answered_of_returned hrun hphase
    obtain rfl : first = first' := eq_of_quiet (heq.symm.trans heq') hquiet hquiet'
    obtain rfl : u = u' := Option.some.inj (hu.symm.trans hu')
    constructor
    · obtain ⟨later, hlater⟩ := hchanges
      exact ⟨later, by rw [hlater, hreply, Op.answer_resolve]⟩
    · rintro before after v s op reply rfl hv hs
      obtain ⟨v', hv', hafter⟩ := run_append_iff.mp hu
      obtain rfl : v = v' := Option.some.inj (hv.symm.trans hv')
      have hanswered := (answered_of_returned hv hs).mono (prefix_changes_of_run hafter)
      exact ⟨hanswered, hanswered.mem_changes⟩

/-- A namespace that was resolved before is resolved again while another thread is in the middle of its
registration, and a third thread waits to resolve what lies below it. -/
def window : List (Action Nat) :=
  [.call 0 (.resolve "a"), .advance 0, .advance 0, .advance 0, .advance 0, .advance 0,
    .call 1 (.register "a" 1), .advance 1, .advance 1, .call 0 (.resolve "a::b"), .advance 1,
    .advance 0, .call 2 (.resolve "a"), .advance 2]

/-- The registration returns, and then the namespaces are resolved. -/
def aftermath : List (Action Nat) :=
  [.advance 1, .advance 1, .advance 0, .advance 0, .advance 0, .advance 0, .call 2 (.resolve "a"),
    .advance 2, .advance 2, .advance 2, .advance 2, .advance 2]

/-- In the middle of the registration a kept route answers for the time before; later, none does. -/
theorem no_stale_route_of_window : ∃ u w : Shared Nat,
    run step empty window = some u ∧ u.phase 2 = .returned (.resolve "a") (.route .defaults) ∧
      Answered window u 2 (.resolve "a") (.route .defaults) ∧
    run step empty (window ++ aftermath) = some w ∧
      w.phase 2 = .returned (.resolve "a") (.route (.slot 1)) ∧
      Answered (window ++ aftermath) w 2 (.resolve "a") (.route (.slot 1)) ∧
      w.registry.entries = inForce w.changes := by
  have huview : (run step (empty : Shared Nat) window).map (fun u => u.phase 2) =
      some (.returned (.resolve "a") (.route .defaults)) := by with_unfolding_all rfl
  have hwview : (run step (empty : Shared Nat) (window ++ aftermath)).map
      (fun w => (w.phase 2, w.holder)) =
        some (.returned (.resolve "a") (.route (.slot 1)), none) := by with_unfolding_all rfl
  obtain ⟨u, hu, huphase⟩ := Option.map_eq_some_iff.mp huview
  obtain ⟨w, hw, heq⟩ := Option.map_eq_some_iff.mp hwview
  obtain ⟨hwphase, hholder⟩ := Prod.mk.inj heq
  refine ⟨u, w, hu, huphase, ?_, hw, hwphase, ?_, ?_⟩
  · exact (no_stale_route hu).2.1 2 _ _ huphase
  · exact (no_stale_route hw).2.1 2 _ _ hwphase
  · exact ((no_stale_route hw).1.1 hholder).1

end Shared

end Registry

end NamespaceLogging
