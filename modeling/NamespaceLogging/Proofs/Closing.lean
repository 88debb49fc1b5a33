import NamespaceLogging.Proofs.RegularHooks

/-!
# How engines close

An engine closes when it is told to stop, or when it failed once too often.  In both cases it has
left its router before, and its shutdown hook may use the system once more, or panic.

## Main definitions

* `Engine.Closes`: an engine before and after it is closed.
* `System.Fares`: what becomes of one engine, while all others are in balance.

## Main results

* `System.leaves_close`: an engine that was told to stop is closed.
-/

set_option autoImplicit false

namespace NamespaceLogging

open Act History

namespace Engine

/-- An engine, shut down before and closed afterwards. -/
structure Closes (e : EngineId) (h : List Entry) (x : Engine) (h' : List Entry) (y : Engine) :
    Prop where
  drainer : y.drainer = x.drainer
  starting : y.starting = x.starting
  closed : y.closed = true
  idle : Idle e h' ↔ Idle e h
  spared : x.drainer ≠ none → Disabled e h' → Disabled e h
  tidy : Tidy e h x → Tidy e h' y

variable {e : EngineId} {h h' : List Entry} {x y : Engine} {entry : Entry}

/-- The entry at the end of the closing counts for nothing. -/
lemma Closes.concat (hxy : Closes e h x h' y) (hentry : entry = .closed e ∨ entry = .crashed e) :
    Closes e h x (h' ++ [entry]) y := by
  have hdisabled : Disabled e (h' ++ [entry]) → Disabled e h' := by
    rintro ⟨n, error, hmem⟩
    rcases List.mem_append.mp hmem with hmem | hmem
    · exact ⟨n, error, hmem⟩
    · rcases hentry with rfl | rfl <;> simp at hmem
  have hidle : Idle e (h' ++ [entry]) ↔ Idle e h' := by
    rcases hentry with rfl | rfl <;> simp [Idle, batches, outcomes]
  exact { hxy with
    idle := hidle.trans hxy.idle
    spared := fun hx hd => hxy.spared hx (hdisabled hd)
    tidy := fun htidy hd => hxy.tidy htidy (hdisabled hd) }

end Engine

namespace System

/-- An engine fares as `R` says, and all others are in balance. -/
structure Fares (e : EngineId) (s : System) (R : List Entry → Engine → Prop) (t : System) :
    Prop where
  but : BalancedBut e s t
  engine : ∃ y, t.engines[e]? = some y ∧ R t.history y

variable {s t u : System} {e : EngineId} {x y : Engine} {r : RouterId} {id : SlotId}

section Fares

variable {R R' : List Entry → Engine → Prop}

/-- If only one engine was at work and its own books are balanced, all of them are. -/
lemma Fares.balanced (h : Fares e s (Engine.Balanced e s.history x) t)
    (hx : s.engines[e]? = some x) : s.Balanced t := by
  obtain ⟨hbut, y, hy, hxy⟩ := h
  exact balanced_of_but hbut hx hy hxy

/-- What has become of an engine may be said in a weaker way. -/
lemma Fares.mono (h : Fares e s R t)
    (hR : ∀ y, t.engines[e]? = some y → R t.history y → R' t.history y) : Fares e s R' t := by
  obtain ⟨hbut, y, hy, hrest⟩ := h
  exact ⟨hbut, y, hy, hR y hy hrest⟩

/-- If all other engines were in balance first, what becomes of an engine then has become of it since the
beginning. -/
lemma Fares.after (hbut : BalancedBut e s t) (hst : s.Evolves t) (htu : t.Evolves u)
    (h : Fares e t R u) : Fares e s R u :=
  ⟨hbut.trans hst.lasts htu.lasts h.but, h.engine⟩

end Fares

/-! ## Leaving the router -/

/-- Detaching a slot from a router takes it out of the group of its default handlers and out of its
list of engines. -/
lemma on_detach {z : Router} (id : SlotId) (hz : s.routers[r]? = some z)
    (hlt : z.defaults < s.groups.length) :
    (detach r id).on s = (.ok (), { s with toAssembly := s.toAssembly.detached r id }) := by
  have hmembers : s.groups[z.defaults]? = some s.groups[z.defaults] := List.getElem?_eq_getElem hlt
  have hcongr : s.onGroup z.defaults (fun _ => s.groups[z.defaults].filter fun i => i != id) =
      s.onGroup z.defaults fun members => members.filter fun i => i != id :=
    onGroup_congr hmembers rfl
  simp only [detach, on_bind, on_router, hz, on_removeMember id hmembers, hcongr, updateRouter,
    on_modify]
  simp [Assembly.detached, hz, onGroup]

/-- An active engine leaves its router. -/
lemma on_deactivate (why : Ending) (hx : s.engines[e]? = some x) (hstate : x.state = .active)
    (hstarting : x.starting = false)
    (hplace : ∀ r, x.router = some r → ∃ z, s.routers[r]? = some z ∧ z.defaults < s.groups.length) :
    (deactivate e why).on s = (.ok true, s.left e x why) := by
  set u := (s.onEngine e Engine.deactivate).noted (.deactivated e why)
  have hleft : s.left e x why = { u with toAssembly := u.toAssembly.released x } := rfl
  have halive : ∀ r, u.isAlive r = s.isAlive r := fun _ => rfl
  rw [deactivate, on_bind_of_ok (on_engine_of_some hx), hleft, Assembly.released]
  simp only [hstarting, hstate, Bool.false_eq_true, if_false, bne_self_eq_false, on_bind, on_get,
    on_updateEngine, on_note]
  cases hr : x.router with
  | none => rfl
  | some r =>
    cases hid : x.slot with
    | none => rfl
    | some id =>
      obtain ⟨z, hz, hlt⟩ := hplace r hr
      have hdetach : (detach r id).on u = _ := on_detach id hz hlt
      simp only [halive]
      split
      · rw [on_bind_of_ok hdetach]
        rfl
      · rfl

/-- Only an active engine has to leave its router. -/
lemma on_deactivate_of_ne (why : Ending) (hx : s.engines[e]? = some x) (hstate : x.state ≠ .active)
    (hstarting : x.starting = false) : (deactivate e why).on s = (.ok false, s) := by
  rw [deactivate, on_bind_of_ok (on_engine_of_some hx)]
  simp [hstarting, hstate]

/-- An engine cannot be deactivated from inside its own init hook: the call would wait for
itself. -/
lemma on_deactivate_of_starting (why : Ending) (hx : s.engines[e]? = some x)
    (hstarting : x.starting = true) : (deactivate e why).on s = (.error .stuck, s) := by
  rw [deactivate, on_bind_of_ok (on_engine_of_some hx)]
  simp only [hstarting, if_true]
  exact on_bind_of_error (on_throw _) _

/-! ## The shutdown hook -/

/-- Closing is the call of the shutdown hook, and one more entry that tells how it ended, if it did. -/
lemma on_close (calls : Reentry) : (close calls e).on s =
    match (runShutdown calls e).on (s.closing e) with
    | (.ok (), t) => (.ok (), t.noted (.closed e))
    | (.error (.panicked payload), t) => (.error (.panicked payload), t.noted (.crashed e))
    | (.error stop, t) => (.error stop, t) := by
  have hnote : (note (.hook e .shutdown)).on (s.onEngine e Engine.close) = (.ok (), s.closing e) :=
    on_note _
  rw [close, on_bind_of_ok (on_updateEngine _ _), on_bind_of_ok hnote, on_bind, on_contain]
  rcases (runShutdown calls e).on (s.closing e) with ⟨(payload | _ | _ | _) | _, t⟩ <;> rfl

section Close

variable {calls : Reentry} (hcalls : calls.Regular)

include hcalls

/-- The three ways in which closing can go on when the shutdown hook was called: the hook returns, it
panics, or it does not come to its end. -/
lemma close_cases (hsound : (s.closing e).Sound) : ∃ t, (s.closing e).Evolves t ∧
    ((s.closing e).Balanced t ∧ (close calls e).on s = (.ok (), t.noted (.closed e)) ∨
      (s.closing e).Balanced t ∧ (∃ payload,
        (close calls e).on s = (.error (.panicked payload), t.noted (.crashed e))) ∨
      ∃ stop, (close calls e).on s = (.error stop, t) ∧
        isOver (.error stop : Except Stop Unit) = false) := by
  obtain ⟨hevolves, hbalanced⟩ := regular_runShutdown hcalls e (s.closing e) hsound
  refine ⟨_, hevolves, ?_⟩
  rw [on_close]
  rcases hon : (runShutdown calls e).on (s.closing e) with ⟨(payload | _ | _ | _) | _, t⟩ <;>
    rw [hon] at hbalanced
  · exact .inr (.inl ⟨hbalanced rfl, payload, rfl⟩)
  · exact .inr (.inr ⟨_, rfl, rfl⟩)
  · exact .inr (.inr ⟨_, rfl, rfl⟩)
  · exact .inr (.inr ⟨_, rfl, rfl⟩)
  · exact .inl ⟨hbalanced rfl, rfl⟩

omit hcalls in
/-- What the shutdown hook leaves of the engine. -/
lemma closing_balanced (hsound : (s.closing e).Sound) (hx : s.engines[e]? = some x)
    (hstate : x.state = .shutDown) (hnot : Entry.closed e ∉ s.history)
    (hbalanced : (s.closing e).Balanced t) : ∃ y, t.engines[e]? = some y ∧
      Entry.closed e ∉ t.history ∧ Engine.Closes e s.history x t.history y := by
  have hclosing : (s.closing e).engines[e]? = some x.close := engines_onEngine_self hx
  have hhistory : (s.closing e).history = s.history ++ [.hook e .shutdown] := history_noted _
  obtain ⟨y, hy, hxy⟩ := (hbalanced.each e).old x.close hclosing
  obtain ⟨hclosed, hmem, -⟩ := hxy.ended hstate
  have hdisabled : Disabled e (s.closing e).history → Disabled e s.history := by
    rintro ⟨n, error, h⟩
    rw [hhistory] at h
    exact ⟨n, error, by simpa using h⟩
  refine ⟨y, hy, fun h => hnot ?_, hxy.drainer, hxy.starting, hclosed, hxy.idle.trans ?_,
    fun hd h => hdisabled (hxy.spared hd h), fun htidy => ?_⟩
  · have h' := hmem h
    rw [hhistory] at h'
    simpa using h'
  · simp [hhistory, Idle, batches, outcomes]
  · exact hxy.tidy (hsound.lives.vital hclosing) fun h => htidy (hdisabled h)

/-- **An engine that was told to stop** is closed, if only by a panic. -/
lemma leaves_close (hsound : s.Sound) (hx : s.engines[e]? = some x) (hstate : x.state = .shutDown)
    (hclosed : x.closed = false) (hasked : Entry.deactivated e .asked ∈ s.history) :
    (close calls e).Leaves s (Fares e s (Engine.Closes e s.history x))
      (fun t => s.Broke t ∧ Fares e s (Engine.Closes e s.history x) t) := by
  have hvital := hsound.lives.vital hx
  have hnot : Entry.closed e ∉ s.history := fun h => by simp [hvital.closed h] at hclosed
  have hstep : s.Evolves (s.closing e) :=
    .single (.event Engine.close hx rfl (.shutdown hstate hclosed) hasked)
  have hbegin : BalancedBut e s (s.closing e) := balancedBut_event hx rfl rfl rfl rfl
  obtain ⟨t, hevolves, h⟩ := close_cases hcalls (hstep.sound hsound)
  -- both at the end and at a panic there is one more entry
  have hlast : ∀ entry : Entry, entry = .closed e ∨ entry = .crashed e →
      (s.closing e).Balanced t →
        s.Evolves (t.noted entry) ∧ Fares e s (Engine.Closes e s.history x) (t.noted entry) := by
    intro entry hentry hbalanced
    obtain ⟨y, hy, hnot', hxy⟩ := closing_balanced (hstep.sound hsound) hx hstate hnot hbalanced
    have hst : s.Evolves t := hstep.trans hevolves
    have hevent : t.Evolves ((t.onEngine e id).noted entry) := by
      rcases hentry with rfl | rfl
      · exact .single (.event id hy rfl (.closed hxy.closed hnot') (hst.lasts.mem_history hasked))
      · exact .single (.event id hy rfl (.crashed hxy.closed) trivial)
    rw [onEngine_id] at hevent
    refine ⟨hst.trans hevent, ?_, y, hy, history_noted entry ▸ hxy.concat hentry⟩
    have habout : entry.engine? = some e := by rcases hentry with rfl | rfl <;> rfl
    have hmid := hbegin.trans hstep.lasts hevolves.lasts (hbalanced.but e)
    exact hmid.trans hst.lasts hevent.lasts (balancedBut_noted hy habout)
  rcases h with ⟨hbalanced, hon⟩ | ⟨hbalanced, payload, hon⟩ | ⟨stop, hon, hover⟩
  · rw [Leaves, hon]
    exact hlast (.closed e) (.inl rfl) hbalanced
  · rw [Leaves, hon]
    obtain ⟨hlater, hfares⟩ := hlast (.crashed e) (.inr rfl) hbalanced
    refine ⟨hlater, ?_, hfares⟩
    have hst : s.Evolves t := hstep.trans hevolves
    obtain ⟨new, hnew⟩ := hst.lasts.history
    exact ⟨new ++ [.crashed e], e, by simp [hnew], by simp⟩
  · rw [Leaves, hon]
    refine ⟨hstep.trans hevolves, ?_⟩
    cases stop with
    | panicked payload => simp [isOver] at hover
    | _ => trivial

end Close

end System

end NamespaceLogging
