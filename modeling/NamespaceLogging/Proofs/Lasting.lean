import NamespaceLogging.Proofs.WiringChanges

/-!
# What lasts

The history only grows, and objects never go.  An engine keeps its name and its threshold, its state
only advances, and once it is closed it stays closed and is handed no batch; a router keeps its
default handlers, and once it is shut down it stays so.

## Main definitions

* `Engine.Lasts`: the engine is the same, at a later time.

## Main results

* `System.Evolves.lasts`: what lasts, whatever changes.
-/

set_option autoImplicit false

namespace NamespaceLogging

open History

namespace Engine

/-- The engine is the same, at a later time. -/
structure Lasts (x y : Engine) : Prop where
  name : y.sink.name = x.sink.name
  threshold : y.threshold = x.threshold
  state : x.state.rank ≤ y.state.rank
  closed : x.closed = true → y.closed = true

variable {e : EngineId} {h : List Entry} {x y z : Engine} {entry : Entry}

/-- An engine is the same as itself. -/
lemma Lasts.refl (x : Engine) : x.Lasts x := ⟨rfl, rfl, Nat.le_refl _, fun h => h⟩

/-- An engine that has lasted for some time may do so for some more. -/
lemma Lasts.trans (hxy : x.Lasts y) (hyz : y.Lasts z) : x.Lasts z :=
  ⟨hyz.name.trans hxy.name, hyz.threshold.trans hxy.threshold, Nat.le_trans hxy.state hyz.state,
    hyz.closed ∘ hxy.closed⟩

/-- An engine lasts through a step that leaves no entry. -/
lemma Shift.lasts (hshift : x.Shift e h y) : x.Lasts y := by
  cases hshift with
  | tune sink calls name => exact ⟨name, rfl, Nat.le_refl _, fun h => h⟩
  | _ => exact ⟨rfl, rfl, Nat.le_refl _, fun h => h⟩

/-- An engine lasts through a step with an entry. -/
lemma Event.lasts (hevent : x.Event e h y entry) : x.Lasts y := by
  cases hevent with
  | activated r id state starting init =>
    refine ⟨rfl, rfl, ?_, fun h => h⟩
    rw [state]
    exact Nat.zero_le _
  | deactivated why state =>
    refine ⟨rfl, rfl, ?_, fun h => h⟩
    rw [state]
    exact Nat.le_succ 1
  | shutdown state closed => exact ⟨rfl, rfl, Nat.le_refl _, fun _ => rfl⟩
  | _ => exact ⟨rfl, rfl, Nat.le_refl _, fun h => h⟩

/-- An engine lasts through every turn of its life. -/
lemma Turn.lasts {ms new : List Moment} {o : Option Engine} (hturn : Turn e ms (some x) new o) :
    ∃ y, o = some y ∧ x.Lasts y := by
  cases hturn with
  | elsewhere about seen => exact ⟨x, rfl, .refl x⟩
  | shift shift => exact ⟨_, rfl, shift.lasts⟩
  | event event alone seen => exact ⟨_, rfl, event.lasts⟩
  | attached r id state starting init entry seen =>
    refine ⟨_, rfl, rfl, rfl, ?_, fun h => h⟩
    rw [state]
    exact Nat.zero_le _
  | left state entry seen =>
    refine ⟨_, rfl, rfl, rfl, ?_, fun h => h⟩
    rw [state]
    exact Nat.le_succ 1
  | tripped error state busy limit trip =>
    refine ⟨_, rfl, rfl, rfl, ?_, fun _ => rfl⟩
    rw [state]
    exact Nat.le_succ 1
  | finished error closed once moments tripped farewell =>
    exact ⟨_, rfl, rfl, rfl, Nat.le_refl _, fun h => h⟩

/-- An engine that was seen at a moment is still the same. -/
lemma Life.lasts {ms : List Moment} {o : Option Engine} (hlife : Life e ms o) :
    ∀ m ∈ ms, ∀ x, m.assembly.engines[e]? = some x → ∃ y, o = some y ∧ x.Lasts y := by
  induction hlife with
  | nobody => simp
  | elsewhere life about seen ih =>
    intro m hm x hx
    rw [List.mem_append, List.mem_singleton] at hm
    rcases hm with hm | rfl
    · exact ih m hm x hx
    · exact ⟨x, seen.symm.trans hx, .refl x⟩
  | made life sink threshold ih =>
    intro m hm x hx
    obtain ⟨y, hy, -⟩ := ih m hm x hx
    simp at hy
  | shift life shift ih =>
    intro m hm x hx
    obtain ⟨y, hy, hxy⟩ := ih m hm x hx
    cases hy
    exact ⟨_, rfl, hxy.trans shift.lasts⟩
  | event life event seen ih =>
    intro m hm x hx
    rw [List.mem_append, List.mem_singleton] at hm
    rcases hm with hm | rfl
    · obtain ⟨y, hy, hxy⟩ := ih m hm x hx
      cases hy
      exact ⟨_, rfl, hxy.trans event.lasts⟩
    · exact ⟨_, seen.symm.trans hx, .refl _⟩

/-- A closed engine is handed no batch. -/
lemma Turn.batches_eq_nil {ms new : List Moment} {o : Option Engine} (hclosed : x.closed = true)
    (hturn : Turn e ms (some x) new o) : batches e (new.map Moment.entry) = [] := by
  cases hturn with
  | elsewhere about seen =>
    refine (silent_of_forall fun entry hmem => ?_).batches
    obtain ⟨m, hm, rfl⟩ := List.mem_map.mp hmem
    exact about m hm
  | shift shift => rfl
  | @event x y m event alone seen =>
    generalize hentry : m.entry = entry at event
    simp only [List.map_cons, List.map_nil, hentry]
    cases event with
    | batch closed queue drainer idle => simp [closed] at hclosed
    | _ => rfl
  | attached r id state starting init entry seen => simp [entry, batches]
  | left state entry seen => simp [entry, batches]
  | tripped error state busy limit trip =>
    rw [trip.entries]
    rfl
  | finished error closed once moments tripped farewell =>
    obtain ⟨logged, hlogged, hentries⟩ := farewell.entries
    have hsilent : Silent e logged := silent_of_forall fun entry h => by simp [hlogged entry h]
    rw [hentries, batches_append, hsilent.batches]
    rfl

end Engine

namespace System

variable {s t u : System}

/-- What lasts from one state to a later one. -/
structure Lasts (s t : System) : Prop where
  moments : ∃ new, t.moments = s.moments ++ new ∧ ∀ m ∈ new, s.RoutersLast m.assembly
  routers : s.RoutersLast t.toAssembly
  engines : ∀ (e : EngineId) x, s.engines[e]? = some x → ∃ y, t.engines[e]? = some y ∧ x.Lasts y
  /-- A closed engine is handed no batch. -/
  batches : ∀ (e : EngineId) x, s.engines[e]? = some x → x.closed = true →
    History.batches e t.history = History.batches e s.history

/-- All that is there lasts where nothing happens. -/
lemma Lasts.refl (s : System) : s.Lasts s :=
  ⟨⟨[], by simp, by simp⟩, .of_eq rfl, fun _ x hx => ⟨x, hx, .refl x⟩, fun _ _ _ _ => rfl⟩

/-- What lasts for some time and then for some more lasts all the time. -/
lemma Lasts.trans (hst : s.Lasts t) (htu : t.Lasts u) : s.Lasts u := by
  obtain ⟨new, hmoments, hnew⟩ := hst.moments
  obtain ⟨new', hmoments', hnew'⟩ := htu.moments
  refine ⟨⟨new ++ new', by simp [hmoments, hmoments'], fun m hm => ?_⟩,
    hst.routers.trans htu.routers, fun e x hx => ?_, fun e x hx hclosed => ?_⟩
  · rcases List.mem_append.mp hm with hm | hm
    · exact hnew m hm
    · exact hst.routers.trans (hnew' m hm)
  · obtain ⟨y, hy, hxy⟩ := hst.engines e x hx
    obtain ⟨z, hz, hyz⟩ := htu.engines e y hy
    exact ⟨z, hz, hxy.trans hyz⟩
  · obtain ⟨y, hy, hxy⟩ := hst.engines e x hx
    exact (htu.batches e y hy (hxy.closed hclosed)).trans (hst.batches e x hx hclosed)

/-- The history of an earlier state is the beginning of the history of a later one. -/
lemma Lasts.history (h : s.Lasts t) : ∃ new, t.history = s.history ++ new := by
  obtain ⟨new, hmoments, -⟩ := h.moments
  exact ⟨new.map Moment.entry, by simp [System.history, hmoments]⟩

/-- What was written down stays written down. -/
lemma Lasts.mem_history {entry : Entry} (h : s.Lasts t) (hmem : entry ∈ s.history) :
    entry ∈ t.history := by
  obtain ⟨new, hnew⟩ := h.history
  rw [hnew]
  exact List.mem_append_left _ hmem

/-- An engine stays shut down once it is. -/
lemma Lasts.shutDown {e : EngineId} {x : Engine} (h : s.Lasts t) (hx : s.engines[e]? = some x)
    (hstate : x.state = .shutDown) : ∃ y, t.engines[e]? = some y ∧ y.state = .shutDown := by
  obtain ⟨y, hy, hxy⟩ := h.engines e x hx
  refine ⟨y, hy, EngineState.two_le_rank.mp ?_⟩
  have hrank := hxy.state
  rwa [hstate] at hrank

/-- Routers last while nothing happens that matters to engines. -/
lemma Quiet.routersLast (h : Quiet s t) : s.RoutersLast t.toAssembly := by
  intro r y hy
  obtain ⟨z, hz, hkeeps⟩ := h.neutral.router_forth hy
  exact ⟨z, hz, hkeeps.defaults, fun hdown => hkeeps.shutDown.trans hdown⟩

/-- Routers last, and are seen to last at the moments of a change. -/
lemma Change.routersLast (hchange : Change s t) :
    s.RoutersLast t.toAssembly ∧
      ∃ new, t.moments = s.moments ++ new ∧ ∀ m ∈ new, s.RoutersLast m.assembly := by
  have hnoted : ∀ {u : System} {entry : Entry}, u.moments = s.moments → s.RoutersLast u.toAssembly →
      s.RoutersLast (u.noted entry).toAssembly ∧
        ∃ new, (u.noted entry).moments = s.moments ++ new ∧
          ∀ m ∈ new, s.RoutersLast m.assembly := by
    intro u entry hmoments hlast
    exact ⟨hlast, _, by rw [moments_noted, hmoments], by simpa using hlast⟩
  cases hchange with
  | quiet quiet => exact ⟨quiet.routersLast, [], by simp [moments, quiet.journal], by simp⟩
  | noted entry about => exact hnoted rfl (.of_eq rfl)
  | made sink threshold => exact ⟨.of_eq rfl, [], by simp [moments], by simp⟩
  | founded filter =>
    refine ⟨fun r y hy => ⟨y, ?_, rfl, fun h => h⟩, [], by simp [moments, System.founded], by simp⟩
    exact (getElem?_of_extends (List.prefix_append _ _) (List.getElem?_eq_some_iff.mp hy).1).trans hy
  | shift f engine eq shift => exact ⟨.of_eq rfl, [], by simp, by simp⟩
  | event f engine eq event alone => exact hnoted rfl (.of_eq rfl)
  | enlisted g slot => exact ⟨.of_eq rfl, [], by simp [moments, System.enlisted], by simp⟩
  | withdrawn g keep gone all => exact hnoted rfl (.of_eq rfl)
  | shut router up =>
    exact ⟨.modify rfl fun _ => ⟨rfl, fun _ => rfl⟩, [], by simp [moments, onRouter], by simp⟩
  | cleared members router ended => exact hnoted rfl (.of_eq rfl)
  | attached lock engine state starting init router =>
    exact hnoted rfl (.modify rfl fun _ => ⟨rfl, fun h => h⟩)
  | left engine state =>
    refine ⟨Assembly.routersLast_released (a := (s.onEngine _ _).toAssembly), _, moments_left _, ?_⟩
    simpa using .of_eq rfl
  | @tripped u e x error engine state busy limit quiet =>
    have hmid : s.RoutersLast u.toAssembly := quiet.routersLast
    have hleft : s.RoutersLast (u.left e x.countFailure .failing).toAssembly :=
      hmid.trans (Assembly.routersLast_released (a := (u.onEngine e Engine.deactivate).toAssembly))
    refine ⟨hleft, _, moments_tripped quiet, fun m hm => ?_⟩
    simp only [List.mem_cons, List.not_mem_nil, or_false] at hm
    rcases hm with rfl | rfl | rfl
    · exact .of_eq rfl
    · exact hmid
    · exact hleft
  | @finished e x before trip after error through engine closed once moments tripped router
      unheard =>
    refine ⟨.of_eq ?_, _, moments_finished error through, fun m hm => ?_⟩
    · cases through <;> rfl
    · simp only [List.mem_append, List.mem_cons, List.not_mem_nil, or_false, List.mem_map] at hm
      rcases hm with (rfl | rfl | rfl) | ⟨r, -, rfl⟩ <;> exact .of_eq rfl

/-- **Every change lets last** what was there: engines, routers and what was written down. -/
lemma Change.lasts (hchange : Change s t) : s.Lasts t := by
  obtain ⟨hrouters, hmoments⟩ := hchange.routersLast
  refine ⟨hmoments, hrouters, fun e x hx => ?_, fun e x hx hclosed => ?_⟩
  · obtain ⟨new, -, hturn⟩ := hchange.turn e
    rw [hx] at hturn
    exact hturn.lasts
  · obtain ⟨new, hnew, hturn⟩ := hchange.turn e
    rw [hx] at hturn
    simp [System.history, hnew, hturn.batches_eq_nil hclosed]

/-- **What lasts, whatever changes.** -/
theorem Evolves.lasts (h : s.Evolves t) : s.Lasts t := by
  induction h with
  | refl => exact .refl s
  | tail _ hchange ih => exact ih.trans hchange.lasts

end System

end NamespaceLogging
