import NamespaceLogging.Proofs.Lasting

/-!
# Balance

While an act is done, engines may do all that the changes of a system allow.  When it is over, though,
what was begun has been brought to its end: whoever began to drain has stopped, every batch that was
handed over is over, and an engine that was shut down meanwhile has been closed.  This module says so
of two states, one before and one after an act.

## Main definitions

* `Engine.Steady`, `Engine.Tidy`, `Engine.Balanced`: an engine before an act and after it.
* `Engine.AtRest`: nothing is under way with an engine.
* `System.Broke`: a shutdown hook has panicked meanwhile.
* `System.Listed`, `System.ListKept`: routers go on listing the active engines that they listed.
* `System.Balanced`: all this, for two states of a system.

## Main results

* `Engine.AtRest.balanced`: balance leaves an engine at rest.
* `System.Balanced.trans`: one act after the other.
-/

set_option autoImplicit false

namespace NamespaceLogging

open History

namespace History

/-- The engine was disabled. -/
def Disabled (e : EngineId) (h : List Entry) : Prop := ∃ n error, Entry.disabled e n error ∈ h

end History

namespace Engine

/-- An engine, `x` before an act and `y` after it. -/
structure Steady (e : EngineId) (h : List Entry) (x : Engine) (h' : List Entry) (y : Engine) :
    Prop where
  starting : y.starting = x.starting
  state : x.state.rank ≤ y.state.rank
  /-- Nobody else closes an engine that was shut down before the act. -/
  ended : x.state = .shutDown → y.closed = x.closed ∧
    (Entry.closed e ∈ h' → Entry.closed e ∈ h) ∧ (y.queue = x.queue ∨ y.queue = [])
  /-- Nothing joins the queue of an engine that was shut down before the act. -/
  unfed : x.state = .shutDown → pushed e h' = pushed e h
  /-- Whoever shuts an engine down also closes it. -/
  ending : x.state ≠ .shutDown → y.state = .shutDown → y.closed = true

/-- The queue of an engine that was disabled is empty. -/
def Tidy (e : EngineId) (h : List Entry) (x : Engine) : Prop := Disabled e h → x.queue = []

/-- An engine before and after an act of which it is not the subject: what was under way with it is
neither more nor less. -/
structure Balanced (e : EngineId) (h : List Entry) (x : Engine) (h' : List Entry) (y : Engine) :
    Prop extends Steady e h x h' y where
  drainer : y.drainer = x.drainer
  idle : Idle e h' ↔ Idle e h
  /-- Only the thread that drains an engine disables it. -/
  spared : x.drainer ≠ none → Disabled e h' → Disabled e h
  /-- Unless somebody is at work on it, the engine stays tidy. -/
  settled : x.drainer = none → Tidy e h x → Tidy e h' y

/-- Nothing is under way with an engine. -/
structure AtRest (e : EngineId) (h : List Entry) (x : Engine) : Prop where
  drainer : x.drainer = none
  idle : Idle e h
  starting : x.starting = false
  closed : x.state = .shutDown → x.closed = true
  tidy : Tidy e h x

variable {e : EngineId} {h h' h'' : List Entry} {x y z : Engine}

namespace Steady

/-- A change of what is under way, or of the queue when it is emptied. -/
lemma of_same (hstarting : y.starting = x.starting) (hstate : y.state = x.state)
    (hclosed : y.closed = x.closed) (hqueue : y.queue = x.queue ∨ y.queue = [])
    (hmem : Entry.closed e ∈ h' → Entry.closed e ∈ h) (hpushed : pushed e h' = pushed e h) :
    Steady e h x h' y :=
  ⟨hstarting, Nat.le_of_eq (by rw [hstate]), fun _ => ⟨hclosed, hmem, hqueue⟩, fun _ => hpushed,
    fun hne heq => absurd (hstate ▸ heq) hne⟩

/-- An engine that was not shut down before the act, and is closed after it if it is shut down. -/
lemma of_ending (hstarting : y.starting = x.starting) (hrank : x.state.rank ≤ y.state.rank)
    (hstate : x.state ≠ .shutDown) (hclosed : y.state = .shutDown → y.closed = true) :
    Steady e h x h' y :=
  ⟨hstarting, hrank, fun heq => absurd heq hstate, fun heq => absurd heq hstate, fun _ => hclosed⟩

/-- An engine that nothing happens to is steady. -/
lemma refl (e : EngineId) (h : List Entry) (x : Engine) : Steady e h x h x :=
  .of_same rfl rfl rfl (.inl rfl) (fun hmem => hmem) rfl

/-- An engine that has ended does not come back to life while it is steady. -/
lemma shutDown (hxy : Steady e h x h' y) (hx : x.state = .shutDown) : y.state = .shutDown := by
  rw [← EngineState.two_le_rank] at hx ⊢
  exact Nat.le_trans hx hxy.state

/-- An engine that is steady during one act and during the next one is so during both. -/
lemma trans (hxy : Steady e h x h' y) (hyz : Steady e h' y h'' z) : Steady e h x h'' z := by
  refine ⟨hyz.starting.trans hxy.starting, Nat.le_trans hxy.state hyz.state, fun hx => ?_,
    fun hx => (hyz.unfed (hxy.shutDown hx)).trans (hxy.unfed hx), fun hx hz => ?_⟩
  · obtain ⟨hclosed, hmem, hqueue⟩ := hxy.ended hx
    obtain ⟨hclosed', hmem', hqueue'⟩ := hyz.ended (hxy.shutDown hx)
    refine ⟨hclosed'.trans hclosed, hmem ∘ hmem', ?_⟩
    rcases hqueue' with hsame | hnone
    · rwa [hsame]
    · exact .inr hnone
  · by_cases hy : y.state = .shutDown
    · rw [(hyz.ended hy).1]
      exact hxy.ending hx hy
    · exact hyz.ending hy hz

end Steady

namespace Balanced

/-- A change that takes nothing up and leaves nothing undone. -/
lemma of_same (hdrainer : y.drainer = x.drainer) (hidle : Idle e h' ↔ Idle e h)
    (hstarting : y.starting = x.starting) (hstate : y.state = x.state)
    (hclosed : y.closed = x.closed) (hqueue : y.queue = x.queue)
    (hmem : Entry.closed e ∈ h' → Entry.closed e ∈ h) (hdisabled : Disabled e h' → Disabled e h)
    (hpushed : pushed e h' = pushed e h) : Balanced e h x h' y where
  toSteady := .of_same hstarting hstate hclosed (.inl hqueue) hmem hpushed
  drainer := hdrainer
  idle := hidle
  spared _ := hdisabled
  settled _ htidy hd := hqueue.trans (htidy (hdisabled hd))

/-- Nothing is under way with an engine that was not under way before, where nothing happens. -/
lemma refl (e : EngineId) (h : List Entry) (x : Engine) : Balanced e h x h x :=
  .of_same rfl .rfl rfl rfl rfl rfl (fun hmem => hmem) (fun hd => hd) rfl

/-- An engine that is in balance after one act and after the next one is so after both. -/
lemma trans (hxy : Balanced e h x h' y) (hyz : Balanced e h' y h'' z) : Balanced e h x h'' z where
  toSteady := hxy.toSteady.trans hyz.toSteady
  drainer := hyz.drainer.trans hxy.drainer
  idle := hyz.idle.trans hxy.idle
  spared hx hd := hxy.spared hx (hyz.spared (hxy.drainer ▸ hx) hd)
  settled hx htidy := hyz.settled (hxy.drainer.trans hx) (hxy.settled hx htidy)

/-- An engine of which the history tells nothing new stays as it is. -/
lemma of_silent {new : List Entry} (hnew : ∀ entry ∈ new, entry.engine? ≠ some e) :
    Balanced e h x (h ++ new) x := by
  have hsilent := silent_of_forall hnew
  have hmem : ∀ {entry : Entry}, entry.engine? = some e → entry ∈ h ++ new → entry ∈ h := by
    intro entry hentry hin
    exact (List.mem_append.mp hin).resolve_right fun hin => hnew entry hin hentry
  refine .of_same rfl ?_ rfl rfl rfl rfl (hmem rfl) ?_ ?_
  · simp [Idle, hsilent.batches, hsilent.outcomes]
  · rintro ⟨n, error, hin⟩
    exact ⟨n, error, hmem rfl hin⟩
  · simp [hsilent.pushed]

/-- Whatever is done while somebody drains the engine, it stays tidy. -/
lemma tidy (hxy : Balanced e h x h' y) (hvital : Vital e h x) (htidy : Tidy e h x) :
    Tidy e h' y := by
  by_cases hdrainer : x.drainer = none
  · exact hxy.settled hdrainer htidy
  · intro hd
    have hbefore := hxy.spared hdrainer hd
    obtain ⟨n, error, hmem⟩ := hbefore
    have hstate := hvital.closed_state (hvital.closed (hvital.disabled n error hmem))
    rcases (hxy.ended hstate).2.2 with hsame | hnone
    · rw [hsame]
      exact htidy ⟨n, error, hmem⟩
    · exact hnone

end Balanced

/-- **Balance leaves an engine at rest.** -/
lemma AtRest.balanced (hrest : AtRest e h x) (hxy : Balanced e h x h' y) : AtRest e h' y where
  drainer := hxy.drainer.trans hrest.drainer
  idle := hxy.idle.mpr hrest.idle
  starting := hxy.starting.trans hrest.starting
  closed hy := by
    by_cases hx : x.state = .shutDown
    · exact (hxy.ended hx).1.trans (hrest.closed hx)
    · exact hxy.ending hx hy
  tidy := hxy.settled hrest.drainer hrest.tidy

/-- A new engine is at rest. -/
lemma atRest_make (sink : Sink) (threshold : UInt32) (hnew : ∀ entry ∈ h, entry.engine? ≠ some e) :
    AtRest e h (make sink threshold) := by
  have hsilent := silent_of_forall hnew
  refine ⟨rfl, ?_, rfl, by simp [make], fun _ => rfl⟩
  simp [Idle, hsilent.batches, hsilent.outcomes]

end Engine

namespace System

/-- An engine before an act and after it; if it was made meanwhile, it is at rest. -/
structure BalancedAt (s t : System) (e : EngineId) : Prop where
  old : ∀ x, s.engines[e]? = some x →
    ∃ y, t.engines[e]? = some y ∧ Engine.Balanced e s.history x t.history y
  new : s.engines[e]? = none → ∀ y, t.engines[e]? = some y → Engine.AtRest e t.history y

/-- Between the two states, a shutdown hook has panicked. -/
def Broke (s t : System) : Prop :=
  ∃ new e, t.history = s.history ++ new ∧ Entry.crashed e ∈ new

/-- If the engine is active, then its router lists it. -/
def Listed (s : System) (e : EngineId) : Prop :=
  ∀ x, s.engines[e]? = some x → x.state = .active →
    ∃ r id, x.router = some r ∧ x.slot = some id ∧ s.Lists r id e

/-- The active engines that were listed are listed still, unless a shutdown hook has panicked. -/
def ListKept (s t : System) : Prop := s.Broke t ∨ ∀ e, s.Listed e → t.Listed e

/-- A system before an act and after it. -/
structure Balanced (s t : System) : Prop where
  each : ∀ e, s.BalancedAt t e
  lists : s.ListKept t

/-- A system before an act and after it, but for the engine that the act is about. -/
structure BalancedBut (e : EngineId) (s t : System) : Prop where
  others : ∀ i, i ≠ e → s.BalancedAt t i
  lists : s.ListKept t

variable {s t u : System} {e i : EngineId}

/-- A system that is in balance is so but for any one engine. -/
lemma Balanced.but (h : s.Balanced t) (e : EngineId) : BalancedBut e s t :=
  ⟨fun i _ => h.each i, h.lists⟩

/-! ## One act after the other -/

/-- One engine is in balance after both acts if it is so after each of them. -/
lemma BalancedAt.trans (hst : s.BalancedAt t e) (htu : t.BalancedAt u e) : s.BalancedAt u e where
  old x hx := by
    obtain ⟨y, hy, hxy⟩ := hst.old x hx
    obtain ⟨z, hz, hyz⟩ := htu.old y hy
    exact ⟨z, hz, hxy.trans hyz⟩
  new hx z hz := by
    cases hy : t.engines[e]? with
    | none => exact htu.new hy z hz
    | some y =>
      obtain ⟨z', hz', hyz⟩ := htu.old y hy
      obtain rfl : z' = z := Option.some.inj (hz'.symm.trans hz)
      exact (hst.new hx y hy).balanced hyz

/-- A panic of a shutdown hook counts from any earlier state on. -/
lemma Broke.before (hst : s.Lasts t) (htu : t.Broke u) : s.Broke u := by
  obtain ⟨old, hold⟩ := hst.history
  obtain ⟨new, i, hnew, hmem⟩ := htu
  exact ⟨old ++ new, i, by rw [hnew, hold, List.append_assoc], List.mem_append_right _ hmem⟩

/-- A panic of a shutdown hook counts up to any later state. -/
lemma Broke.after (hst : s.Broke t) (htu : t.Lasts u) : s.Broke u := by
  obtain ⟨new, hnew⟩ := htu.history
  obtain ⟨old, i, hold, hmem⟩ := hst
  exact ⟨old ++ new, i, by rw [hnew, hold, List.append_assoc], List.mem_append_left _ hmem⟩

/-- Engines that stay listed during one act and during the next one stay so during both, unless a
shutdown hook has panicked. -/
lemma ListKept.trans (hlast : s.Lasts t) (hlast' : t.Lasts u) (hst : s.ListKept t)
    (htu : t.ListKept u) : s.ListKept u := by
  rcases hst with hbroke | hst
  · exact .inl (hbroke.after hlast')
  · rcases htu with hbroke | htu
    · exact .inl (hbroke.before hlast)
    · exact .inr fun i hi => htu i (hst i hi)

/-- **One act after the other.** -/
theorem Balanced.trans (hlast : s.Lasts t) (hlast' : t.Lasts u) (hst : s.Balanced t)
    (htu : t.Balanced u) : s.Balanced u :=
  ⟨fun e => (hst.each e).trans (htu.each e), hst.lists.trans hlast hlast' htu.lists⟩

/-- All engines but one are in balance after both acts if they are so after each of them. -/
lemma BalancedBut.trans (hlast : s.Lasts t) (hlast' : t.Lasts u) (hst : BalancedBut e s t)
    (htu : BalancedBut e t u) : BalancedBut e s u :=
  ⟨fun i hi => (hst.others i hi).trans (htu.others i hi), hst.lists.trans hlast hlast' htu.lists⟩

/-! ## Small changes -/

/-- An engine to which nothing happens is balanced. -/
lemma balancedAt_of_elsewhere (new : List Entry) (hengine : t.engines[i]? = s.engines[i]?)
    (hhistory : t.history = s.history ++ new) (hnew : ∀ entry ∈ new, entry.engine? ≠ some i) :
    s.BalancedAt t i where
  old x hx := ⟨x, hengine.trans hx, hhistory ▸ .of_silent hnew⟩
  new hx y hy := by
    rw [hengine, hx] at hy
    simp at hy

/-- Engines that were listed are listed still, if no list loses an engine. -/
lemma listed_of_lists
    (hengines : ∀ y, t.engines[e]? = some y → y.state = .active →
      ∃ x, s.engines[e]? = some x ∧ x.state = .active ∧ x.router = y.router ∧ x.slot = y.slot)
    (hlists : ∀ r id, s.Lists r id e → t.Lists r id e) (hlisted : s.Listed e) : t.Listed e := by
  intro y hy hstate
  obtain ⟨x, hx, hactive, hrouter, hslot⟩ := hengines y hy hstate
  obtain ⟨r, id, hr, hid, h⟩ := hlisted x hx hactive
  exact ⟨r, id, hrouter ▸ hr, hslot ▸ hid, hlists r id h⟩

/-- A change that no engine notices leaves everything in balance. -/
lemma balanced_of_same (new : List Entry) (hengines : t.engines = s.engines)
    (hhistory : t.history = s.history ++ new) (hnew : ∀ entry ∈ new, entry.engine? = none)
    (hlists : ∀ r id e, s.Lists r id e → t.Lists r id e) : s.Balanced t := by
  refine ⟨fun i => balancedAt_of_elsewhere new (by rw [hengines]) hhistory fun entry h => ?_,
    .inr fun i => listed_of_lists (fun y hy hstate => ?_) fun r id => hlists r id i⟩
  · simp [hnew entry h]
  · exact ⟨y, hengines ▸ hy, hstate, rfl, rfl⟩

/-- A system in which nothing happens is in balance. -/
lemma Balanced.refl (s : System) : s.Balanced s :=
  balanced_of_same [] rfl (by simp) (by simp) fun _ _ _ h => h

/-- Nothing gets out of balance while nothing happens that matters to engines. -/
lemma Quiet.balanced (h : Quiet s t) : s.Balanced t :=
  balanced_of_same [] h.engines (by simp [history, moments, h.journal]) (by simp)
    fun _ _ _ hl => h.neutral.lists.mpr hl

/-- An entry that is about no engine keeps the balance. -/
lemma balanced_noted {entry : Entry} (habout : entry.engine? = none) : s.Balanced (s.noted entry) :=
  balanced_of_same _ rfl (history_noted entry) (by simpa using habout) fun _ _ _ h => h

/-- A new slot in a group keeps the balance. -/
lemma balanced_enlisted (g : GroupId) (slot : Slot) : s.Balanced (s.enlisted g slot) :=
  balanced_of_same [] rfl (by simp [history, moments, System.enlisted]) (by simp)
    fun _ _ _ h => h

/-- A group that changes with an entry about no engine keeps the balance. -/
lemma balanced_onGroup_noted (entry : Entry) (habout : entry.engine? = none) (g : GroupId)
    (f : List SlotId → List SlotId) : s.Balanced ((s.onGroup g f).noted entry) :=
  balanced_of_same _ rfl (history_noted entry) (by simpa using habout) fun _ _ _ h => h

/-- A new router keeps the balance, as no engine is attached to it yet. -/
lemma balanced_founded (filter : LevelSet) : s.Balanced (s.founded filter) := by
  refine balanced_of_same [] rfl (by simp [history, moments, System.founded]) (by simp) ?_
  rintro r id e ⟨y, hy, hmem⟩
  refine ⟨y, ?_, hmem⟩
  exact (getElem?_of_extends (List.prefix_append _ _) (List.getElem?_eq_some_iff.mp hy).1).trans hy

/-- A new engine is at rest, and so keeps the balance. -/
lemma balanced_made (hsound : s.Sound) (sink : Sink) (threshold : UInt32) :
    s.Balanced { s with engines := s.engines ++ [.make sink threshold] } := by
  set t : System := { s with engines := s.engines ++ [.make sink threshold] }
  have hhistory : t.history = s.history := rfl
  have hcases : ∀ {i : EngineId} {y : Engine}, t.engines[i]? = some y → s.engines[i]? = some y ∨
      s.engines[i]? = none ∧ y = Engine.make sink threshold := by
    intro i y hy
    change (s.engines ++ [Engine.make sink threshold])[i]? = some y at hy
    rw [List.getElem?_append] at hy
    split at hy
    · exact .inl hy
    · rename_i hge
      rw [List.getElem?_singleton] at hy
      split at hy
      · exact .inr ⟨List.getElem?_eq_none (Nat.not_lt.mp hge), (Option.some.inj hy).symm⟩
      · simp at hy
  refine ⟨fun i => ⟨fun x hx => ⟨x, ?_, .refl i s.history x⟩, fun hx y hy => ?_⟩,
    .inr fun i => listed_of_lists (fun y hy hstate => ?_) fun _ _ h => h⟩
  · exact (getElem?_of_extends (List.prefix_append _ _) (List.getElem?_eq_some_iff.mp hx).1).trans hx
  · obtain ⟨-, rfl⟩ := (hcases hy).resolve_left (by simp [hx])
    refine Engine.atRest_make sink threshold ?_
    have hlife := hsound.lives i
    rw [hx] at hlife
    exact hlife.unheard
  · rcases hcases hy with hy | ⟨-, rfl⟩
    · exact ⟨y, hy, hstate, rfl, rfl⟩
    · simp [Engine.make] at hstate

/-! ## Changes of one engine -/

section OneEngine

variable {x : Engine} {f : Engine → Engine}

/-- An engine that keeps its state, its router and its slot is listed by its router as before. -/
lemma listed_onEngine (hx : s.engines[e]? = some x) (hstate : (f x).state = x.state)
    (hrouter : (f x).router = x.router) (hslot : (f x).slot = x.slot) (hlisted : s.Listed i) :
    (s.onEngine e f).Listed i := by
  refine listed_of_lists (s := s) (fun y hy hactive => ?_) (fun r id h => h) hlisted
  rw [engines_onEngine] at hy
  split at hy
  · rename_i h
    subst h
    rw [hx, Option.map_some, Option.some.injEq] at hy
    subst hy
    exact ⟨x, hx, hstate ▸ hactive, hrouter.symm, hslot.symm⟩
  · exact ⟨y, hy, hactive, rfl, rfl⟩

/-- An engine that changes, but not in its state or its place, leaves all others in balance. -/
lemma balancedBut_of_one (new : List Entry) (hx : s.engines[e]? = some x)
    (hengines : t.engines = (s.onEngine e f).engines) (hrouters : t.routers = s.routers)
    (hhistory : t.history = s.history ++ new)
    (hnew : ∀ entry ∈ new, ∀ i, i ≠ e → entry.engine? ≠ some i) (hstate : (f x).state = x.state)
    (hrouter : (f x).router = x.router) (hslot : (f x).slot = x.slot) : BalancedBut e s t := by
  refine ⟨fun i hi => balancedAt_of_elsewhere new ?_ hhistory fun entry h => hnew entry h i hi,
    .inr fun i hlisted => ?_⟩
  · rw [hengines, engines_onEngine_of_ne hi.symm]
  · refine listed_of_lists (fun y hy hactive => ⟨y, hengines ▸ hy, hactive, rfl, rfl⟩) ?_
      (listed_onEngine hx hstate hrouter hslot hlisted)
    rintro r id ⟨y, hy, hmem⟩
    exact ⟨y, hrouters ▸ hy, hmem⟩

/-- Changing an engine, but not its state and its place, concerns no other engine. -/
lemma balancedBut_onEngine (hx : s.engines[e]? = some x) (hstate : (f x).state = x.state)
    (hrouter : (f x).router = x.router) (hslot : (f x).slot = x.slot) :
    BalancedBut e s (s.onEngine e f) :=
  balancedBut_of_one [] hx rfl rfl (by simp) (by simp) hstate hrouter hslot

/-- The same with an entry about that engine. -/
lemma balancedBut_event {entry : Entry} (hx : s.engines[e]? = some x)
    (habout : entry.engine? = some e) (hstate : (f x).state = x.state)
    (hrouter : (f x).router = x.router) (hslot : (f x).slot = x.slot) :
    BalancedBut e s ((s.onEngine e f).noted entry) :=
  balancedBut_of_one [entry] hx rfl rfl (history_noted entry)
    (by simpa [habout] using fun i hi => Ne.symm hi) hstate hrouter hslot

/-- An entry about one engine concerns no other one. -/
lemma balancedBut_noted {entry : Entry} (hx : s.engines[e]? = some x)
    (habout : entry.engine? = some e) : BalancedBut e s (s.noted entry) := by
  have h := balancedBut_event (f := id) hx habout rfl rfl rfl
  rwa [onEngine_id] at h

/-- An engine that is attached leaves all others in balance. -/
lemma balancedBut_attached {r : RouterId} {y : Router} (lock : LockId)
    (hx : s.engines[e]? = some x) (hrouter : s.routers[r]? = some y) :
    BalancedBut e s (s.attached e r y lock) := by
  set id := s.slots.length + 1
  set t := s.attached e r y lock
  have hengines : t.engines = (s.onEngine e (Engine.attach r id)).engines := rfl
  have hlists : ∀ r' id' e', s.Lists r' id' e' ∨ r' = r ∧ id' = id ∧ e' = e → t.Lists r' id' e' :=
    fun _ _ _ => (lists_attached lock hrouter).mpr
  refine ⟨fun i hi => balancedAt_of_elsewhere _ (engines_onEngine_of_ne hi.symm) (history_noted _)
    (by simpa [Entry.engine?] using hi.symm), .inr fun i hlisted z hz hactive => ?_⟩
  rw [hengines, engines_onEngine] at hz
  split at hz
  · rename_i h
    subst h
    rw [hx, Option.map_some, Option.some.injEq] at hz
    subst hz
    exact ⟨r, id, rfl, rfl, hlists r id e (.inr ⟨rfl, rfl, rfl⟩)⟩
  · obtain ⟨r', id', hr', hid', h⟩ := hlisted z hz hactive
    exact ⟨r', id', hr', hid', hlists r' id' i (.inl h)⟩

/-- Routers go on listing all engines when one of them leaves: the slots of others are different
ones. -/
lemma listed_left {r : RouterId} {id : SlotId} (hwired : s.Wired) (why : Ending)
    (hx : s.engines[e]? = some x) (hmem : Entry.activated e r id ∈ s.history)
    (hrouter : x.router = some r) (hslot : x.slot = some id) (hlisted : s.Listed i) :
    (s.left e x why).Listed i := by
  obtain ⟨y, hy⟩ := hwired.router e r id hmem
  obtain ⟨lock, hown⟩ := hwired.slot e r id hmem
  intro z hz hactive
  have hi : i ≠ e := by
    rintro rfl
    rw [engines_left, engines_onEngine_self hx, Option.some.injEq] at hz
    rw [← hz] at hactive
    simp [Engine.deactivate] at hactive
  rw [engines_left, engines_onEngine_of_ne hi.symm] at hz
  obtain ⟨r', id', hr', hid', h⟩ := hlisted z hz hactive
  refine ⟨r', id', hr', hid', ?_⟩
  have hne : id' ≠ id := by
    rintro rfl
    obtain ⟨lock', hslot'⟩ := hwired.slot i r' _ (hwired.lists r' _ i h)
    rw [hown] at hslot'
    simp [hi.symm] at hslot'
  exact (lists_left why hrouter hslot hy).mpr ⟨h, fun _ _ => hne⟩

/-- An engine that leaves its router leaves all others in balance. -/
lemma balancedBut_left {r : RouterId} {id : SlotId} (hwired : s.Wired) (why : Ending)
    (hx : s.engines[e]? = some x) (hmem : Entry.activated e r id ∈ s.history)
    (hrouter : x.router = some r) (hslot : x.slot = some id) :
    BalancedBut e s (s.left e x why) := by
  have hhistory : (s.left e x why).history = s.history ++ [.deactivated e why] := by
    simp [history, moments_left]
  refine ⟨fun i hi => balancedAt_of_elsewhere _ ?_ hhistory ?_,
    .inr fun i => listed_left hwired why hx hmem hrouter hslot⟩
  · rw [engines_left, engines_onEngine_of_ne hi.symm]
  · simpa [Entry.engine?] using hi.symm

/-- Counting a failed batch does not matter to the rules, nor does what nobody notices. -/
lemma wired_quiet {error : AspectError} (hsound : s.Sound) (hx : s.engines[e]? = some x)
    (hquiet : Quiet ((s.onEngine e Engine.countFailure).noted (.batchOver e (some error))) t) :
    t.Wired :=
  (hsound.wired.onEngine_noted (f := Engine.countFailure) (.batchOver e (some error)) hx (fun h => h)
    fun _ h => h).neutral hquiet.neutral

/-- An engine that fails once too often leaves all others in balance. -/
lemma balancedBut_tripped {error : AspectError} (hsound : s.Sound) (hx : s.engines[e]? = some x)
    (hstate : x.state = .active)
    (hquiet : Quiet ((s.onEngine e Engine.countFailure).noted (.batchOver e (some error))) t) :
    BalancedBut e s ((t.left e x.countFailure .failing).closing e) := by
  obtain ⟨r, id, hmem, hrouter, hslot, -⟩ := hsound.careers.place hx hstate
  set u := (s.onEngine e Engine.countFailure).noted (.batchOver e (some error))
  have hwired := wired_quiet hsound hx hquiet
  have ht := engine_quiet hx hquiet
  have hmem' : Entry.activated e r id ∈ t.history := by
    rw [history, moments, hquiet.journal]
    change _ ∈ u.history
    rw [history_noted]
    exact List.mem_append_left _ hmem
  have hhistory : ((t.left e x.countFailure .failing).closing e).history =
      s.history ++ [.batchOver e (some error), .deactivated e .failing, .hook e .shutdown] := by
    simp [history, moments_tripped hquiet]
  refine ⟨fun i hi => balancedAt_of_elsewhere _ ?_ hhistory ?_, .inr fun i hlisted => ?_⟩
  · change ((t.left e x.countFailure .failing).onEngine e Engine.close).engines[i]? = _
    rw [engines_onEngine_of_ne hi.symm, engines_left, engines_onEngine_of_ne hi.symm, hquiet.engines]
    exact engines_onEngine_of_ne hi.symm
  · simpa [Entry.engine?] using hi.symm
  · have hcounted : u.Listed i :=
      listed_onEngine (f := Engine.countFailure) hx rfl rfl rfl hlisted
    have hlater : t.Listed i := listed_of_lists
      (fun y hy hactive => ⟨y, hquiet.engines ▸ hy, hactive, rfl, rfl⟩)
      (fun r id h => hquiet.neutral.lists.mpr h) hcounted
    have hleft := listed_left hwired .failing ht hmem' hrouter hslot hlater
    have hgone : (t.left e x.countFailure .failing).engines[e]? = some x.countFailure.deactivate := by
      rw [engines_left, engines_onEngine_self ht]
    exact listed_onEngine (f := Engine.close) hgone rfl rfl rfl hleft

/-- An engine that announces its end leaves all others in balance. -/
lemma balancedBut_finished (error : AspectError) (through : Option RouterId)
    (hx : s.engines[e]? = some x) : BalancedBut e s (s.finished e x error through) := by
  refine balancedBut_of_one (f := Engine.takeAll) _ hx (engines_finished error through) ?_
    (history_finished error through) ?_ rfl rfl rfl
  · cases through <;> rfl
  · intro entry hentry i hi
    simp only [List.mem_append, List.mem_cons, List.not_mem_nil, or_false, List.mem_map] at hentry
    rcases hentry with (rfl | rfl | rfl) | ⟨r, -, rfl⟩ <;> simp [Entry.engine?, hi.symm]

end OneEngine

end System

end NamespaceLogging
