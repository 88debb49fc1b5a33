import Mathlib.Data.Finset.Card
import NamespaceLogging.Proofs.Passages
import NamespaceLogging.Proofs.Settling

/-!
# Steps of a cascade

An engine that fails too often logs its last record, which other engines are given, so that they may fail
too often as well.  This module says what such a cascade leaves in the journal, and what all acts have in
common that may be part of it: no engine is started, no slot is made, and each engine that says its last
word was active before and is not any more.

Hooks take part in it as long as they do not log themselves.  The steps that their scripts take have to be
discreet: such a step is over at once, and it leaves engines, slots and the journal alone.

## Main definitions

* `Step.Discreet`, `Sink.Discreet`, `Handler.Discreet`: steps, and scripts that take no others.
* `Cascade`: the moments of a cascade, with the engines that say their last word in it.
* `System.StartsNothing`: some time went by in which nothing was started.
* `System.CascadesTo`: from one state to another, there was nothing but a cascade.
* `System.Feeds`: a gate passes records on to a slot.
* `System.Tame`: hooks are discreet, and gates lead downwards.

## Main results

* `discreet_of_asks`: asking a router something is discreet.
* `System.CascadesTo.trans`: one cascade after the other.
* `System.StartsNothing.tame`: a tame system stays tame.
-/

set_option autoImplicit false

namespace NamespaceLogging

open Act

/-! ## Discreet steps -/

/-- Engines, slots, names and the journal are as they were. -/
structure System.Unmoved (s t : System) : Prop where
  engines : t.engines = s.engines
  slots : t.slots = s.slots
  names : t.names = s.names
  journal : t.journal = s.journal

/-- The step is over at once, without a call back into the system, and leaves engines, slots and the
journal alone.  It does so in all later states in which names lead to the same objects. -/
def Step.Discreet (s : System) (step : Step) : Prop :=
  ∀ t : System, s.Edited System.Public t → t.names = s.names → ∃ result u,
    (∀ calls, (System.perform calls step).on t = (result, u)) ∧ isOver result = true ∧ t.Unmoved u

/-- **Asking a router something is discreet**, if the answer changes nothing. -/
lemma discreet_of_asks {s : System} {name : String} {r : RouterId} {y : Router} {step : RouterStep}
    {answer : Router → Answer} (hname : s.names.routers.lookup name = some r)
    (hy : s.routers[r]? = some y)
    (hasks : ∀ (calls : Reentry) (t : System) z, t.routers[r]? = some z →
      (System.performRouter calls r step).on t = (.ok (answer z), t)) :
    (Step.onRouter name step).Discreet s := by
  intro t hst hnames
  obtain ⟨z, hz, -⟩ := hst.upholds.routers r y hy
  refine ⟨.ok (answer z), { t with inUse := (r :: t.inUse).erase r }, fun calls => ?_, rfl,
    ⟨rfl, rfl, rfl, rfl⟩⟩
  have hnamed : (System.named Names.routers name).on t = (.ok r, t) := by
    rw [System.named, on_bind_of_ok on_get, hnames, on_require, hname]
  have hanswer := hasks calls { t with inUse := r :: t.inUse } z hz
  exact (on_bind_of_ok hnamed _).trans (System.on_keeping hanswer rfl)

/-- The move is no step, or a discreet one. -/
def Move.Discreet (s : System) : Move Step → Prop
  | .take _ step => step.Discreet s
  | _ => True

/-- The hooks of the sink that are called with records, with batches and at its end are discreet. -/
structure SinkBehaviour.Discreet (s : System) (behaviour : SinkBehaviour Step) : Prop where
  onRecord : ∀ n message, ∀ move ∈ behaviour.onRecord n message, move.Discreet s
  onBatch : ∀ n batch, ∀ move ∈ behaviour.onBatch n batch, move.Discreet s
  onShutdown : ∀ n, ∀ move ∈ behaviour.onShutdown n, move.Discreet s

/-- The sink is discreet; a built-in sink makes no calls at all. -/
def Sink.Discreet (s : System) : Sink → Prop
  | .scripted behaviour => behaviour.Discreet s
  | .stream _ => True

/-- The handler is discreet when it is called with a record. -/
def Handler.Discreet (s : System) : Handler → Prop
  | .scripted behaviour _ _ => ∀ n message, ∀ move ∈ behaviour.onRecord n message, move.Discreet s
  | _ => True

section Discreet

variable {s t : System} (hst : s.Edited System.Public t) (hnames : t.names = s.names)

include hst hnames

/-- A discreet step stays so in all later states with the same names. -/
lemma Step.Discreet.later {step : Step} (h : step.Discreet s) : step.Discreet t :=
  fun u htu hu => h u (hst.trans htu) (hu.trans hnames)

/-- A discreet move stays so in all later states with the same names. -/
lemma Move.Discreet.later {move : Move Step} (h : move.Discreet s) : move.Discreet t := by
  cases move with
  | take word step => exact Step.Discreet.later hst hnames h
  | _ => trivial

/-- A discreet sink stays so in all later states with the same names. -/
lemma Sink.Discreet.later {sink : Sink} (h : sink.Discreet s) : sink.Discreet t := by
  cases sink with
  | scripted behaviour =>
    obtain ⟨hrecord, hbatch, hshutdown⟩ := h
    exact ⟨fun n message move hmove => (hrecord n message move hmove).later hst hnames,
      fun n batch move hmove => (hbatch n batch move hmove).later hst hnames,
      fun n move hmove => (hshutdown n move hmove).later hst hnames⟩
  | stream sink => trivial

/-- A handler stays discreet, whatever it was called with. -/
lemma Handler.Discreet.later {h h' : Handler} (hnature : h'.nature = h.nature) (hh : h.Discreet s) :
    h'.Discreet t := by
  cases h <;> cases h' <;> simp only [nature, reduceCtorEq, scripted.injEq] at hnature <;> try trivial
  obtain ⟨rfl, -, -⟩ := hnature
  exact fun n message move hmove => (hh n message move hmove).later hst hnames

end Discreet

/-! ## Cascades -/

/-- The engine to whose sink something is handed, be it a record or a batch, or whose queue an object
joins. -/
def Entry.handedTo? : Entry → Option EngineId
  | .hook e (.record _) | .hook e (.batch _) | .queued e _ => some e
  | _ => none

/-- The router at which a log call is made. -/
def Entry.loggedTo? : Entry → Option RouterId
  | .logged r _ => some r
  | _ => none

/-- The engine takes records. -/
def Assembly.Active (a : Assembly) (e : EngineId) : Prop :=
  a.engines[e]?.map Engine.state = some .active

instance (a : Assembly) : DecidablePred a.Active := fun _ => inferInstanceAs (Decidable (_ = _))

/-- The engine takes records, and was attached to the router. -/
def Assembly.Attached (a : Assembly) (e : EngineId) (r : RouterId) : Prop :=
  ∃ x, a.engines[e]? = some x ∧ x.state = .active ∧ x.router = some r

/-- The moments of a cascade.  The only log calls are those by which engines say their last word; they are
listed with the routers to which they say it.  Whatever is handed to an engine is handed to one that takes
records at that moment. -/
inductive Cascade : List Moment → List (EngineId × RouterId) → Prop
  | nil : Cascade [] []
  | aside {m : Moment} {ms : List Moment} {told : List (EngineId × RouterId)}
      (silent : m.entry.loggedTo? = none)
      (awake : ∀ e, m.entry.handedTo? = some e → m.assembly.Active e) (rest : Cascade ms told) :
      Cascade (m :: ms) told
  | told {m m' : Moment} {ms : List Moment} {told : List (EngineId × RouterId)} {e : EngineId}
      {r : RouterId} {errors : Nat} {error : AspectError} {name : String}
      (disabled : m.entry = .disabled e errors error)
      (logged : m'.entry = .logged r (System.lastRecord name errors error)) (rest : Cascade ms told) :
      Cascade (m :: m' :: ms) ((e, r) :: told)

/-- One cascade may follow on another; the engines that say their last word in it come behind the
others. -/
lemma Cascade.append {ms ms' : List Moment} {told told' : List (EngineId × RouterId)}
    (h : Cascade ms told) (h' : Cascade ms' told') : Cascade (ms ++ ms') (told ++ told') := by
  induction h with
  | nil => exact h'
  | aside silent awake _ ih => exact .aside silent awake ih
  | told disabled logged _ ih => exact .told disabled logged ih

/-- Something is handed only to engines that take records. -/
lemma Cascade.active {ms : List Moment} {told : List (EngineId × RouterId)} (h : Cascade ms told) :
    ∀ m ∈ ms, ∀ e, m.entry.handedTo? = some e → m.assembly.Active e := by
  induction h with
  | nil => simp
  | aside silent awake _ ih => exact List.forall_mem_cons.mpr ⟨awake, ih⟩
  | told disabled logged _ ih =>
    refine List.forall_mem_cons.mpr ⟨?_, List.forall_mem_cons.mpr ⟨?_, ih⟩⟩
    · simp [disabled, Entry.handedTo?]
    · simp [logged, Entry.handedTo?]

/-- There are as many log calls as last words. -/
lemma Cascade.loggedTo {ms : List Moment} {told : List (EngineId × RouterId)} (h : Cascade ms told) :
    (ms.map Moment.entry).filterMap Entry.loggedTo? = told.map Prod.snd := by
  induction h with
  | nil => rfl
  | aside silent _ _ ih => rw [List.map_cons, List.filterMap_cons_none silent, ih]
  | told disabled logged _ ih =>
    rw [List.map_cons, List.map_cons, disabled, logged, List.map_cons, ← ih]
    rfl

/-- The engine is not started; it keeps its scripts and its router. -/
structure Engine.NotRestarted (x y : Engine) : Prop where
  state : y.state = .active → x.state = .active
  sink : ∀ behaviour, y.sink = .scripted behaviour → x.sink = .scripted behaviour
  router : y.router = x.router
  starting : y.starting = x.starting

/-- The engine is as active as before. -/
structure Engine.Stays (x y : Engine) : Prop extends x.NotRestarted y where
  kept : y.state = x.state

namespace Engine.NotRestarted

variable {x y z : Engine}

/-- An engine that keeps its state, its sink, its router and its flag was not started again. -/
lemma of_eq (hstate : y.state = x.state) (hsink : y.sink = x.sink) (hrouter : y.router = x.router)
    (hstarting : y.starting = x.starting) : x.NotRestarted y :=
  ⟨fun h => hstate ▸ h, fun _ h => hsink ▸ h, hrouter, hstarting⟩

/-- An engine that nothing happens to is not started again. -/
lemma refl (x : Engine) : x.NotRestarted x := .of_eq rfl rfl rfl rfl

/-- An engine that is not started again in two stretches of time is not so in both together. -/
lemma trans (hxy : x.NotRestarted y) (hyz : y.NotRestarted z) : x.NotRestarted z :=
  ⟨hxy.state ∘ hyz.state, fun b h => hxy.sink b (hyz.sink b h), hyz.router.trans hxy.router,
    hyz.starting.trans hxy.starting⟩

/-- The sink of an engine that was not started again is discreet if it was. -/
lemma discreet {s t : System} (hst : s.Edited System.Public t) (hnames : t.names = s.names)
    (hxy : x.NotRestarted y) (h : x.sink.Discreet s) : y.sink.Discreet t := by
  cases hsink : y.sink with
  | scripted behaviour =>
    rw [hxy.sink behaviour hsink] at h
    exact h.later hst hnames
  | stream sink => trivial

end Engine.NotRestarted

/-- An engine that keeps its state, its sink, its router and its flag is as active as before. -/
lemma Engine.stays_of_eq {x y : Engine} (hstate : y.state = x.state) (hsink : y.sink = x.sink)
    (hrouter : y.router = x.router) (hstarting : y.starting = x.starting) : x.Stays y :=
  ⟨.of_eq hstate hsink hrouter hstarting, hstate⟩

namespace System

variable {s t u : System} {e : EngineId} {x : Engine} {told told' : List (EngineId × RouterId)}

/-- Whether an engine takes records is read off its state. -/
lemma active_of_some (hx : s.engines[e]? = some x) : s.Active e ↔ x.state = .active := by
  simp [Assembly.Active, hx]

/-- An engine that takes records from a router takes records. -/
lemma active_of_attached {r : RouterId} (h : s.Attached e r) : s.Active e := by
  obtain ⟨x, hx, hstate, -⟩ := h
  exact (active_of_some hx).mpr hstate

/-- The active engines. -/
def actives (s : System) : Finset EngineId := (Finset.range s.engines.length).filter s.Active

/-- The active engines are those that take records. -/
lemma mem_actives : e ∈ s.actives ↔ s.Active e := by
  rw [actives, Finset.mem_filter, Finset.mem_range, and_iff_right_iff_imp]
  intro hactive
  obtain ⟨x, hx, -⟩ := Option.map_eq_some_iff.mp hactive
  exact (List.getElem?_eq_some_iff.mp hx).1

/-- Some time went by in which no slot was made and no engine was started. -/
structure StartsNothing (s t : System) : Prop where
  edited : s.Edited Public t
  names : t.names = s.names
  slots : t.slots = s.slots
  held : t.held = s.held
  engines : ∀ (e : EngineId) y, t.engines[e]? = some y → ∃ x, s.engines[e]? = some x ∧ x.NotRestarted y

namespace StartsNothing

/-- Nothing is started where nothing happens. -/
lemma refl (s : System) : s.StartsNothing s := ⟨.refl s, rfl, rfl, rfl, fun _ y hy => ⟨y, hy, .refl y⟩⟩

/-- If nothing is started in two stretches of time, nothing is so in both together. -/
lemma trans (hst : s.StartsNothing t) (htu : t.StartsNothing u) : s.StartsNothing u where
  edited := hst.edited.trans htu.edited
  names := htu.names.trans hst.names
  slots := htu.slots.trans hst.slots
  held := htu.held.trans hst.held
  engines e z hz := by
    obtain ⟨y, hy, hyz⟩ := htu.engines e z hz
    obtain ⟨x, hx, hxy⟩ := hst.engines e y hy
    exact ⟨x, hx, hxy.trans hyz⟩

/-- If nothing was started, an engine that is active was so before. -/
lemma active (h : s.StartsNothing t) (hactive : t.Active e) : s.Active e := by
  obtain ⟨y, hy, hstate⟩ := Option.map_eq_some_iff.mp hactive
  obtain ⟨x, hx, hxy⟩ := h.engines e y hy
  exact (active_of_some hx).mpr (hxy.state hstate)

/-- If nothing was started, an engine that takes records from a router did so before. -/
lemma attached {r : RouterId} (h : s.StartsNothing t) (hattached : t.Attached e r) : s.Attached e r := by
  obtain ⟨y, hy, hstate, hrouter⟩ := hattached
  obtain ⟨x, hx, hxy⟩ := h.engines e y hy
  exact ⟨x, hx, hxy.state hstate, hxy.router ▸ hrouter⟩

/-- If nothing was started, the active engines were all active before. -/
lemma actives (h : s.StartsNothing t) : t.actives ⊆ s.actives :=
  fun _ he => mem_actives.mpr (h.active (mem_actives.mp he))

/-- If nothing was started, there are not more active engines than before. -/
lemma card_le (h : s.StartsNothing t) : t.actives.card ≤ s.actives.card := Finset.card_le_card h.actives

/-- If an engine has ended, there are fewer active ones. -/
lemma card_lt (h : s.StartsNothing t) (hbefore : s.Active e) (hafter : ¬ t.Active e) :
    t.actives.card < s.actives.card := by
  refine Finset.card_lt_card ⟨h.actives, fun hall => hafter ?_⟩
  exact mem_actives.mp (hall (mem_actives.mpr hbefore))

/-- An engine is still there. -/
lemma exists_engine (h : s.StartsNothing t) (hx : s.engines[e]? = some x) :
    ∃ y, t.engines[e]? = some y ∧ x.NotRestarted y := by
  have hlt := Nat.lt_of_lt_of_le (List.getElem?_eq_some_iff.mp hx).1 h.edited.upholds.engines
  obtain ⟨x', hx', hxy⟩ := h.engines e _ (List.getElem?_eq_getElem hlt)
  obtain rfl := Option.some.inj (hx.symm.trans hx')
  exact ⟨_, List.getElem?_eq_getElem hlt, hxy⟩

/-- An engine that was discreet is there still, and still discreet. -/
lemma exists_discreet (h : s.StartsNothing t) (hx : s.engines[e]? = some x) (hdiscreet : x.sink.Discreet s) :
    ∃ y, t.engines[e]? = some y ∧ y.sink.Discreet t := by
  obtain ⟨y, hy, hxy⟩ := h.exists_engine hx
  exact ⟨y, hy, hxy.discreet h.edited h.names hdiscreet⟩

end StartsNothing

/-- From one state to the other there was nothing but a cascade, in which the engines said their last word
that are listed.  Each of them was active before, is not active after, and has left its router. -/
structure CascadesTo (s : System) (told : List (EngineId × RouterId)) (t : System) : Prop
    extends s.StartsNothing t where
  moments : ∃ new, t.moments = s.moments ++ new ∧ Cascade new told
  once : (told.map Prod.fst).Nodup
  ended : ∀ p ∈ told, s.Attached p.1 p.2 ∧ ¬ t.Active p.1
  freed : ∀ p ∈ told, t.Freed p.1 p.2

namespace CascadesTo

/-- Nobody said his last word. -/
lemma of_startsNothing (h : s.StartsNothing t) (hmoments : ∃ new, t.moments = s.moments ++ new ∧ Cascade new []) :
    s.CascadesTo [] t :=
  ⟨h, hmoments, by simp, by simp, by simp⟩

/-- Where nothing happens, there is a cascade without any last word. -/
lemma refl (s : System) : s.CascadesTo [] s := .of_startsNothing (.refl s) ⟨[], by simp, .nil⟩

/-- **One cascade after the other.**  Nobody says his last word twice, since whoever has said it is not
active any more. -/
lemma trans (hst : s.CascadesTo told t) (htu : t.CascadesTo told' u) : s.CascadesTo (told ++ told') u where
  toStartsNothing := hst.toStartsNothing.trans htu.toStartsNothing
  moments := by
    obtain ⟨new, hnew, hcascade⟩ := hst.moments
    obtain ⟨new', hnew', hcascade'⟩ := htu.moments
    exact ⟨new ++ new', by rw [hnew', hnew, List.append_assoc], hcascade.append hcascade'⟩
  once := by
    rw [List.map_append]
    refine List.nodup_append.mpr ⟨hst.once, htu.once, fun e he e' he' heq => ?_⟩
    obtain ⟨p, hp, rfl⟩ := List.mem_map.mp he
    obtain ⟨p', hp', rfl⟩ := List.mem_map.mp he'
    exact (hst.ended p hp).2 (heq ▸ active_of_attached (htu.ended p' hp').1)
  ended p hp := by
    rcases List.mem_append.mp hp with hp | hp
    · exact ⟨(hst.ended p hp).1, fun h => (hst.ended p hp).2 (htu.active h)⟩
    · exact ⟨hst.attached (htu.ended p hp).1, (htu.ended p hp).2⟩
  freed p hp := by
    rcases List.mem_append.mp hp with hp | hp
    · obtain ⟨m, hm, hleft⟩ := hst.freed p hp
      obtain ⟨new, hnew, -⟩ := htu.moments
      exact ⟨m, hnew ▸ List.mem_append_left _ hm, hleft⟩
    · exact htu.freed p hp

/-- There are no more last words than there were active engines. -/
lemma length_le (h : s.CascadesTo told t) : told.length ≤ s.actives.card := by
  rw [← List.length_map Prod.fst, ← List.toFinset_card_of_nodup h.once]
  refine Finset.card_le_card fun e he => ?_
  obtain ⟨p, hp, rfl⟩ := List.mem_map.mp (List.mem_toFinset.mp he)
  exact mem_actives.mpr (active_of_attached (h.ended p hp).1)

/-- Nobody said his last word in the first part. -/
lemma after (hst : s.CascadesTo [] t) (htu : t.CascadesTo told u) : s.CascadesTo told u := hst.trans htu

/-- Nobody said his last word in the second part. -/
lemma before (hst : s.CascadesTo told t) (htu : t.CascadesTo [] u) : s.CascadesTo told u := by
  simpa using hst.trans htu

/-- A lock was held meanwhile. -/
lemma unlocked {lock : LockId} (h : { s with held := lock :: s.held }.CascadesTo told t) :
    s.CascadesTo told { t with held := t.held.erase lock } :=
  { h with
    edited := ((Edited.refl s).tail (.locked s lock)).trans (h.edited.tail (.unlocked t lock))
    held := by rw [h.held, List.erase_cons_head] }

end CascadesTo

/-! ## Single changes -/

/-- Something changed that has nothing to do with engines, slots, names, locks and the journal. -/
lemma Unmoved.cascadesTo (h : s.Unmoved t) (hst : s.Edited Public t) (hheld : t.held = s.held) :
    s.CascadesTo [] t :=
  .of_startsNothing ⟨hst, h.names, h.slots, hheld, fun _ y hy => ⟨y, h.engines ▸ hy, .refl y⟩⟩
    ⟨[], by simp [moments, h.journal], .nil⟩

/-- Something was written down. -/
lemma startsNothing_noted (s : System) (entry : Entry) : s.StartsNothing (s.noted entry) :=
  { StartsNothing.refl s with edited := .single (.noted s entry fun _ _ _ h => h) }

/-- Something was written down that is no log call. -/
lemma cascadesTo_noted (s : System) (entry : Entry) (hsilent : entry.loggedTo? = none)
    (hawake : ∀ e, entry.handedTo? = some e → s.Active e) : s.CascadesTo [] (s.noted entry) :=
  .of_startsNothing (startsNothing_noted s entry) ⟨_, moments_noted entry, .aside hsilent hawake .nil⟩

/-- An engine changed, but was not started. -/
lemma cascadesTo_onEngine {f : Engine → Engine} (hf : ∀ x, s.engines[e]? = some x → x.NotRestarted (f x)) :
    s.CascadesTo [] (s.onEngine e f) := by
  refine .of_startsNothing ⟨.single (.beside (beside_onEngine e f)), rfl, rfl, rfl, fun i y hy => ?_⟩
    ⟨[], by simp, .nil⟩
  rw [engines_onEngine] at hy
  split at hy
  · rename_i heq
    subst heq
    obtain ⟨x, hx, rfl⟩ := Option.map_eq_some_iff.mp hy
    exact ⟨x, hx, hf x hx⟩
  · exact ⟨y, hy, .refl y⟩

/-! ## Tame systems -/

/-- A gate in the first slot passes records on to the second one. -/
def Feeds (s : System) (id id' : SlotId) : Prop :=
  ∃ filter g members, s.Gated id filter g ∧ s.groups[g]? = some members ∧ id' ∈ members

/-- References are in order, the hooks of active engines and all handlers in slots are discreet, active
engines know routers that are there, and gates pass records on to lower slots only. -/
structure Tame (height : SlotId → Nat) (s : System) : Prop where
  linked : s.Linked Public
  engines : ∀ (e : EngineId) x, s.engines[e]? = some x → x.state = .active →
    x.sink.Discreet s ∧ x.starting = false ∧ ∀ r, x.router = some r → ∃ y, s.routers[r]? = some y
  handlers : ∀ id n lock h, s.slot? id = some ⟨.plain n, lock⟩ → s.handlers[n]? = some h → h.Discreet s
  gates : ∀ id id', s.Feeds id id' → height id' < height id

/-- A handler in a slot is of the nature that it had. -/
lemma Linked.exists_handler {n : HandlerId} {lock : LockId} {id : SlotId} {h : Handler}
    (hlinked : s.Linked Public) (hst : s.Edited Public t) (hslots : t.slots = s.slots)
    (hslot : t.slot? id = some ⟨.plain n, lock⟩) (hh : t.handlers[n]? = some h) :
    s.slot? id = some ⟨.plain n, lock⟩ ∧ ∃ h₀, s.handlers[n]? = some h₀ ∧ h.nature = h₀.nature := by
  rw [slot?_congr hslots] at hslot
  have hknown : s.Knows (.plain n) := hlinked.knows hslot
  obtain ⟨h', hh', hnature⟩ := hst.upholds.handlers n _ (List.getElem?_eq_getElem hknown)
  obtain rfl := Option.some.inj (hh.symm.trans hh')
  exact ⟨hslot, _, List.getElem?_eq_getElem hknown, hnature⟩

/-- Gates pass records on to no more slots than before. -/
lemma StartsNothing.feeds {id id' : SlotId} (h : s.StartsNothing t) (hlinked : s.Linked Public)
    (hfeeds : t.Feeds id id') : s.Feeds id id' := by
  obtain ⟨filter, g, members, ⟨n, lock, hslot, hgate⟩, hmembers, hmem⟩ := hfeeds
  obtain ⟨hslot, h₀, hh₀, hnature⟩ := hlinked.exists_handler h.edited h.slots hslot hgate
  obtain rfl : Handler.gate filter g = h₀ := by cases h₀ <;> simp_all [Handler.nature]
  have hmembers₀ := List.getElem?_eq_getElem (hlinked.gates n filter g hh₀)
  have hdwindles := h.edited.upholds.fewer (by rw [h.slots])
  exact ⟨filter, g, _, ⟨n, lock, hslot, hh₀⟩, hmembers₀,
    (hdwindles.groups g _ members hmembers₀ hmembers).subset hmem⟩

/-- **A tame system stays tame.** -/
lemma StartsNothing.tame {height : SlotId → Nat} (h : s.StartsNothing t) (hs : s.Tame height) :
    t.Tame height where
  linked := h.edited.linked hs.linked
  engines e y hy hactive := by
    obtain ⟨x, hx, hxy⟩ := h.engines e y hy
    obtain ⟨hdiscreet, hstarting, hrouter⟩ := hs.engines e x hx (hxy.state hactive)
    refine ⟨hxy.discreet h.edited h.names hdiscreet, hxy.starting.trans hstarting, fun r hr => ?_⟩
    obtain ⟨z, hz⟩ := hrouter r (hxy.router ▸ hr)
    obtain ⟨z', hz', -⟩ := h.edited.upholds.routers r z hz
    exact ⟨z', hz'⟩
  handlers id n lock handler hslot hhandler := by
    obtain ⟨hslot, h₀, hh₀, hnature⟩ := hs.linked.exists_handler h.edited h.slots hslot hhandler
    exact Handler.Discreet.later h.edited h.names hnature (hs.handlers id n lock h₀ hslot hh₀)
  gates id id' hfeeds := hs.gates id id' (h.feeds hs.linked hfeeds)

end System

end NamespaceLogging
