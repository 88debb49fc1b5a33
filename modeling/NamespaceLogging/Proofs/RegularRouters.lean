import NamespaceLogging.Proofs.Starting

/-!
# Regular handlers and routers

What handlers do is regular, and so are the making and the shutdown of routers.

## Main results

* `System.regular_handle`: handlers at work.
* `System.leaves_stopAll`: engines that are shut down one after the other.
* `System.regular_shutdown`: the shutdown of a router.
-/

set_option autoImplicit false

namespace NamespaceLogging

open Act History

namespace System

variable {s t : System} {e : EngineId} {x y : Engine} {calls : Reentry}

/-! ## Handlers -/

/-- Laying a record out changes the record alone, and panics if its message cannot be written. -/
lemma regular_layOut (layout : Layout) (id : RecordId) : (layOut layout id).Regular := by
  refine (regular_record id).bind fun r => (regular_orPanic _).bind fun line => ?_
  exact (regular_updateRecord _ _).bind fun _ => regular_pure _

/-- Writing to the standard error stream changes the media alone. -/
lemma regular_writeError (text : String) : (writeError text).Regular :=
  regular_get fun s => regular_setMedia _ s

/-- Asking a handler for the records that it keeps only reads the state. -/
lemma regular_memoryRecords (h : HandlerId) : (memoryRecords h).Regular := by
  refine (regular_handler h).bind fun x => ?_
  cases x with
  | memory kept => exact regular_pure _
  | _ => exact regular_throw _

/-- Draining a memory handler renders the records that it keeps, and leaves it empty. -/
lemma regular_drainMemory (h : HandlerId) : (drainMemory h).Regular := by
  refine (regular_memoryRecords h).bind fun kept => ?_
  refine (regular_mapM kept fun r _ => regular_renderMessage r).bind fun records => ?_
  exact (regular_updateHandler _ _).bind fun _ => regular_pure _

/-- Looking at the records that a handler keeps renders them. -/
lemma regular_inspectMemory (h : HandlerId) : (inspectMemory h).Regular := by
  refine (regular_memoryRecords h).bind fun kept => regular_mapM kept fun r _ => ?_
  exact (regular_record r).bind fun _ => (regular_renderMessage r).bind fun _ => regular_pure _

section Handlers

variable (hcalls : calls.Regular)

include hcalls

/-- **A handler that is no engine** is regular with a record: it keeps or writes it, passes it to a
group, or runs its script. -/
lemma regular_handlePlain (h : HandlerId) (id : RecordId) : (handlePlain calls h id).Regular := by
  refine (regular_handler h).bind fun x => ?_
  cases x with
  | memory kept => exact regular_updateHandler _ _
  | stderr layout => exact (regular_layOut layout id).bind fun _ => regular_writeError _
  | gate filter next =>
    refine (regular_record id).bind fun r => ?_
    split
    · exact regular_dispatchGroup hcalls next id
    · exact regular_pure _
  | scripted behaviour n deaths =>
    refine (regular_renderMessage id).bind fun r => (regular_updateHandler _ _).bind fun _ => ?_
    refine (regular_note rfl).bind fun _ => ?_
    exact (regular_runScript hcalls _ _).bind fun _ => regular_pure _

/-- **Handlers at work.** -/
lemma regular_handle (h : HandlerRef) (id : RecordId) : (handle calls h id).Regular := by
  cases h with
  | plain h => exact regular_handlePlain hcalls h id
  | engine e => exact regular_takeRecord hcalls e id

/-- Telling a handler that the end is near stops an engine, runs a script or does nothing. -/
lemma regular_prepareToDie (h : HandlerRef) : (prepareToDie calls h).Regular := by
  cases h with
  | engine e => exact regular_flush hcalls e
  | plain h =>
    refine (regular_handler h).bind fun x => ?_
    cases x with
    | scripted behaviour n deaths =>
      refine (regular_updateHandler _ _).bind fun _ => (regular_note rfl).bind fun _ => ?_
      exact (regular_runScript hcalls _ _).bind fun _ => regular_pure _
    | _ => exact regular_pure _

/-- Telling the handler of a slot so is written down before, and is done under the lock of the
slot. -/
lemma regular_dieSlot (id : SlotId) : (dieSlot calls id).Regular :=
  (regular_slot id).bind fun x => (regular_note rfl).bind fun _ =>
    regular_holding x.lock (regular_prepareToDie hcalls x.handler)

/-- Several slots are told one after the other.  The induction is on the slots. -/
lemma regular_dieAll : ∀ ids, (dieAll calls ids).Regular
  | [] => regular_pure _
  | id :: ids => (regular_dieSlot hcalls id).bind fun _ => regular_dieAll ids

/-! ## Stopping engines -/

/-- **Engines that are shut down** one after the other.  Only a shutdown hook can panic. -/
lemma leaves_stopAll : ∀ (entries : List (SlotId × EngineId)) (s : System), s.Sound →
    (∀ entry ∈ entries, ∃ r id, Entry.activated entry.2 r id ∈ s.history) →
      (stopAll calls entries).Leaves s
        (fun t => s.Balanced t ∧ ∀ entry ∈ entries, ∃ x, t.engines[entry.2]? = some x ∧
          x.state = .shutDown) (fun t => s.Broke t ∧ s.Balanced t)
  | [], s, _, _ => ⟨.refl, .refl s, by simp⟩
  | entry :: entries, s, hsound, hstarted => by
    refine Leaves.bind (leaves_stopEngine hcalls hsound entry.2) (fun _ t _ hst h => ?_)
      fun t _ h => h
    obtain ⟨hbalanced, hstopped⟩ := h
    have hrest := leaves_stopAll entries t (hst.sound hsound) fun entry' hentry => by
      obtain ⟨r, id, hmem⟩ := hstarted entry' (List.mem_cons_of_mem _ hentry)
      exact ⟨r, id, hst.lasts.mem_history hmem⟩
    refine hrest.mono (fun u htu h => ?_) fun u htu h =>
      ⟨h.1.before hst.lasts, hbalanced.trans hst.lasts htu.lasts h.2⟩
    refine ⟨hbalanced.trans hst.lasts htu.lasts h.1, fun entry' hentry => ?_⟩
    rcases List.mem_cons.mp hentry with rfl | hentry
    · obtain ⟨r, id, hmem⟩ := hstarted entry' List.mem_cons_self
      obtain ⟨x, hx⟩ := (hst.sound hsound).lives.exists_engine rfl (hst.lasts.mem_history hmem)
      have hcareer := (hst.sound hsound).careers _ x hx
      have hbegun := hcareer.started.mpr ⟨r, id, hst.lasts.mem_history hmem⟩
      have hnot := hstopped x hx
      refine htu.lasts.shutDown hx ?_
      cases hstate : x.state with
      | uninitialized => exact absurd hstate hbegun
      | active => exact absurd hstate hnot
      | shutDown => rfl
    · exact h.2 entry' hentry

/-! ## The shutdown of a router -/

omit hcalls in
/-- The shutdown of a router takes from its list only the engines that were on it. -/
lemma listed_shut {r : RouterId} {y : Router} (hy : s.routers[r]? = some y) (hlisted : s.Listed e) :
    (s.onRouter r Router.shut).Listed e ∨ ∃ id, (id, e) ∈ y.aspects := by
  by_cases hmem : ∃ id, (id, e) ∈ y.aspects
  · exact .inr hmem
  · refine .inl fun x hx hstate => ?_
    obtain ⟨r', id, hrouter, hslot, z, hz, hin⟩ := hlisted x hx hstate
    refine ⟨r', id, hrouter, hslot, (Assembly.lists_iff_of_modify (a := s.toAssembly) rfl).mpr
      ⟨z, hz, ?_⟩⟩
    split
    · rename_i heq
      subst heq
      obtain rfl : y = z := Option.some.inj (hy.symm.trans hz)
      exact absurd ⟨id, hin⟩ hmem
    · exact hin

omit hcalls in
/-- Once the engines on the list of a router were stopped, an active engine must have been attached
after the shutdown began. -/
lemma late_of_stopped {r : RouterId} {y : Router} (hsound : s.Sound) (hy : s.routers[r]? = some y)
    (hup : y.shutDown = false) (hwt : (s.onRouter r Router.shut).Evolves t)
    (hstopped : ∀ entry ∈ y.aspects, ∃ x, t.engines[entry.2]? = some x ∧ x.state = .shutDown)
    (hx : t.engines[e]? = some x) (hstate : x.state = .active) (hrouter : x.router = some r) :
    t.Late e r := by
  have hst : s.Evolves t := Evolves.trans (.single (.shut hy hup)) hwt
  obtain ⟨r', id, hmem, hrouter', -⟩ := (hst.sound hsound).careers.place hx hstate
  obtain rfl : r = r' := Option.some.inj (hrouter.symm.trans hrouter')
  obtain ⟨new, hnew, hlast⟩ := hwt.lasts.moments
  rw [history, hnew, List.map_append, List.mem_append] at hmem
  rcases hmem with hmem | hmem
  · have hold : Entry.activated e r id ∈ s.history := hmem
    obtain ⟨x₀, hx₀⟩ := hsound.lives.exists_engine rfl hold
    have hbegun := (hsound.careers e x₀ hx₀).started.mpr ⟨r, id, hold⟩
    cases hstate₀ : x₀.state with
    | uninitialized => exact absurd hstate₀ hbegun
    | shutDown =>
      obtain ⟨x', hx', hdown⟩ := hst.lasts.shutDown hx₀ hstate₀
      obtain rfl : x = x' := Option.some.inj (hx.symm.trans hx')
      simp [hstate] at hdown
    | active =>
      obtain ⟨z, hz, hin⟩ := hsound.wired.listed e x₀ r id y hx₀ hstate₀ hold hy hup
      obtain rfl : y = z := Option.some.inj (hy.symm.trans hz)
      obtain ⟨x', hx', hdown⟩ := hstopped _ hin
      obtain rfl : x = x' := Option.some.inj (hx.symm.trans hx')
      simp [hstate] at hdown
  · obtain ⟨m, hm, hentry⟩ := List.mem_map.mp hmem
    have hshut : (s.onRouter r Router.shut).routers[r]? = some y.shut := by
      simp [onRouter, hy]
    obtain ⟨z, hz, -, hdown⟩ := hlast m hm r _ hshut
    exact ⟨m, hnew ▸ List.mem_append_right _ hm, id, z, hentry, hz, hdown rfl⟩

/-- What follows when the engines of a router were stopped. -/
lemma leaves_cleared {r : RouterId} {y : Router} (hsound : s.Sound) (hy : s.routers[r]? = some y)
    (hup : y.shutDown = false) (hwt : (s.onRouter r Router.shut).Evolves t)
    (hstopped : ∀ entry ∈ y.aspects, ∃ x, t.engines[entry.2]? = some x ∧ x.state = .shutDown) :
    (do
      let members ← takeMembers y.defaults
      note (.cleared r members)
      dieAll calls members
      dieAll calls (← clearRegistry r) : Act Unit).Leaves t t.Balanced t.Balanced := by
  have hst : s.Evolves t := Evolves.trans (.single (.shut hy hup)) hwt
  have htsound := hst.sound hsound
  have hshut : (s.onRouter r Router.shut).routers[r]? = some y.shut := by
    simp [onRouter, hy]
  obtain ⟨z, hz, hdefaults, -⟩ := hwt.lasts.routers r _ hshut
  have hdefaults' : z.defaults = y.defaults := hdefaults
  rw [← hdefaults']
  obtain ⟨members, hmembers⟩ : ∃ members, t.groups[z.defaults]? = some members :=
    ⟨_, List.getElem?_eq_getElem (htsound.wired.defaults r z hz)⟩
  set u := (t.onGroup z.defaults fun _ => []).noted (.cleared r members)
  have hcleared : t.Evolves u := .single (.cleared members hz fun e x hx hstate hrouter =>
    late_of_stopped hsound hy hup hwt hstopped hx hstate hrouter)
  have hbalanced : t.Balanced u := balanced_onGroup_noted (.cleared r members) rfl z.defaults _
  have hrest : (do dieAll calls members; dieAll calls (← clearRegistry r) : Act Unit).Regular :=
    (regular_dieAll hcalls members).bind fun _ => (regular_clearRegistry r).bind fun ids =>
      regular_dieAll hcalls ids
  refine .of_on ((on_bind_of_ok (on_takeMembers hmembers) _).trans (on_bind_of_ok (on_note _) _))
    hcleared (((hrest u).leaves (hcleared.sound htsound)).mono ?_ ?_) <;>
    exact fun v huv h => hbalanced.trans hcleared.lasts huv.lasts h

/-- **The shutdown of a router.**

**Proof sketch.** The list of engines is emptied before they are stopped.  If all of them stop, none of
them is active that was on the list; if one does not, its shutdown hook has panicked. -/
lemma regular_shutdown (r : RouterId) : (shutdown calls r).Regular := by
  intro s
  refine regularAt_of_leaves fun hsound => ?_
  cases hy : s.routers[r]? with
  | none =>
    have hon : (router r).on s = (.error (.missing "router"), s) := by rw [on_router, hy]
    rw [Leaves, shutdown, on_bind_of_error hon]
    exact ⟨.refl, trivial⟩
  | some y =>
    have hon : (router r).on s = (.ok y, s) := by rw [on_router, hy]
    refine .of_on (on_bind_of_ok hon _) .refl ?_
    cases hup : y.shutDown with
    | true => exact ⟨.refl, .refl s⟩
    | false =>
      simp only [Bool.not_false, if_true]
      set w := s.onRouter r Router.shut
      have hshut : s.Evolves w := .single (.shut hy hup)
      have hstarted : ∀ entry ∈ y.aspects, ∃ r id, Entry.activated entry.2 r id ∈ w.history :=
        fun entry hentry => ⟨r, entry.1, hsound.wired.lists r entry.1 entry.2 ⟨y, hy, hentry⟩⟩
      have hbegin : ∀ i, s.BalancedAt w i := fun i =>
        balancedAt_of_elsewhere [] rfl (by simp [w, history, moments, onRouter]) (by simp)
      have heach : ∀ t, w.Evolves t → w.Balanced t → ∀ i, s.BalancedAt t i :=
        fun t _ h i => (hbegin i).trans (h.each i)
      refine .of_on (on_bind_of_ok (on_modify _) _) hshut (Leaves.bind
        (leaves_stopAll hcalls y.aspects w (hshut.sound hsound) hstarted) (fun _ t _ hwt h => ?_)
        fun t hwt h => ⟨heach t hwt h.2, .inl (h.1.before hshut.lasts)⟩)
      obtain ⟨hbalanced, hstopped⟩ := h
      have hall : s.Balanced t := by
        refine ⟨heach t hwt hbalanced, ?_⟩
        rcases hbalanced.lists with hbroke | hlists
        · exact .inl (hbroke.before hshut.lasts)
        · refine .inr fun i hlisted => ?_
          rcases listed_shut hy hlisted with hlisted' | ⟨id, hmem⟩
          · exact hlists i hlisted'
          · intro x hx hstate
            obtain ⟨x', hx', hdown⟩ := hstopped _ hmem
            obtain rfl : x = x' := Option.some.inj (hx.symm.trans hx')
            simp [hstate] at hdown
      have hst := hshut.trans hwt
      exact (leaves_cleared hcalls hsound hy hup hwt hstopped).mono
        (fun u htu h => hall.trans hst.lasts htu.lasts h)
        fun u htu h => hall.trans hst.lasts htu.lasts h

/-! ## Making routers -/

omit hcalls in
/-- Whether records get a call stack is no engine's business. -/
lemma keeps_capture (on : Bool) (y : Router) : y.Keeps { y with capture := on } :=
  ⟨rfl, rfl, rfl, fun h => h⟩

omit hcalls in
/-- The gates of all overrides are made and registered, one after the other. -/
lemma regular_registerGates (r : RouterId) (least : Level) :
    ∀ overrides, (registerGates r least overrides).Regular
  | [] => regular_pure _
  | o :: overrides => by
    unfold registerGates
    split
    · refine (regular_router r).bind fun y => (regular_newHandler _).bind fun gate => ?_
      refine (regular_register r _ _).bind fun result => ?_
      cases result with
      | error e => exact regular_pure _
      | ok id => exact regular_registerGates r least overrides
    · exact regular_registerGates r least overrides

/-- The target of the settings becomes an engine around a stream sink, which is started, or a
handler for the standard error stream. -/
lemma regular_addTarget (r : RouterId) (settings : Settings) :
    (addTarget calls r settings).Regular := by
  unfold addTarget
  split
  · refine (regular_newEngine _ _).bind fun e => ?_
    exact (regular_initEngine hcalls e r).bind fun _ => regular_pure _
  · refine (regular_newHandler _).bind fun h => ?_
    exact (regular_addDefault r _).bind fun _ => regular_pure _

/-- **Building a router from settings is regular**: the router is made, gates are registered, and
its target is added. -/
lemma regular_routerOf (settings : Settings) : (routerOf calls settings).Regular := by
  refine (regular_newRouter _).bind fun r => ?_
  refine (regular_updateRouter r (keeps_capture _)).bind fun _ => ?_
  refine regular_keeping r ((regular_registerGates r _ _).bind fun result => ?_)
  cases result with
  | error e => exact regular_pure _
  | ok _ =>
    refine (regular_addTarget hcalls r settings).bind fun result => ?_
    cases result <;> exact regular_pure _

/-- A configuration is checked first, and a router is built from its settings if it is all right. -/
lemma regular_configure (c : Configuration) : (configure calls c).Regular := by
  unfold configure
  split
  · exact regular_pure _
  · exact regular_routerOf hcalls _

end Handlers

end System

end NamespaceLogging
