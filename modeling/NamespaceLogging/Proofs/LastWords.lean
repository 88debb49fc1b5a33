import NamespaceLogging.Proofs.KillSwitch
import NamespaceLogging.Proofs.CascadeSteps

/-!
# Last words

An engine that is given a record may hand over a batch, may fail once too often, and may then end and say
so.  All of this comes to its end if the hooks of the engine are discreet, and if log calls come to theirs
once the engine is not active any more.

## Main definitions

* `System.Proceeds`: some time in which no engine ended.
* `System.Calms`: an act comes to its end, after a cascade at most.
* `System.LogCallsEnd`: log calls come to their end when fewer than so many engines are active.
* `System.Ready`: a tame system in which they will once an engine has ended.

## Main results

* `System.settles_runScript`: a discreet script comes to its end.
* `System.calms_retire`: an engine ends and says its last word.
* `System.calms_takeRecord`: an engine is given a record.
-/

set_option autoImplicit false

namespace NamespaceLogging

open Act

namespace System

variable {s t u : System} {e : EngineId} {x : Engine} {k : RecordId} {id : SlotId}
  {told told' : List (EngineId × RouterId)}

/-! ## Hooks -/

/-- Nobody said his last word, and no engine has ended. -/
structure Proceeds (s t : System) : Prop extends s.CascadesTo [] t where
  awake : ∀ e, s.Active e → t.Active e

namespace Proceeds

/-- Where nothing happens, no engine ends. -/
lemma refl (s : System) : s.Proceeds s := ⟨.refl s, fun _ h => h⟩

/-- If no engine ends in two stretches of time, none does in both together. -/
lemma trans (hst : s.Proceeds t) (htu : t.Proceeds u) : s.Proceeds u :=
  ⟨hst.toCascadesTo.after htu.toCascadesTo, fun e h => htu.awake e (hst.awake e h)⟩

end Proceeds

/-- Something changed that has nothing to do with engines, slots, names, locks and the journal. -/
lemma Unmoved.proceeds (h : s.Unmoved t) (hst : s.Edited Public t) (hheld : t.held = s.held) :
    s.Proceeds t :=
  ⟨h.cascadesTo hst hheld, fun e he => by rwa [Assembly.Active, h.engines]⟩

/-- Something was written down that is no log call, and that hands nothing to an engine. -/
lemma proceeds_noted (s : System) (entry : Entry) (hsilent : entry.loggedTo? = none)
    (hawake : ∀ e, entry.handedTo? = some e → s.Active e) : s.Proceeds (s.noted entry) :=
  ⟨cascadesTo_noted s entry hsilent hawake, fun _ h => h⟩

/-- An entry that is no log call, and by which no engine is handed anything, ends no engine. -/
lemma proceeds_aside (s : System) (entry : Entry) (hsilent : entry.loggedTo? = none)
    (hnone : entry.handedTo? = none) : s.Proceeds (s.noted entry) :=
  proceeds_noted s entry hsilent fun e he => by simp [hnone] at he

/-- An engine changed, but neither its state nor its scripts. -/
lemma proceeds_onEngine {f : Engine → Engine} (hf : ∀ x : Engine, x.Stays (f x)) :
    s.Proceeds (s.onEngine e f) := by
  refine ⟨cascadesTo_onEngine fun x _ => (hf x).toNotRestarted, fun i hi => ?_⟩
  rw [Assembly.Active, engines_onEngine]
  split
  · rename_i heq
    subst heq
    obtain ⟨x, hx, hstate⟩ := Option.map_eq_some_iff.mp hi
    simp [hx, (hf x).kept, hstate]
  · exact hi

/-- A step that is taken has one call less to make. -/
lemma settles_perform {step : Step} {result : Except Stop Answer}
    (hon : ∀ calls, (perform calls step).on s = (result, t)) (hover : isOver result = true) :
    Settles (fun calls => calls.perform step) s fun answer u => answer = result ∧ u = t := by
  refine ⟨1, result, t, fun depth hdepth => ?_, hover, rfl, rfl⟩
  cases depth with
  | zero => exact absurd hdepth (Nat.not_succ_le_zero 0)
  | succ depth => exact hon _

/-- **A discreet script comes to its end.** -/
lemma settles_runScript (name : String) : ∀ (moves : List (Move Step)) (s : System),
    s.Linked Public → (∀ move ∈ moves, move.Discreet s) →
      Settles (fun calls => runScript calls name moves) s fun _ t => s.Proceeds t
  | [], s, _, _ => settles_of_on (fun _ => rfl) rfl (.refl s)
  | .panic _ :: _, s, _, _ => settles_of_on (fun _ => rfl) rfl (.refl s)
  | .fail _ :: _, s, _, _ => settles_of_on (fun _ => rfl) rfl (.refl s)
  | .take word step :: moves, s, hlinked, hmoves => by
    obtain ⟨result, t, hon, hover, hsame⟩ := hmoves _ List.mem_cons_self s (.refl s) rfl
    have hedits := edits_perform (Reentry.edits_upTo 0) step s hlinked
    rw [hon] at hedits
    have hst : s.Proceeds t := hsame.proceeds hedits.1 (hedits.2.1 hover)
    refine (settles_perform hon hover).bind (fun answer u hu => ?_) fun payload u hu => hu.2 ▸ hst
    obtain ⟨-, rfl⟩ := hu
    have hsu : s.Proceeds (u.noted (.acted name word answer)) :=
      hst.trans (proceeds_aside u _ rfl rfl)
    refine settles_of_eq (fun _ => on_bind_of_ok (on_note _) _) ?_
    refine (settles_runScript name moves _ (hsu.edited.linked hlinked) fun move hmove => ?_).mono
      fun _ v hv => hsu.trans hv
    exact (hmoves move (List.mem_cons_of_mem _ hmove)).later hsu.edited hsu.names

/-- An act without a call back, of which engines do not hear. -/
lemma settles_of_unmoved {α : Type} {act : Act α} (hlinked : s.Linked Public) (hedits : act.Edits Public)
    (hover : isOver (act.on s).1 = true) (hsame : s.Unmoved (act.on s).2) :
    Settles (fun _ => act) s fun _ t => s.Proceeds t :=
  settles_of_on (fun _ => rfl) hover
    (hsame.proceeds (hedits s hlinked).1 ((hedits s hlinked).2.1 hover))

/-- The message of a record is rendered. -/
lemma settles_renderMessage (hlinked : s.Linked Public) (hk : k < s.records.size) :
    Settles (fun _ => renderMessage k) s fun _ t => s.Proceeds t := by
  have hon : (renderMessage k).on s = _ := on_bind_of_ok (on_record (Array.getElem?_eq_getElem hk)) _
  refine settles_of_unmoved hlinked (edits_renderMessage k) ?_ ?_ <;> rw [hon] <;>
    cases s.records[k].render <;> first | rfl | exact ⟨rfl, rfl, rfl, rfl⟩

/-- A built-in sink has worked. -/
lemma proceeds_worked (s : System) (e : EngineId) (sink : StreamSink) (media : Media) :
    s.Proceeds ({ s with media := media }.onEngine e (Engine.withStream sink)) :=
  Proceeds.trans (t := { s with media := media })
    (Unmoved.proceeds ⟨rfl, rfl, rfl, rfl⟩
      (.single (.beside (beside_of_eq rfl rfl rfl rfl rfl rfl rfl rfl rfl))) rfl)
    (proceeds_onEngine fun _ => ⟨⟨fun h => h, nofun, rfl, rfl⟩, rfl⟩)

/-- One act after the other; no engine ends meanwhile. -/
lemma settles_bind {α β : Type} {act : Reentry → Act α} {f : Reentry → α → Act β}
    (hact : Settles act s fun _ t => s.Proceeds t)
    (hf : ∀ a t, s.Proceeds t → Settles (fun calls => f calls a) t fun _ u => t.Proceeds u) :
    Settles (fun calls => act calls >>= f calls) s fun _ u => s.Proceeds u :=
  hact.bind (fun a t hst => (hf a t hst).mono fun _ _ htu => hst.trans htu) fun _ _ hst => hst

/-- Something is written down that is no log call, and that hands nothing to an engine. -/
lemma settles_note (s : System) (entry : Entry) (hsilent : entry.loggedTo? = none)
    (hnone : entry.handedTo? = none) : Settles (fun _ => note entry) s fun _ t => s.Proceeds t :=
  settles_of_on (fun _ => on_note _) rfl (proceeds_aside s entry hsilent hnone)

/-- An engine is changed, but neither its state nor its scripts. -/
lemma settles_updateEngine (s : System) (e : EngineId) {f : Engine → Engine}
    (hf : ∀ x : Engine, x.Stays (f x)) : Settles (fun _ => updateEngine e f) s fun _ t => s.Proceeds t :=
  settles_of_on (fun _ => on_updateEngine _ _) rfl (proceeds_onEngine hf)

/-- A script that was discreet before runs. -/
lemma Proceeds.settles_runScript {moves : List (Move Step)} (hst : s.Proceeds t) (name : String)
    (hlinked : s.Linked Public) (hmoves : ∀ move ∈ moves, move.Discreet s) :
    Settles (fun calls => runScript calls name moves) t fun _ u => t.Proceeds u :=
  System.settles_runScript name moves t (hst.edited.linked hlinked) fun move hmove =>
    (hmoves move hmove).later hst.edited hst.names

section Hooks

variable (hx : s.engines[e]? = some x) (hlinked : s.Linked Public) (hdiscreet : x.sink.Discreet s)

include hx hlinked hdiscreet

/-- The hook for batches. -/
lemma settles_runBatch (batch : List String) :
    Settles (fun calls => runBatch calls e batch) s fun _ t => s.Proceeds t := by
  refine settles_of_eq (fun _ => on_bind_of_ok (on_engine_of_some hx) _) ?_
  cases hsink : x.sink with
  | scripted behaviour =>
    rw [hsink] at hdiscreet
    refine settles_bind (settles_updateEngine s e fun _ => Engine.stays_of_eq rfl rfl rfl rfl)
      fun _ t hst => ?_
    exact hst.settles_runScript _ hlinked (hdiscreet.onBatch _ _)
  | stream sink => exact settles_of_on (fun _ => rfl) rfl (proceeds_worked s e _ _)

/-- The shutdown hook. -/
lemma settles_runShutdown : Settles (fun calls => runShutdown calls e) s fun _ t => s.Proceeds t := by
  refine settles_of_eq (fun _ => on_bind_of_ok (on_engine_of_some hx) _) ?_
  cases hsink : x.sink with
  | scripted behaviour =>
    rw [hsink] at hdiscreet
    refine settles_bind (settles_updateEngine s e fun _ => Engine.stays_of_eq rfl rfl rfl rfl)
      fun _ t hst => ?_
    refine settles_bind (hst.settles_runScript _ hlinked (hdiscreet.onShutdown _)) fun _ u _ => ?_
    exact settles_of_on (fun _ => rfl) rfl (.refl u)
  | stream sink => exact settles_of_on (fun _ => rfl) rfl (proceeds_worked s e _ _)

/-- The hook for records. -/
lemma settles_runRecord (hk : k < s.records.size) :
    Settles (fun calls => runRecord calls e k) s fun _ t => s.Proceeds t := by
  refine settles_of_eq (fun _ => on_bind_of_ok (on_engine_of_some hx) _) ?_
  refine settles_of_eq (fun _ => on_bind_of_ok (on_record (Array.getElem?_eq_getElem hk)) _) ?_
  cases hsink : x.sink with
  | scripted behaviour =>
    rw [hsink] at hdiscreet
    by_cases hleast : s.records[k].level < behaviour.least
    · simp only [hleast, if_true]
      exact settles_of_on (fun _ => rfl) rfl (.refl s)
    · simp only [hleast, if_false]
      refine settles_bind (settles_renderMessage hlinked hk) fun r t hst => ?_
      refine settles_bind (settles_updateEngine t e fun _ => Engine.stays_of_eq rfl rfl rfl rfl)
        fun _ u htu => ?_
      have hrun := (hst.trans htu).settles_runScript behaviour.name hlinked
        (hdiscreet.onRecord x.calls.record r.message)
      exact settles_bind hrun fun _ v _ => settles_of_on (fun _ => rfl) rfl (.refl v)
  | stream sink =>
    cases hline : sink.line? s.records[k] with
    | error fault =>
      exact settles_of_on (fun _ => by simp only [hline]; rfl) rfl (.refl s)
    | ok line =>
      cases line with
      | none => exact settles_of_on (fun _ => by simp only [hline]; rfl) rfl (.refl s)
      | some line =>
        have hupdate := gives_updateRecord (Array.getElem?_eq_getElem hk)
          (level_line hline) hlinked
        have hst : s.Proceeds ((updateRecord k fun _ => line.2).on s).2 :=
          Unmoved.proceeds ⟨rfl, rfl, rfl, rfl⟩ hupdate.1 rfl
        exact settles_of_on (fun _ => by simp only [hline]; rfl) rfl hst

end Hooks

/-! ## Acts that cause a cascade -/

section Calms

variable {α β : Type} {act act' : Reentry → Act α} {f : Reentry → α → Act β}

/-- The act comes to its end, after a cascade at most. -/
def Calms (act : Reentry → Act α) (s : System) : Prop :=
  Settles act s fun _ t => ∃ told, s.CascadesTo told t

/-- An act that comes to its end without ending an engine comes to its end after a cascade at
most. -/
lemma calms_of_proceeds (h : Settles act s fun _ t => s.Proceeds t) : Calms act s :=
  h.mono fun _ _ hst => ⟨[], hst.toCascadesTo⟩

/-- An act that is the same as another one after some time. -/
lemma Calms.later (hon : ∀ calls, (act calls).on s = (act' calls).on t) (hst : s.CascadesTo told t)
    (h : Calms act' t) : Calms act s :=
  (settles_of_eq hon h).mono fun _ _ ⟨_, htu⟩ => ⟨_, hst.trans htu⟩

/-- **One act after the other.** -/
lemma Calms.bind (hact : Calms act s)
    (hf : ∀ a t told, s.CascadesTo told t → Calms (fun calls => f calls a) t) :
    Calms (fun calls => act calls >>= f calls) s :=
  Settles.bind hact (fun a t ⟨told, hst⟩ => (hf a t told hst).mono fun _ _ ⟨_, htu⟩ =>
    ⟨_, hst.trans htu⟩) fun _ _ h => h

/-- What follows an act in which no engine ends. -/
lemma calms_bind (hact : Settles act s fun _ t => s.Proceeds t)
    (hf : ∀ a t, s.Proceeds t → Calms (fun calls => f calls a) t) :
    Calms (fun calls => act calls >>= f calls) s :=
  hact.bind (fun a t hst => (hf a t hst).mono fun _ _ ⟨_, htu⟩ => ⟨_, hst.toCascadesTo.trans htu⟩)
    fun _ _ hst => ⟨[], hst.toCascadesTo⟩

/-- A change that says no last word may follow on an act that comes to its end after a cascade. -/
lemma Calms.after {change : System → System} (hchange : ∀ t : System, t.CascadesTo [] (change t))
    (h : Calms act s) : Calms (fun calls => (act calls).after change) s :=
  Settles.mono (Settles.after h) fun _ _ ⟨t, hu, told, hst⟩ => ⟨told, hu ▸ hst.before (hchange t)⟩

end Calms

/-! ## The end of an engine -/

/-- The queue is dropped. -/
lemma settles_discardQueue (hx : s.engines[e]? = some x) :
    Settles (fun _ => discardQueue e) s fun _ t => s.Proceeds t := by
  have htaken : s.Proceeds (s.onEngine e Engine.takeAll) :=
    proceeds_onEngine fun _ => Engine.stays_of_eq rfl rfl rfl rfl
  refine settles_of_on (fun _ => on_discardQueue hx) rfl (htaken.trans ?_)
  exact proceeds_aside _ _ rfl rfl

/-- An engine is closed; its shutdown hook may panic. -/
lemma settles_close (hx : s.engines[e]? = some x) (hlinked : s.Linked Public)
    (hdiscreet : x.sink.Discreet s) :
    Settles (fun calls => close calls e) s fun _ t => s.Proceeds t := by
  refine settles_bind (settles_updateEngine s e fun _ => Engine.stays_of_eq rfl rfl rfl rfl)
    fun _ t hst => ?_
  refine settles_bind (settles_note t _ rfl rfl) fun _ u htu => ?_
  have hsu := hst.trans htu
  obtain ⟨y, hy, hdiscreet'⟩ := hsu.exists_discreet hx hdiscreet
  have hrun := settles_runShutdown hy (hsu.edited.linked hlinked) hdiscreet'
  refine settles_bind (hrun.contain.mono fun _ _ h => h.2.choose_spec) fun caught v _ => ?_
  cases caught with
  | ok _ => exact settles_note v _ rfl rfl
  | error payload =>
    refine settles_bind (settles_note v _ rfl rfl) fun _ w _ => ?_
    exact settles_of_on (fun _ => on_throw _) rfl (.refl w)

/-- An engine says its last word, and a cascade follows. -/
lemma CascadesTo.announce {r : RouterId} {errors : Nat} {error : AspectError} {name : String}
    (hsu : s.CascadesTo [] u) (hbefore : s.Attached e r) (hafter : ¬ u.Active e) (hfreed : u.Freed e r)
    (hut : ((u.noted (.disabled e errors error)).noted
      (.logged r (lastRecord name errors error))).CascadesTo told t) :
    s.CascadesTo ((e, r) :: told) t where
  toStartsNothing := ((hsu.toStartsNothing.trans (startsNothing_noted u _)).trans (startsNothing_noted _ _)).trans hut.toStartsNothing
  moments := by
    obtain ⟨new, hnew, hcascade⟩ := hsu.moments
    obtain ⟨new', hnew', hcascade'⟩ := hut.moments
    have hword : Cascade (⟨.disabled e errors error, u.toAssembly⟩ ::
        ⟨.logged r (lastRecord name errors error), u.toAssembly⟩ :: new') ((e, r) :: told) :=
      .told rfl rfl hcascade'
    exact ⟨_, by simp [hnew', hnew], hcascade.append hword⟩
  once := by
    refine List.nodup_cons.mpr ⟨fun hmem => ?_, hut.once⟩
    obtain ⟨p, hp, rfl⟩ := List.mem_map.mp hmem
    exact hafter (active_of_attached (hut.ended p hp).1)
  ended := by
    refine List.forall_mem_cons.mpr ⟨⟨hbefore, fun h => hafter (hut.active h)⟩, fun p hp => ?_⟩
    exact ⟨hsu.attached (hut.ended p hp).1, (hut.ended p hp).2⟩
  freed := by
    refine List.forall_mem_cons.mpr ⟨?_, hut.freed⟩
    obtain ⟨m, hm, hleft⟩ := hfreed
    obtain ⟨new, hnew, -⟩ := hut.moments
    exact ⟨m, by simp [hnew, hm], hleft⟩

/-- With fewer than so many active engines, log calls come to their end.  If the router lets the call
through, a cascade follows; otherwise nothing happens. -/
def LogCallsEnd (height : SlotId → Nat) (n : Nat) : Prop :=
  ∀ (s : System) (r : RouterId) (y : Router) (call : LogCall), s.Tame height → s.held = [] →
    s.actives.card < n → s.routers[r]? = some y →
      Settles (fun calls => log calls r call) s fun result t =>
        result = .ok () ∧ if y.filter.any (fun set => set.contains call.level) then
          ∃ told, (s.noted (.logged r call)).CascadesTo told t else t = s

/-- An engine says its last word. -/
lemma settles_farewell {height : SlotId → Nat} {n : Nat} (hs : s.Tame height) (hfree : s.held = [])
    (hlogCalls : LogCallsEnd height n) (hcard : s.actives.card < n) (through : Option RouterId)
    (hrouter : ∀ r, through = some r → ∃ y, s.routers[r]? = some y) (name : String) (errors : Nat)
    (error : AspectError) :
    Settles (fun calls => do
      note (.disabled e errors error)
      match through with
      | some r => log calls r (lastRecord name errors error)
      | none => pure ()) s fun _ t =>
        s.CascadesTo [] t ∨ ∃ r told, through = some r ∧
          ((s.noted (.disabled e errors error)).noted
            (.logged r (lastRecord name errors error))).CascadesTo told t := by
  have hnoted : s.CascadesTo [] (s.noted (.disabled e errors error)) :=
    (proceeds_aside s _ rfl rfl).toCascadesTo
  refine settles_of_eq (fun _ => on_bind_of_ok (on_note _) _) ?_
  cases through with
  | none => exact settles_of_on (fun _ => rfl) rfl (.inl hnoted)
  | some r =>
    obtain ⟨y, hy⟩ := hrouter r rfl
    refine (hlogCalls _ r y _ (hnoted.tame hs) hfree hcard hy).mono fun _ t ⟨_, ht⟩ => ?_
    split at ht
    · obtain ⟨told, htold⟩ := ht
      exact .inr ⟨r, told, rfl, htold⟩
    · exact .inl (ht ▸ hnoted)

/-- A tame system in which no lock is held; log calls come to their end once an engine has ended. -/
structure Ready (height : SlotId → Nat) (s : System) : Prop where
  tame : s.Tame height
  free : s.held = []
  logCallsEnd : LogCallsEnd height s.actives.card

/-- A system that is ready stays so as long as nothing is started. -/
lemma StartsNothing.ready {height : SlotId → Nat} (h : s.StartsNothing t) (hs : s.Ready height) :
    t.Ready height where
  tame := h.tame hs.tame
  free := h.held.trans hs.free
  logCallsEnd v r y call htame hfree hcard hy :=
    hs.logCallsEnd v r y call htame hfree (Nat.lt_of_lt_of_le hcard h.card_le) hy

/-- An engine that leaves its router changes neither names nor slots. -/
lemma names_released (a : Assembly) (x : Engine) :
    (a.released x).names = a.names ∧ (a.released x).slots = a.slots := by
  unfold Assembly.released Assembly.detached
  repeat' split
  all_goals exact ⟨rfl, rfl⟩

section Engines

variable {height : SlotId → Nat} (hs : s.Ready height) (hx : s.engines[e]? = some x)
  (hactive : x.state = .active)

include hs hx hactive

/-- An active engine takes its last record and leaves its router. -/
lemma settles_deactivate (why : Ending) : (deactivate e why).on s = (.ok true, s.left e x why) ∧
    s.CascadesTo [] (s.left e x why) ∧ ¬ (s.left e x why).Active e := by
  obtain ⟨-, hstarting, hrouter⟩ := hs.tame.engines e x hx hactive
  have hon : (deactivate e why).on s = (.ok true, s.left e x why) := by
    refine on_deactivate why hx hactive hstarting fun r hr => ?_
    obtain ⟨y, hy⟩ := hrouter r hr
    exact ⟨y, hy, (hs.tame.linked.routers r y hy).defaults⟩
  have hedits := edits_deactivate e why s hs.tame.linked
  rw [hon] at hedits
  set t := (s.onEngine e Engine.deactivate).noted (.deactivated e why)
  have hdown : s.CascadesTo [] (s.onEngine e Engine.deactivate) := by
    refine cascadesTo_onEngine fun y _ => ⟨fun h => ?_, fun _ h => h, rfl, rfl⟩
    simp [Engine.deactivate] at h
  have hst : s.CascadesTo [] t := hdown.after (proceeds_aside _ _ rfl rfl).toCascadesTo
  have hengines : (s.left e x why).engines = t.engines := Assembly.engines_released ..
  obtain ⟨hnames, hslots⟩ := names_released t.toAssembly x
  refine ⟨hon, ?_, ?_⟩
  · exact { hst with
      edited := hedits.1
      names := hnames
      slots := hslots
      engines := fun i y hy => hst.engines i y (hengines ▸ hy)
      ended := by simp
      freed := by simp }
  · rw [Assembly.Active, hengines]
    have hself : t.engines[e]? = some x.deactivate := engines_onEngine_self hx
    simp [hself, Engine.deactivate]

/-- An engine that failed too often is shut down, and says so through a router that can be reached. -/
lemma calms_retire (through : Option RouterId) (name : String) (errors : Nat) (error : AspectError)
    (hthrough : ∀ r, through = some r → x.router = some r ∧ s.isAlive r = true) :
    Calms (fun calls => retire calls e through name errors error) s := by
  obtain ⟨hdiscreet, -, hrouter⟩ := hs.tame.engines e x hx hactive
  obtain ⟨hon, hleft, hended⟩ := settles_deactivate hs hx hactive .failing
  have hbefore : s.Active e := (active_of_some hx).mpr hactive
  set u := s.left e x .failing
  have hu := hleft.ready hs
  obtain ⟨y, hy, hydiscreet⟩ := hleft.exists_discreet hx hdiscreet
  refine settles_of_eq (fun _ => on_bind_of_ok hon _) ?_
  simp only [if_true]
  refine Settles.bind (settles_close hy hu.tame.linked hydiscreet) (fun _ v huv => ?_)
    fun _ v huv => ⟨[], hleft.after huv.toCascadesTo⟩
  obtain ⟨z, hz, -⟩ := huv.exists_engine hy
  refine Settles.bind (settles_discardQueue hz) (fun _ w hvw => ?_)
    fun _ w hvw => ⟨[], hleft.after (huv.trans hvw).toCascadesTo⟩
  have huw := huv.trans hvw
  have hsw := hleft.after huw.toCascadesTo
  have hgone : ¬ w.Active e := fun h => hended (huw.active h)
  refine (settles_farewell (hsw.tame hs.tame) (hsw.held.trans hs.free) hs.logCallsEnd
    (hsw.card_lt hbefore hgone) through (fun r hr => ?_) name errors error).mono fun _ t ht => ?_
  · obtain ⟨y, hy⟩ := hrouter r (hthrough r hr).1
    obtain ⟨y', hy', -⟩ := hsw.edited.upholds.routers r y hy
    exact ⟨y', hy'⟩
  · rcases ht with hwt | ⟨r, told, hr, hwt⟩
    · exact ⟨[], hsw.after hwt⟩
    · refine ⟨_, hsw.announce ⟨x, hx, hactive, (hthrough r hr).1⟩ hgone ?_ hwt⟩
      obtain ⟨new, hnew, -⟩ := huw.moments
      refine ⟨⟨.deactivated e .failing, (s.onEngine e Engine.deactivate).toAssembly⟩, ?_, ⟨_, rfl⟩,
        (hthrough r hr).2⟩
      have hmoments : u.moments = s.moments ++
          [⟨.deactivated e .failing, (s.onEngine e Engine.deactivate).toAssembly⟩] := moments_noted _
      simp [hnew, hmoments]

/-- The router is kept alive while the engine is shut down. -/
lemma calms_disable (errors : Nat) (error : AspectError) :
    Calms (fun calls => disable calls e errors error) s := by
  refine settles_of_eq (fun calls => on_disable calls hx errors error) ?_
  cases hrouter : x.router.filter s.isAlive with
  | none => exact calms_retire hs hx hactive none x.sink.name errors error nofun
  | some r =>
    obtain ⟨hr, -⟩ := Option.filter_eq_some_iff.mp hrouter
    have hsame : ∀ (t : System) (inUse : List RouterId), t.CascadesTo [] { t with inUse := inUse } :=
      fun t inUse => Unmoved.cascadesTo ⟨rfl, rfl, rfl, rfl⟩
        (.single (.beside (beside_of_eq rfl rfl rfl rfl rfl rfl rfl rfl rfl))) rfl
    have hkept := hsame s (r :: s.inUse)
    refine Calms.later (fun _ => on_bind_of_ok (on_modify _) _) hkept ?_
    refine Calms.after (fun t => hsame t _) ?_
    refine calms_retire (hkept.ready hs) hx hactive (some r) x.sink.name errors error fun r' hr' => ?_
    obtain rfl := Option.some.inj hr'
    exact ⟨hr, by simp [Assembly.isAlive]⟩

/-- A failed batch is counted. -/
lemma calms_countFailure (error : AspectError) :
    Calms (fun calls => countFailure calls e error) s := by
  have hcounted : s.Proceeds (s.onEngine e Engine.countFailure) :=
    proceeds_onEngine fun _ => Engine.stays_of_eq rfl rfl rfl rfl
  have hnoted := hcounted.trans (proceeds_aside _ (.batchOver e (some error)) rfl rfl)
  by_cases hlimit : x.threshold ≤ x.errors + 1
  · refine Calms.later (fun calls => (on_countFailure calls hx error).trans (if_pos ⟨hlimit, hactive⟩))
      hnoted.toCascadesTo ?_
    exact calms_disable (hnoted.ready hs) (engines_onEngine_self hx) hactive _ error
  · exact settles_of_on
      (fun calls => (on_countFailure calls hx error).trans (if_neg fun h => hlimit h.1)) rfl
      ⟨[], hnoted.toCascadesTo⟩

/-- The queue is handed over as a batch. -/
lemma calms_drain : Calms (fun calls => drain calls e) s := by
  have hbefore : s.Active e := (active_of_some hx).mpr hactive
  obtain ⟨hdiscreet, -, -⟩ := hs.tame.engines e x hx hactive
  refine settles_of_eq (fun _ => on_bind_of_ok (on_engine_of_some hx) _) ?_
  by_cases hclosed : x.closed = true
  · simp only [hclosed, if_true]
    refine calms_bind (settles_discardQueue hx) fun _ t _ => ?_
    exact settles_of_on (fun _ => rfl) rfl ⟨[], .refl t⟩
  by_cases hempty : x.queue.isEmpty = true
  · simp only [hclosed, hempty, if_true]
    exact settles_of_on (fun _ => rfl) rfl ⟨[], .refl s⟩
  simp only [hclosed, hempty]
  refine calms_bind (settles_updateEngine s e fun _ => Engine.stays_of_eq rfl rfl rfl rfl)
    fun _ t hst => ?_
  have hhanded : t.Proceeds (t.noted (.hook e (.batch x.queue))) := by
    refine proceeds_noted t _ rfl fun i hi => ?_
    obtain rfl := Option.some.inj hi
    exact hst.awake e hbefore
  refine calms_bind (settles_of_on (fun _ => on_note _) rfl hhanded) fun _ u htu => ?_
  have hsu := hst.trans htu
  obtain ⟨y, hy, hydiscreet⟩ := hsu.exists_discreet hx hdiscreet
  have hrun := settles_runBatch hy (hsu.edited.linked hs.tame.linked) hydiscreet x.queue
  refine calms_bind (hrun.contain.mono fun _ _ h => h.2.choose_spec) fun result v huv => ?_
  have hsv := hsu.trans huv
  obtain ⟨z, hz, -⟩ := hsv.exists_engine hx
  have hzactive : z.state = .active := (active_of_some hz).mp (hsv.awake e hbefore)
  refine Calms.bind ?_ fun _ w _ _ => settles_of_on (fun _ => rfl) rfl ⟨[], .refl w⟩
  cases failure? result with
  | none =>
    exact calms_of_proceeds (settles_note v _ rfl rfl)
  | some error => exact calms_countFailure (hsv.ready hs) hz hzactive error

/-- The queue is handed over, unless a thread does so already. -/
lemma calms_tryDrain : Calms (fun calls => tryDrain calls e) s := by
  refine settles_of_eq (fun _ => on_bind_of_ok (on_engine_of_some hx) _) ?_
  cases x.drainer with
  | some thread => exact settles_of_on (fun _ => rfl) rfl ⟨[], .refl s⟩
  | none =>
    have hset : ∀ (t : System) (f : Engine → Engine), (∀ y : Engine, y.Stays (f y)) →
        t.CascadesTo [] (t.onEngine e f) := fun t f hf => (proceeds_onEngine hf).toCascadesTo
    have hbegun := hset s (Engine.beginDrain s.thread.id) fun _ => Engine.stays_of_eq rfl rfl rfl rfl
    refine Calms.bind ?_ fun _ t _ _ => settles_of_on (fun _ => rfl) rfl ⟨[], .refl t⟩
    refine Calms.later (fun _ => on_bind_of_ok on_get _) (.refl s) ?_
    refine Calms.later (fun _ => on_bind_of_ok (on_updateEngine _ _) _) hbegun ?_
    refine Calms.after (fun t => hset t _ fun _ => Engine.stays_of_eq rfl rfl rfl rfl) ?_
    exact calms_drain (hbegun.ready hs) (engines_onEngine_self hx) hactive

end Engines

/-- **An engine is given a record.**  Only an active one hands it to its sink. -/
lemma calms_takeRecord {height : SlotId → Nat} (hs : s.Ready height) (he : e < s.engines.length)
    (hk : k < s.records.size) : Calms (fun calls => takeRecord calls e k) s := by
  obtain ⟨x, hx⟩ : ∃ x, s.engines[e]? = some x := ⟨_, List.getElem?_eq_getElem he⟩
  refine settles_of_eq (fun _ => on_bind_of_ok (on_engine_of_some hx) _) ?_
  by_cases hactive : x.state = .active
  · have hbefore : s.Active e := (active_of_some hx).mpr hactive
    have hawake : ∀ {t : System}, s.Proceeds t → ∀ i, some e = some i → t.Active i := by
      rintro t hst i hi
      obtain rfl := Option.some.inj hi
      exact hst.awake e hbefore
    obtain ⟨hdiscreet, -, -⟩ := hs.tame.engines e x hx hactive
    simp only [hactive, beq_self_eq_true, if_true]
    have hhanded := proceeds_noted s (.hook e (.record k)) rfl (hawake (.refl s))
    refine calms_bind (settles_of_on (fun _ => on_note _) rfl hhanded) fun _ t hst => ?_
    obtain ⟨y, hy, hydiscreet⟩ := hst.exists_discreet hx hdiscreet
    have hrun := settles_runRecord hy (hst.edited.linked hs.tame.linked) hydiscreet
      (hst.edited.upholds.records hk)
    refine calms_bind hrun fun object? u htu => ?_
    cases object? with
    | none => exact settles_of_on (fun _ => rfl) rfl ⟨[], .refl u⟩
    | some object =>
      refine calms_bind (settles_updateEngine u e fun _ => Engine.stays_of_eq rfl rfl rfl rfl)
        fun _ v huv => ?_
      have hsv := (hst.trans htu).trans huv
      have hqueued := proceeds_noted v (.queued e object) rfl (hawake hsv)
      refine calms_bind (settles_of_on (fun _ => on_note _) rfl hqueued) fun _ w hvw => ?_
      have hsw := hsv.trans hvw
      obtain ⟨z, hz, -⟩ := hsw.exists_engine hx
      have hzactive : z.state = .active := (active_of_some hz).mp (hsw.awake e hbefore)
      refine Calms.bind (calms_tryDrain (hsw.ready hs) hz hzactive) fun _ w' _ _ => ?_
      exact settles_of_on (fun _ => rfl) rfl ⟨[], .refl w'⟩
  · simp only [beq_iff_eq, hactive, if_false]
    exact settles_of_on (fun _ => rfl) rfl ⟨[], .refl s⟩

end System

end NamespaceLogging
