import NamespaceLogging.Proofs.EditingRouters
import NamespaceLogging.Proofs.Starting

/-!
# Engines and handlers that edit

What engines and handlers do, and what happens in the life of a router, is one edit after the other,
whatever the scripts of hooks and handlers say.  A secret record may be handed to a handler, as long as
the handler is no gate: it keeps the record to itself.

## Main results

* `System.edits_takeRecord`, `System.edits_stopEngine`, `System.edits_initEngine`: engines.
* `System.gives_handlePlain`, `System.edits_handle`: handlers at work.
* `System.edits_shutdown`, `System.edits_configure`: the life of a router.
-/

set_option autoImplicit false

namespace NamespaceLogging

open Act

namespace System

variable {α : Type} {secret : RecordId → Prop} {s t u : System} {e : EngineId} {r : RouterId}
  {calls : Reentry} (hcalls : calls.Edits secret)

include hcalls

/-! ## Hooks -/

/-- **A script edits**, whatever it says. -/
lemma edits_runScript (name : String) : ∀ moves, (runScript calls name moves).Edits secret
  | [] => edits_pure _
  | .panic payload :: _ => edits_throw _
  | .fail error :: _ => edits_pure _
  | .take word step :: moves => by
    refine (hcalls.perform step).bind fun answer => (edits_note_other (by simp)).bind fun _ => ?_
    exact edits_runScript name moves

/-- The init hook edits: a script does by what calls back, and opening a target changes no
reference. -/
lemma edits_runInit (e : EngineId) : (runInit calls e).Edits secret := by
  refine fun s => gives_engine fun x _ => ?_
  cases x.sink with
  | scripted behaviour =>
    exact ((edits_updateEngine e _).bind fun _ => edits_runScript hcalls _ _) s
  | stream sink =>
    exact gives_get (((edits_setMedia _).bind fun _ => (edits_updateEngine e _).bind fun _ =>
      edits_pure _) s)

/-- The batch hook edits, whether it runs a script or writes to a target. -/
lemma edits_runBatch (e : EngineId) (batch : List String) : (runBatch calls e batch).Edits secret := by
  refine fun s => gives_engine fun x _ => ?_
  cases x.sink with
  | scripted behaviour =>
    exact ((edits_updateEngine e _).bind fun _ => edits_runScript hcalls _ _) s
  | stream sink =>
    exact gives_get (((edits_setMedia _).bind fun _ => (edits_updateEngine e _).bind fun _ =>
      edits_pure _) s)

/-- The shutdown hook edits, whether it runs a script or closes a target. -/
lemma edits_runShutdown (e : EngineId) : (runShutdown calls e).Edits secret := by
  refine fun s => gives_engine fun x _ => ?_
  cases x.sink with
  | scripted behaviour =>
    exact ((edits_updateEngine e _).bind fun _ => (edits_runScript hcalls _ _).bind fun _ =>
      edits_pure _) s
  | stream sink =>
    exact gives_get (((edits_setMedia _).bind fun _ => edits_updateEngine e _) s)

/-- The hook that makes an object of a record edits; all that it does to the record is to render
it. -/
lemma edits_runRecord (e : EngineId) (id : RecordId) : (runRecord calls e id).Edits secret := by
  refine fun s => gives_engine fun x _ => gives_record fun rec hrec => ?_
  cases x.sink with
  | scripted behaviour =>
    dsimp only
    split
    · exact gives_pure trivial
    · exact ((edits_renderMessage id).bind fun _ => (edits_updateEngine e _).bind fun _ =>
        (edits_runScript hcalls _ _).bind fun _ => edits_pure _) s
  | stream sink =>
    refine gives_orPanic fun line hline => ?_
    cases line with
    | none => exact gives_pure trivial
    | some line =>
      exact (gives_updateRecord hrec (level_line hline)).bind fun _ _ _ _ => gives_pure trivial

/-! ## The end of an engine -/

/-- Closing an engine edits: the engine gets a mark, and its shutdown hook is called. -/
lemma edits_close (e : EngineId) : (close calls e).Edits secret := by
  refine (edits_updateEngine e _).bind fun _ => (edits_note_other (by simp)).bind fun _ => ?_
  refine (edits_runShutdown hcalls e).contain.bind fun result => ?_
  cases result with
  | ok _ => exact edits_note_other (by simp)
  | error payload => exact (edits_note_other (by simp)).bind fun _ => edits_throw _

omit hcalls in
/-- Deactivating an engine edits: it is taken out of its router, and nothing gets into one. -/
lemma edits_deactivate (e : EngineId) (why : Ending) : (deactivate e why).Edits secret := by
  refine fun s => gives_engine fun x _ => ?_
  dsimp only
  split
  · exact gives_of_error (on_bind_of_error (on_throw _) _) (.refl s) rfl
  split
  · exact gives_pure trivial
  refine gives_get (Edits.bind (edits_updateEngine e _) (fun _ => ?_) s)
  refine (edits_note_other (by simp)).bind fun _ => ?_
  split
  · split
    · exact (edits_detach _ _).bind fun _ => edits_pure _
    · exact edits_pure _
  · exact edits_pure _

omit hcalls in
/-- Dropping the queue of an engine is an edit. -/
lemma edits_discardQueue (e : EngineId) : (discardQueue e).Edits secret :=
  fun s => gives_engine fun _ _ => ((edits_updateEngine e _).bind fun _ =>
    edits_note_other (by simp)) s

omit hcalls in
/-- What is done with the router of an engine, if that can be reached, edits if it does so by
itself. -/
lemma edits_withRouter {act : Act Unit} (r : Option RouterId) (hact : act.Edits secret) :
    (withRouter r act).Edits secret := by
  cases r with
  | none => exact hact
  | some r => exact edits_keeping r hact

/-- An engine that fails too often edits at its end: it leaves, is closed, and logs its last
record. -/
lemma edits_retire (e : EngineId) (through : Option RouterId) (name : String) (errors : Nat)
    (error : AspectError) : (retire calls e through name errors error).Edits secret := by
  refine (edits_deactivate e _).bind fun active => ?_
  cases active with
  | false => exact edits_pure _
  | true =>
    refine (edits_close hcalls e).bind fun _ => (edits_discardQueue e).bind fun _ => ?_
    refine (edits_note_other (by simp)).bind fun _ => ?_
    cases through with
    | some r => exact edits_log hcalls r _
    | none => exact edits_pure _

/-- Counting a failed batch edits, also if it is the one too many. -/
lemma edits_countFailure (e : EngineId) (error : AspectError) :
    (countFailure calls e error).Edits secret := by
  refine (edits_updateEngine e _).bind fun _ => (edits_note_other (by simp)).bind fun _ s => ?_
  refine gives_engine fun x _ => ?_
  split
  · exact gives_engine fun y _ => gives_get (edits_withRouter _ (edits_retire hcalls e _ _ _ _) s)
  · exact gives_pure trivial

/-! ## Draining -/

/-- One round of a drain edits: a batch is handed over, and its end is counted. -/
lemma edits_drain (e : EngineId) : (drain calls e).Edits secret := by
  refine fun s => gives_engine fun x _ => ?_
  split
  · exact ((edits_discardQueue e).bind fun _ => edits_pure _) s
  · split
    · exact gives_pure trivial
    · refine Edits.bind (edits_updateEngine e _) (fun _ => ?_) s
      refine (edits_note_other (by simp)).bind fun _ => ?_
      refine (edits_runBatch hcalls e _).contain.bind fun result => ?_
      refine Edits.bind ?_ fun _ => edits_pure _
      cases failure? result with
      | none => exact edits_note_other (by simp)
      | some error => exact edits_countFailure hcalls e error

/-- Rounds of a drain edit, up to any number of them.  The induction is on this number. -/
lemma edits_drainAll (e : EngineId) : ∀ rounds, (drainAll calls e rounds).Edits secret
  | 0 => edits_throw _
  | rounds + 1 => by
    refine (edits_drain hcalls e).bind fun n => ?_
    split
    · exact edits_pure _
    · exact edits_drainAll e rounds

omit hcalls in
/-- An act that edits does so while its thread has the drain flag. -/
lemma edits_asDrainer {act : Act α} (e : EngineId) (hact : act.Edits secret) :
    (asDrainer e act).Edits secret :=
  fun s => gives_get (((edits_updateEngine e _).bind fun _ =>
    hact.after fun _ => beside_onEngine e _) s)

omit hcalls in
/-- What is done with the drain flag, or instead of it where the flag is taken, edits if both do. -/
lemma edits_whenDraining {act already : Act Unit} (e : EngineId) (hact : act.Edits secret)
    (halready : already.Edits secret) : (whenDraining e act already).Edits secret := by
  refine fun s => gives_engine fun x _ => ?_
  cases x.drainer with
  | none => exact edits_asDrainer e hact s
  | some thread =>
    refine gives_get ?_
    split
    · exact halready s
    · exact gives_throw _

/-- Draining an engine once edits. -/
lemma edits_tryDrain (e : EngineId) : (tryDrain calls e).Edits secret := by
  refine fun s => gives_engine fun x _ => ?_
  cases x.drainer with
  | some _ => exact gives_pure trivial
  | none => exact ((edits_asDrainer e (edits_drain hcalls e)).bind fun _ => edits_pure _) s

/-- Flushing an engine edits. -/
lemma edits_flush (e : EngineId) : (flush calls e).Edits secret :=
  edits_whenDraining e (edits_drainAll hcalls e _) (edits_pure _)

/-- An engine keeps a record to itself, even a secret one. -/
lemma edits_takeRecord (e : EngineId) (id : RecordId) : (takeRecord calls e id).Edits secret := by
  refine fun s => gives_engine fun x _ => ?_
  split
  · refine Edits.bind (edits_note_other (by simp)) (fun _ => ?_) s
    refine (edits_runRecord hcalls e id).bind fun object => ?_
    cases object with
    | none => exact edits_pure _
    | some object =>
      refine (edits_updateEngine e _).bind fun _ => (edits_note_other (by simp)).bind fun _ => ?_
      exact (edits_tryDrain hcalls e).bind fun _ => edits_pure _
  · exact gives_pure trivial

/-- **Stopping an engine.** -/
lemma edits_stopEngine (e : EngineId) : (stopEngine calls e).Edits secret := by
  refine (edits_deactivate e _).bind fun active => ?_
  cases active with
  | false => exact edits_pure _
  | true =>
    exact edits_whenDraining e ((edits_drainAll hcalls e _).bind fun _ => edits_close hcalls e)
      (edits_close hcalls e)

/-! ## Starting -/

/-- Starting an engine edits: its init hook is called, and its failures are counted from zero. -/
lemma edits_startEngine (e : EngineId) : (startEngine calls e).Edits secret :=
  (edits_updateEngine e _).bind fun _ => (edits_note_other (by simp)).bind fun _ =>
    (edits_runInit hcalls e).after fun _ => beside_onEngine e _

omit hcalls in
/-- Attaching an engine that is there to a router edits: the slot for it is new. -/
lemma gives_attachEngine (hknown : e < s.engines.length) :
    (attachEngine e r).Gives secret s fun _ _ => True := by
  cases hy : s.routers[r]? with
  | none => exact gives_of_error (on_attachEngine_of_none e hy) (.refl s) rfl
  | some y =>
    obtain ⟨lock, locks, -, hon⟩ := on_attachEngine e hy
    have hlocks : s.Edited secret (s.relocked r locks) := edited_relocked hy locks
    have hknown' : (s.relocked r locks).Knows (.engine e) := hknown
    exact gives_of_ok hon (hlocks.tail (.attached lock hknown' (router_relocked hy locks))) rfl trivial

/-- **Starting an engine.** -/
lemma edits_initEngine (e : EngineId) (r : RouterId) : (initEngine calls e r).Edits secret := by
  refine fun s => gives_engine fun x hx => ?_
  have hknown : e < s.engines.length := (List.getElem?_eq_some_iff.mp hx).1
  dsimp only
  split
  · exact gives_of_error (on_bind_of_error (on_throw _) _) (.refl s) rfl
  cases x.state with
  | active => exact gives_pure trivial
  | shutDown => exact gives_pure trivial
  | uninitialized =>
    refine Gives.bind (edits_startEngine hcalls e s) fun result t hst _ => ?_
    cases result with
    | error error => exact gives_pure trivial
    | ok _ =>
      have hknown' : e < t.engines.length := Nat.lt_of_lt_of_le hknown hst.upholds.engines
      exact (gives_attachEngine hknown').bind fun _ _ _ _ => gives_pure trivial

/-! ## Handlers -/

omit hcalls in
/-- Writing to the standard error stream is an edit. -/
lemma edits_writeError (text : String) : (writeError text).Edits secret :=
  fun s => gives_get (edits_setMedia _ s)

omit hcalls in
/-- The records that a handler keeps, as it is then. -/
lemma gives_memoryRecords {β : Type} {f : List RecordId → Act β} {h : HandlerId}
    {Q : β → System → Prop}
    (hf : ∀ kept : List RecordId, s.handlers[h]? = some (.memory kept) →
      (f kept.reverse).Gives secret s Q) : (memoryRecords h >>= f).Gives secret s Q := by
  unfold memoryRecords
  rw [bind_assoc]
  refine gives_handler fun x hx => ?_
  cases x with
  | memory kept =>
    exact gives_of_on (on_bind_of_ok (on_pure _) f) (.refl s) rfl (hf kept hx)
  | _ =>
    exact gives_of_error (on_bind_of_error (on_throw _) f) (.refl s) rfl

omit hcalls in
/-- Draining a memory handler edits: it renders the records, and forgets them. -/
lemma edits_drainMemory (h : HandlerId) : (drainMemory h).Edits secret := by
  refine fun s => gives_memoryRecords fun kept hkept => ?_
  refine Gives.bind (edits_mapM _ (fun r _ => edits_renderMessage r) s) fun records t hst _ => ?_
  refine Gives.bind (gives_updateHandler hkept hst ?_) fun _ _ _ _ => gives_pure trivial
  rfl

omit hcalls in
/-- Looking at the records of a memory handler edits: it renders them. -/
lemma edits_inspectMemory (h : HandlerId) : (inspectMemory h).Edits secret :=
  fun s => gives_memoryRecords fun _ _ => edits_mapM _ (fun r _ s => gives_record fun _ _ =>
    ((edits_renderMessage r).bind fun _ => edits_pure _) s) s

/-- **A handler that is no engine.**  What is no gate keeps a record to itself, even a secret one. -/
lemma gives_handlePlain {h : HandlerId} {k : RecordId}
    (hopen : ∀ filter g, s.handlers[h]? = some (.gate filter g) → ¬ secret k) :
    (handlePlain calls h k).Gives secret s fun _ _ => True := by
  refine gives_handler fun x hx => ?_
  cases x with
  | memory kept => exact gives_updateHandler hx (.refl s) rfl
  | stderr layout =>
    exact Edits.bind (edits_layOut layout k) (fun _ => edits_writeError _) s
  | gate filter next =>
    refine gives_record fun rec _ => ?_
    split
    · exact edits_dispatchGroup hcalls (hopen filter next hx) next s
    · exact gives_pure trivial
  | scripted behaviour n deaths =>
    refine (edits_renderMessage k s).bind fun rec t hst _ => ?_
    refine Gives.bind (gives_updateHandler hx hst ?_) fun _ u _ _ => ?_
    · rfl
    · exact ((edits_note_other (by simp)).bind fun _ => (edits_runScript hcalls _ _).bind fun _ =>
        edits_pure _) u

/-- **Handlers at work.** -/
lemma edits_handle (h : HandlerRef) {k : RecordId} (hopen : ¬ secret k) :
    (handle calls h k).Edits secret := by
  cases h with
  | plain h => exact fun s => gives_handlePlain hcalls fun _ _ _ => hopen
  | engine e => exact edits_takeRecord hcalls e k

/-- Telling a handler that the end is near edits, whichever kind of handler it is. -/
lemma edits_prepareToDie (h : HandlerRef) : (prepareToDie calls h).Edits secret := by
  cases h with
  | engine e => exact edits_flush hcalls e
  | plain h =>
    refine fun s => gives_handler fun x hx => ?_
    cases x with
    | scripted behaviour n deaths =>
      refine Gives.bind (gives_updateHandler hx (.refl s) ?_) fun _ t _ _ => ?_
      · rfl
      · exact ((edits_note_other (by simp)).bind fun _ => (edits_runScript hcalls _ _).bind fun _ =>
          edits_pure _) t
    | _ => exact gives_pure trivial

/-- Telling the handler of a slot so edits. -/
lemma edits_dieSlot (id : SlotId) : (dieSlot calls id).Edits secret :=
  fun s => gives_slot fun x _ => ((edits_note_other (by simp)).bind fun _ =>
    edits_holding x.lock (edits_prepareToDie hcalls x.handler)) s

/-- Telling several slots, one after the other, edits.  The induction is on the slots. -/
lemma edits_dieAll : ∀ ids, (dieAll calls ids).Edits secret
  | [] => edits_pure _
  | id :: ids => (edits_dieSlot hcalls id).bind fun _ => edits_dieAll ids

/-! ## The life of a router -/

/-- Stopping several engines, one after the other, edits.  The induction is on the engines. -/
lemma edits_stopAll : ∀ entries, (stopAll calls entries).Edits secret
  | [] => edits_pure _
  | entry :: entries => (edits_stopEngine hcalls entry.2).bind fun _ => edits_stopAll entries

/-- What is done when a router has gone dark. -/
lemma edits_tearDown (r : RouterId) (y : Router) : (do
    stopAll calls y.aspects
    let members ← takeMembers y.defaults
    note (.cleared r members)
    dieAll calls members
    dieAll calls (← clearRegistry r) : Act Unit).Edits secret := by
  refine (edits_stopAll hcalls _).bind fun _ => (edits_takeMembers _).bind fun members => ?_
  refine (edits_note_other (by simp)).bind fun _ => (edits_dieAll hcalls members).bind fun _ => ?_
  exact (edits_clearRegistry r).bind fun ids => edits_dieAll hcalls ids

/-- **The shutdown of a router.** -/
lemma edits_shutdown (r : RouterId) : (shutdown calls r).Edits secret := by
  refine fun s => gives_router fun y _ => ?_
  split
  · exact ((edits_updateRouter fun y => y.follows_shut).bind fun _ => edits_tearDown hcalls r y) s
  · exact gives_pure trivial

omit hcalls in
/-- Making and registering the gates of overrides edits.  The induction is on the overrides. -/
lemma edits_registerGates (r : RouterId) (least : Level) :
    ∀ overrides, (registerGates r least overrides).Edits secret
  | [] => edits_pure _
  | o :: overrides => by
    unfold registerGates
    split
    · refine fun s => gives_router fun y hy => gives_of_linked fun hlinked => ?_
      refine (gives_newHandler fun filter g heq => ?_).bind fun gate t _ hknown => ?_
      · cases heq
        exact (hlinked.routers r y hy).defaults
      · refine (gives_register _ hknown).bind fun result u _ _ => ?_
        cases result with
        | error e => exact gives_pure trivial
        | ok id => exact edits_registerGates r least overrides u
    · exact edits_registerGates r least overrides

/-- Adding the target of the settings to a router edits, whether that is an engine or a plain
handler. -/
lemma edits_addTarget (r : RouterId) (settings : Settings) :
    (addTarget calls r settings).Edits secret := by
  unfold addTarget
  split
  · refine fun s => (gives_newEngine _).bind fun e t _ _ => ?_
    exact ((edits_initEngine hcalls e r).bind fun _ => edits_pure _) t
  · refine fun s => (gives_newHandler (by simp)).bind fun h t _ hknown => ?_
    exact (gives_addDefault hknown).bind fun _ _ _ _ => gives_pure trivial

/-- **A router with settings.** -/
lemma edits_routerOf (settings : Settings) : (routerOf calls settings).Edits secret := by
  refine (edits_newRouter _).bind fun r => (edits_updateRouter fun y => ?_).bind fun _ => ?_
  · exact Router.follows_of_same rfl rfl rfl rfl (.refl _)
  · refine edits_keeping r ((edits_registerGates r _ _).bind fun result => ?_)
    cases result with
    | error e => exact edits_pure _
    | ok _ =>
      refine (edits_addTarget hcalls r settings).bind fun result => ?_
      cases result <;> exact edits_pure _

/-- Building a router from a configuration edits; if it is refused, nothing happens at all. -/
lemma edits_configure (c : Configuration) : (configure calls c).Edits secret := by
  unfold configure
  split
  · exact edits_pure _
  · exact edits_routerOf hcalls _

end System

end NamespaceLogging
