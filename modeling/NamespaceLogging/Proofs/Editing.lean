import NamespaceLogging.Proofs.References
import NamespaceLogging.Proofs.Namespaces
import NamespaceLogging.Session.Perform

/-!
# Acts that edit

Every act makes one edit after the other, wherever it stops, and when it is over the same locks are held
as before.  This module puts such acts together, and goes through those that read and change objects,
pass records on, and route them; the others follow.

## Main definitions

* `Act.Gives`: the act edits in a state, and its value is as told.
* `Act.Edits`: the act edits in all states.
* `Reentry.Edits`: the calls that scripts make back into the system edit; secret records are not passed
  on.

## Main results

* `Act.Gives.bind`: one act after the other.
* `System.edits_invoke`, `System.edits_log`: a record is passed on, and a log call.
-/

set_option autoImplicit false

namespace NamespaceLogging

open Act

namespace Act

variable {α β : Type} {secret : RecordId → Prop} {s t : System} {act : Act α}
  {P P' : α → System → Prop} {Q : β → System → Prop}

/-- In the state, in which references are in order, the act makes one edit after the other.  When it is
over, the same locks are held as before, and `P` holds of its value and the state then. -/
def Gives (secret : RecordId → Prop) (s : System) (act : Act α) (P : α → System → Prop) : Prop :=
  s.Linked secret → s.Edited secret (act.on s).2 ∧
    (isOver (act.on s).1 = true → (act.on s).2.held = s.held) ∧
      ∀ a, (act.on s).1 = .ok a → P a (act.on s).2

/-- The act makes one edit after the other, in all states. -/
def Edits (secret : RecordId → Prop) (act : Act α) : Prop :=
  ∀ s, act.Gives secret s fun _ _ => True

/-! ## Acts put together -/

/-- An act that only returns a value gives it without any edit. -/
lemma gives_pure {a : α} (h : P a s) : (pure a : Act α).Gives secret s P :=
  fun _ => ⟨.refl s, fun _ => rfl, fun _ heq => Except.ok.inj heq ▸ h⟩

/-- An act that only stops makes no edit, and there is no value of which something would have to
hold. -/
lemma gives_throw (stop : Stop) : (throw stop : Act α).Gives secret s P :=
  fun _ => ⟨.refl s, fun _ => rfl, fun _ heq => by simp at heq⟩

/-- An act that only returns a value makes no edit. -/
lemma edits_pure (a : α) : (pure a : Act α).Edits secret := fun _ => gives_pure trivial

/-- An act that only stops makes no edit. -/
lemma edits_throw (stop : Stop) : (throw stop : Act α).Edits secret := fun _ => gives_throw stop

/-- What holds of the value that an act gives may be said in a weaker way. -/
lemma Gives.mono (h : act.Gives secret s P) (himp : ∀ a t, s.Edited secret t → P a t → P' a t) :
    act.Gives secret s P' := by
  intro hlinked
  obtain ⟨hedited, hheld, hvalue⟩ := h hlinked
  exact ⟨hedited, hheld, fun a ha => himp a _ hedited (hvalue a ha)⟩

/-- An act that gives some value in a state edits in that state, whatever the value is. -/
lemma Gives.edits (h : act.Gives secret s P) : act.Gives secret s fun _ _ => True :=
  h.mono fun _ _ _ _ => trivial

/-- An act that does the same as another one after some edits. -/
lemma gives_of_on {act' : Act α} (hon : act.on s = act'.on t) (hst : s.Edited secret t)
    (hheld : t.held = s.held) (h : act'.Gives secret t P) : act.Gives secret s P := by
  intro hlinked
  obtain ⟨hedited, hheld', hvalue⟩ := h (hst.linked hlinked)
  rw [hon]
  exact ⟨hst.trans hedited, fun hover => (hheld' hover).trans hheld, hvalue⟩

/-- An act that gives a value after some edits. -/
lemma gives_of_ok {a : α} (hon : act.on s = (.ok a, t)) (hst : s.Edited secret t)
    (hheld : t.held = s.held) (h : P a t) : act.Gives secret s P :=
  gives_of_on (hon.trans (on_pure a).symm) hst hheld (gives_pure h)

/-- An act that stops after some edits. -/
lemma gives_of_error {stop : Stop} (hon : act.on s = (.error stop, t)) (hst : s.Edited secret t)
    (hheld : t.held = s.held) : act.Gives secret s P :=
  gives_of_on (hon.trans (on_throw stop).symm) hst hheld (gives_throw stop)

/-- **One act after the other.** -/
lemma Gives.bind {f : α → Act β} (hact : act.Gives secret s P)
    (hf : ∀ a t, s.Edited secret t → P a t → (f a).Gives secret t Q) :
    (act >>= f).Gives secret s Q := by
  intro hlinked
  obtain ⟨hedited, hheld, hvalue⟩ := hact hlinked
  rcases hon : act.on s with ⟨stop | a, t⟩
  · rw [on_bind_of_error hon]
    rw [hon] at hedited hheld
    exact ⟨hedited, fun hover => hheld (by cases stop <;> exact hover), fun b hb => by simp at hb⟩
  · rw [on_bind_of_ok hon]
    rw [hon] at hedited hheld hvalue
    obtain ⟨hedited', hheld', hvalue'⟩ := hf a t hedited (hvalue a rfl) (hedited.linked hlinked)
    exact ⟨hedited.trans hedited', fun hover => (hheld' hover).trans (hheld rfl), hvalue'⟩

/-- One act after the other edits if both do. -/
lemma Edits.bind {f : α → Act β} (hact : act.Edits secret) (hf : ∀ a, (f a).Edits secret) :
    (act >>= f).Edits secret :=
  fun s => (hact s).bind fun a t _ _ => hf a t

/-- References are in order when the act begins. -/
lemma gives_of_linked (h : s.Linked secret → act.Gives secret s P) : act.Gives secret s P :=
  fun hlinked => h hlinked hlinked

/-- An act that begins by reading the state gives what it gives with the state that it has read. -/
lemma gives_get {f : System → Act β} (hf : (f s).Gives secret s Q) :
    ((get : Act System) >>= f).Gives secret s Q :=
  gives_of_on (on_bind_of_ok on_get f) (.refl s) rfl hf

/-- What follows when something is looked up. -/
lemma gives_require {f : α → Act β} {what : String} (find : System → Option α)
    (hf : ∀ a, find s = some a → (f a).Gives secret s Q) :
    ((do require what (find (← get)) : Act α) >>= f).Gives secret s Q := by
  have hon : (do require what (find (← get)) : Act α).on s = (require what (find s)).on s :=
    on_bind_of_ok on_get _
  cases hfind : find s with
  | none =>
    rw [hfind] at hon
    exact gives_of_error (on_bind_of_error (hon.trans (on_throw _)) f) (.refl s) rfl
  | some a =>
    rw [hfind] at hon
    exact gives_of_on (on_bind_of_ok (hon.trans (on_pure a)) f) (.refl s) rfl (hf a hfind)

/-- Edits that leave the locks as they are. -/
lemma gives_modify {f : System → System} {P : Unit → System → Prop} (hst : s.Edited secret (f s))
    (hheld : (f s).held = s.held) (hP : P () (f s)) : (modify f : Act Unit).Gives secret s P :=
  gives_of_ok rfl hst hheld hP

/-- An act that changes the state with a result gives that result, if the change is made of
edits. -/
lemma gives_modifyGet {f : System → α × System} (hst : s.Edited secret (f s).2)
    (hheld : (f s).2.held = s.held) (hP : P (f s).1 (f s).2) :
    (modifyGet f : Act α).Gives secret s P :=
  gives_of_ok rfl hst hheld hP

/-- A change beside all that records meet is an edit. -/
lemma edits_modify {f : System → System} (hf : ∀ s : System, s.Beside (f s)) :
    (modify f : Act Unit).Edits secret :=
  fun s => gives_modify (.single (.beside (hf s))) (hf s).held trivial

/-- The same for a change with a result. -/
lemma edits_modifyGet {f : System → α × System} (hf : ∀ s : System, s.Beside (f s).2) :
    (modifyGet f : Act α).Edits secret :=
  fun s => gives_modifyGet (.single (.beside (hf s))) (hf s).held trivial

/-- A panic that becomes a value: the act was over. -/
lemma Gives.contain (hact : act.Gives secret s P) :
    (act.contain).Gives secret s fun _ _ => True := by
  intro hlinked
  obtain ⟨hedited, hheld, -⟩ := hact hlinked
  rw [on_contain]
  rcases hon : act.on s with ⟨(payload | _ | _ | _) | a, t⟩ <;> rw [hon] at hedited hheld <;>
    exact ⟨hedited, hheld, fun _ _ => trivial⟩

/-- At the end of an act, something changes. -/
lemma Gives.after {change : System → System} (hact : act.Gives secret s P)
    (hchange : ∀ u : System, u.Edited secret (change u) ∧ (change u).held = u.held) :
    (act.after change).Gives secret s fun _ _ => True := by
  intro hlinked
  obtain ⟨hedited, hheld, -⟩ := hact hlinked
  obtain ⟨hstep, hsame⟩ := hchange (act.on s).2
  rw [on_after]
  split
  · rename_i hover
    exact ⟨hedited.trans hstep, fun _ => hsame.trans (hheld hover), fun _ _ => trivial⟩
  · exact ⟨hedited, hheld, fun _ _ => trivial⟩

/-- A change beside all that records meet may follow an act that edits. -/
lemma Edits.after {change : System → System} (hact : act.Edits secret)
    (hchange : ∀ s : System, s.Beside (change s)) : (act.after change).Edits secret :=
  fun s => (hact s).after fun u => ⟨.single (.beside (hchange u)), (hchange u).held⟩

/-- An act that edits still does so when its panics are contained. -/
lemma Edits.contain (hact : act.Edits secret) : (act.contain).Edits secret :=
  fun s => (hact s).contain

/-- Something changes before an act, and changes back when the act is over. -/
lemma edits_around {start stop : System → System} (hact : act.Edits secret)
    (hstart : ∀ s : System, s.Beside (start s)) (hstop : ∀ s : System, s.Beside (stop s)) :
    (do modify start; act.after stop : Act α).Edits secret :=
  (edits_modify hstart).bind fun _ => hact.after hstop

/-- Asking for something that may be missing makes no edit. -/
lemma edits_require (what : String) (o : Option α) : (require what o).Edits secret := by
  cases o with
  | none => exact edits_throw _
  | some a => exact edits_pure a

/-- What follows when a value is not a fault. -/
lemma gives_orPanic {value : Except RenderFault α} {f : α → Act β}
    (hf : ∀ a, value = .ok a → (f a).Gives secret s Q) : (orPanic value >>= f).Gives secret s Q := by
  cases value with
  | error fault => exact gives_of_error (on_bind_of_error rfl f) (.refl s) rfl
  | ok a => exact hf a rfl

/-- Acts that edit, one for each element of a list, edit together.  The induction is on the list. -/
lemma edits_mapM {f : α → Act β} : ∀ l : List α, (∀ a ∈ l, (f a).Edits secret) →
    (l.mapM f).Edits secret
  | [], _ => by
    rw [List.mapM_nil]
    exact edits_pure _
  | a :: l, hf => by
    rw [List.mapM_cons]
    refine (hf a List.mem_cons_self).bind fun b => ?_
    refine (edits_mapM l fun a ha => hf a (List.mem_cons_of_mem _ ha)).bind fun bs => ?_
    exact edits_pure _

/-- The same for acts without results. -/
lemma edits_forM {f : α → Act PUnit} : ∀ l : List α, (∀ a ∈ l, (f a).Edits secret) →
    (l.forM f).Edits secret
  | [], _ => edits_pure _
  | a :: l, hf => by
    rw [List.forM_eq_forM, List.forM_cons]
    refine (hf a List.mem_cons_self).bind fun _ => ?_
    exact edits_forM l fun a ha => hf a (List.mem_cons_of_mem _ ha)

end Act

/-- The calls that scripts make back into the system edit.  A handler is not called with a secret
record. -/
structure Reentry.Edits (secret : RecordId → Prop) (calls : Reentry) : Prop where
  handle : ∀ h id, ¬ secret id → (calls.handle h id).Edits secret
  perform : ∀ step, (calls.perform step).Edits secret

namespace System

variable {α β : Type} {secret : RecordId → Prop} {s t u : System} {P : α → System → Prop}
  {Q : β → System → Prop}

/-! ## Looking at objects -/

/-- What follows on looking a record up may rely on the record that is there. -/
lemma gives_record {f : Record → Act β} {id : RecordId}
    (hf : ∀ x, s.records[id]? = some x → (f x).Gives secret s Q) :
    (record id >>= f).Gives secret s Q :=
  gives_require (fun s => s.records[id]?) hf

/-- What follows on looking a handler up may rely on the handler that is there. -/
lemma gives_handler {f : Handler → Act β} {id : HandlerId}
    (hf : ∀ x, s.handlers[id]? = some x → (f x).Gives secret s Q) :
    (handler id >>= f).Gives secret s Q :=
  gives_require (fun s => s.handlers[id]?) hf

/-- What follows on looking an engine up may rely on the engine that is there. -/
lemma gives_engine {f : Engine → Act β} {e : EngineId}
    (hf : ∀ x, s.engines[e]? = some x → (f x).Gives secret s Q) :
    (engine e >>= f).Gives secret s Q :=
  gives_require (fun s => s.engines[e]?) hf

/-- Looking an engine up makes no edit. -/
lemma edits_engine (e : EngineId) : (engine e).Edits secret :=
  fun s => gives_get (edits_require _ _ s)

/-- What follows on looking a slot up may rely on the slot that is there. -/
lemma gives_slot {f : Slot → Act β} {id : SlotId}
    (hf : ∀ x, s.slot? id = some x → (f x).Gives secret s Q) : (slot id >>= f).Gives secret s Q :=
  gives_require (fun s => s.slot? id) hf

/-- What follows on looking a group up may rely on its members. -/
lemma gives_group {f : List SlotId → Act β} {g : GroupId}
    (hf : ∀ members, s.groups[g]? = some members → (f members).Gives secret s Q) :
    (group g >>= f).Gives secret s Q :=
  gives_require (fun s => s.groups[g]?) hf

/-- What follows on looking a router up may rely on the router that is there. -/
lemma gives_router {f : Router → Act β} {r : RouterId}
    (hf : ∀ y, s.routers[r]? = some y → (f y).Gives secret s Q) : (router r >>= f).Gives secret s Q :=
  gives_require (fun s => s.routers[r]?) hf

/-- What follows on looking up a stream sink may rely on the sink that is there. -/
lemma gives_stream {f : StreamSink → Act β} {id : StreamId}
    (hf : ∀ x, s.streams[id]? = some x → (f x).Gives secret s Q) :
    (stream id >>= f).Gives secret s Q :=
  gives_require (fun s => s.streams[id]?) hf

/-! ## Single acts -/

/-- A change of what records do not meet. -/
lemma beside_of_eq (hslots : t.slots = s.slots) (hgroups : t.groups = s.groups)
    (hrouters : t.routers = s.routers) (hnames : t.names = s.names)
    (hhandlers : t.handlers = s.handlers) (hheld : t.held = s.held)
    (hjournal : t.journal = s.journal) (hengines : t.engines = s.engines)
    (hrecords : t.records = s.records) : s.Beside t :=
  ⟨hslots, hgroups, hrouters, hnames, hhandlers, hheld, hjournal,
    Nat.le_of_eq (congrArg List.length hengines.symm), fun id => by rw [hrecords]⟩

/-- Changing an engine is beside all that records meet: it stays where it is. -/
lemma beside_onEngine (e : EngineId) (f : Engine → Engine) : s.Beside (s.onEngine e f) :=
  ⟨rfl, rfl, rfl, rfl, rfl, rfl, rfl, Nat.le_of_eq (List.length_modify ..).symm, fun _ => rfl⟩

/-- Changing an engine is an edit. -/
lemma edits_updateEngine (e : EngineId) (f : Engine → Engine) : (updateEngine e f).Edits secret :=
  edits_modify fun _ => beside_onEngine e f

/-- Changing a stream sink that belongs to no engine is an edit. -/
lemma edits_updateStream (id : StreamId) (f : StreamSink → StreamSink) :
    (updateStream id f).Edits secret :=
  edits_modify fun _ => beside_of_eq rfl rfl rfl rfl rfl rfl rfl rfl rfl

/-- Writing to files and standard streams is an edit. -/
lemma edits_setMedia (media : Media) : (setMedia media).Edits secret :=
  edits_modify fun _ => beside_of_eq rfl rfl rfl rfl rfl rfl rfl rfl rfl

/-- An entry that is no delivery of a secret record. -/
lemma edits_note {entry : Entry} (hopen : ∀ id k, entry = .delivered id k → ¬ secret k) :
    (note entry).Edits secret :=
  fun s => gives_modify (.single (.noted s entry hopen)) rfl trivial

/-- An entry that is no delivery at all. -/
lemma edits_note_other {entry : Entry} (hother : ∀ id k, entry ≠ .delivered id k) :
    (note entry).Edits secret :=
  edits_note fun id k heq => absurd heq (hother id k)

/-- A record gets another text. -/
lemma gives_updateRecord {id : RecordId} {x x' : Record} (hx : s.records[id]? = some x)
    (hlevel : x'.level = x.level) : (updateRecord id fun _ => x').Gives secret s fun _ t =>
      t = { s with records := s.records.modify id fun _ => x' } := by
  refine gives_modify (.single (.beside ⟨rfl, rfl, rfl, rfl, rfl, rfl, rfl, Nat.le_refl _,
    fun i => ?_⟩)) rfl rfl
  change (s.records.modify id fun _ => x')[i]?.map Record.level = _
  rw [Array.getElem?_modify]
  split
  · rename_i heq
    simp [← heq, hx, hlevel]
  · rfl

/-- A handler that was looked at before has run. -/
lemma gives_updateHandler {n : HandlerId} {h h' : Handler} (hh : s.handlers[n]? = some h)
    (hst : s.Edited secret t) (hnature : h'.nature = h.nature) :
    (updateHandler n fun _ => h').Gives secret t fun _ _ => True := by
  obtain ⟨h'', hh'', hsame⟩ := hst.upholds.handlers n h hh
  exact gives_modify (.single (.worked h' hh'' (hnature.trans hsame.symm))) rfl trivial

/-- A router that goes on without a new registration. -/
lemma gives_updateRouter {r : RouterId} {y : Router} {f : Router → Router}
    (hy : s.routers[r]? = some y) (hf : y.Follows (f y)) :
    (updateRouter r f).Gives secret s fun _ _ => True :=
  gives_modify (.single (.routed f hy hf)) rfl trivial

/-- A router may be edited if its new version follows the old one. -/
lemma edits_updateRouter {r : RouterId} {f : Router → Router} (hf : ∀ y : Router, y.Follows (f y)) :
    (updateRouter r f).Edits secret := by
  intro s
  cases hy : s.routers[r]? with
  | some y => exact gives_updateRouter hy (hf y)
  | none =>
    refine gives_of_ok (t := s.onRouter r f) rfl ?_ rfl trivial
    have hsame : s.onRouter r f = s := by
      have hmodify : s.routers.modify r f = s.routers := by
        refine List.ext_getElem? fun i => ?_
        rw [List.getElem?_modify]
        split
        · rename_i heq
          rw [← heq, hy]
          rfl
        · simp
      simp [onRouter, hmodify]
    rw [hsame]
    exact .refl s

/-! ## Names -/

/-- What holds of all named objects and of a new one holds of all after the new one was named. -/
lemma forall_bind {names : List (String × α)} {p : α → Prop} (name : String) {object : α}
    (hall : ∀ entry ∈ names, p entry.2) (hobject : p object) :
    ∀ entry ∈ Names.bind name object names, p entry.2 := by
  intro entry hmem
  rcases List.mem_append.mp hmem with hmem | hmem
  · exact hall entry (List.mem_filter.mp hmem).1
  · rwa [List.mem_singleton.mp hmem]

/-- Other names. -/
lemma gives_updateNames {f : Names → Names} (hf : s.Fits secret s.names → s.Fits secret (f s.names)) :
    (updateNames f).Gives secret s fun _ _ => True :=
  gives_of_linked fun hlinked => gives_modify (.single (.named s (hf hlinked.named))) rfl trivial

/-- A name for a handler that is there. -/
lemma gives_nameHandler (name : String) {h : HandlerRef} (hknown : s.Knows h) :
    (nameHandler name h).Gives secret s fun _ _ => True :=
  gives_updateNames fun hfits =>
    { hfits with handlers := forall_bind (p := s.Knows) name hfits.handlers hknown }

/-- What follows when a name is looked up. -/
lemma gives_named {f : α → Act β} {names : Names → List (String × α)} {name : String}
    (hf : ∀ a, (name, a) ∈ names s.names → (f a).Gives secret s Q) :
    (named names name >>= f).Gives secret s Q := by
  refine gives_require (fun s => (names s.names).lookup name) fun a ha => hf a ?_
  obtain ⟨before, after, heq, -⟩ := List.lookup_eq_some_iff.mp ha
  simp [heq]

/-- What follows on looking a handler up by name may rely on the handler being known. -/
lemma gives_namedHandler {f : HandlerRef → Act β} {name : String}
    (hf : ∀ h, s.Knows h → (f h).Gives secret s Q) :
    (named Names.handlers name >>= f).Gives secret s Q :=
  gives_of_linked fun hlinked => gives_named fun h hmem => hf h (hlinked.named.handlers _ hmem)

/-- What follows on looking a group up by name may rely on the group being there. -/
lemma gives_namedGroup {f : GroupId → Act β} {name : String}
    (hf : ∀ g, g < s.groups.length → (f g).Gives secret s Q) :
    (named Names.groups name >>= f).Gives secret s Q :=
  gives_of_linked fun hlinked => gives_named fun g hmem => hf g (hlinked.named.groups _ hmem)

/-- Looking an object up by its name makes no edit, whatever follows on it. -/
lemma edits_named {f : α → Act β} {names : Names → List (String × α)} {name : String}
    (hf : ∀ a, (f a).Edits secret) : (named names name >>= f).Edits secret :=
  fun s => gives_named fun a _ => hf a s

/-! ## New objects -/

/-- No record that is still to be made is secret. -/
lemma gives_newRecord (x : Record) :
    (newRecord x).Gives secret s fun id t => id < t.records.size ∧ ¬ secret id := by
  refine gives_of_linked fun hlinked => gives_modifyGet (.single (.recorded s x)) rfl ⟨?_, fun h => ?_⟩
  · simp
  · exact Nat.lt_irrefl _ (hlinked.secrets _ h)

/-- A new handler is known afterwards; if it is a gate, its group has to be there before. -/
lemma gives_newHandler {h : Handler} (hgate : ∀ filter g, h = .gate filter g → g < s.groups.length) :
    (newHandler h).Gives secret s fun n t => t.Knows (.plain n) :=
  gives_modifyGet (.single (.housed s h hgate)) rfl (by simp [Knows])

/-- A new engine is there afterwards. -/
lemma gives_newEngine (x : Engine) :
    (newEngine x).Gives secret s fun e t => e < t.engines.length :=
  gives_modifyGet (.single (.beside ⟨rfl, rfl, rfl, rfl, rfl, rfl, rfl, by simp, fun _ => rfl⟩)) rfl
    (by simp)

/-- A new group is there afterwards. -/
lemma gives_newGroup : newGroup.Gives secret s fun g t => g < t.groups.length :=
  gives_modifyGet (.single (.grouped s)) rfl (by simp)

/-- A new stream sink that belongs to no engine is an edit. -/
lemma edits_newStream (sink : StreamSink) : (newStream sink).Edits secret :=
  edits_modifyGet fun _ => beside_of_eq rfl rfl rfl rfl rfl rfl rfl rfl rfl

/-- A new router with a group of its own is an edit. -/
lemma edits_newRouter (filter : LevelSet) : (newRouter filter).Edits secret :=
  fun s => gives_of_ok rfl (.single (.founded s filter)) rfl trivial

/-! ## Records -/

/-- Taking a stack is an edit: only the number of the machinery's frames is remembered. -/
lemma edits_captureStack : captureStack.Edits secret :=
  edits_modifyGet fun _ => beside_of_eq rfl rfl rfl rfl rfl rfl rfl rfl rfl

/-- The record of a log call is there afterwards, and nobody keeps it secret. -/
lemma gives_makeRecord (call : LogCall) (stack : List Frame) :
    (makeRecord call stack).Gives secret s fun id t => id < t.records.size ∧ ¬ secret id :=
  gives_get (gives_newRecord _)

/-- The record that a step is about is not secret. -/
lemma gives_recordFor (argument : RecordArgument) :
    (recordFor argument).Gives secret s fun id _ => ¬ secret id := by
  cases argument with
  | named name =>
    change (named Names.records name).Gives secret s _
    rw [← bind_pure (named Names.records name)]
    refine gives_of_linked fun hlinked => gives_named fun id hmem => gives_pure ?_
    exact (hlinked.named.records _ hmem).2
  | content content => exact (gives_makeRecord _ _).mono fun _ _ _ h => h.2

/-- Rendering a record leaves its level as it is. -/
lemma level_render {x x' : Record} (h : x.render = .ok x') : x'.level = x.level := by
  unfold Record.render at h
  split at h
  · simp at h
  · cases h
    rfl

/-- Rendering a message changes nothing but the text of the record. -/
lemma gives_renderMessage (id : RecordId) :
    (renderMessage id).Gives secret s fun _ t => t.handlers = s.handlers := by
  refine gives_record fun x hx => gives_orPanic fun x' hx' => ?_
  refine (gives_updateRecord hx (level_render hx')).bind fun _ t _ h => gives_pure ?_
  rw [h]

/-- Rendering the message of a record is an edit: its level stays. -/
lemma edits_renderMessage (id : RecordId) : (renderMessage id).Edits secret :=
  fun _ => (gives_renderMessage id).edits

/-- Laying a record out leaves its level as it is. -/
lemma level_layout {layout : Layout} {x : Record} {line : String × Record}
    (h : layout.render x = .ok line) : line.2.level = x.level := by
  unfold Layout.render at h
  cases hshows : layout.showsMessage with
  | false =>
    simp only [hshows] at h
    cases h
    rfl
  | true =>
    simp only [hshows, if_true] at h
    cases hrender : x.render with
    | error fault => simp [hrender, bind, Except.bind] at h
    | ok x' =>
      rw [hrender] at h
      cases h
      exact level_render hrender

/-- Laying a record out is an edit: its level stays. -/
lemma edits_layOut (layout : Layout) (id : RecordId) : (layOut layout id).Edits secret := by
  refine fun s => gives_record fun x hx => gives_orPanic fun line hline => ?_
  exact (gives_updateRecord hx (level_layout hline)).bind fun _ t _ _ => gives_pure trivial

/-- The record that a stream sink has laid out has the level that it had before. -/
lemma level_line {sink : StreamSink} {x : Record} {line : String × Record}
    (h : sink.line? x = .ok (some line)) : line.2.level = x.level := by
  unfold StreamSink.line? at h
  split at h
  · cases hrender : sink.layout.render x with
    | error fault => simp [hrender] at h
    | ok line' =>
      rw [hrender] at h
      cases h
      exact level_layout hrender
  · simp at h

/-! ## Locks, threads and routers in use -/

/-- The lock that was taken is given back. -/
lemma edits_holding {act : Act α} (lock : LockId) (hact : act.Edits secret) :
    (holding lock act).Edits secret := by
  refine fun s => gives_get ?_
  split
  · exact gives_of_error rfl (.refl s) rfl
  · set t : System := { s with held := lock :: s.held }
    have hlocked : s.Edited secret t := .single (.locked s lock)
    intro hlinked
    obtain ⟨hedited, hheld, -⟩ := hact t (hlocked.linked hlinked)
    rw [on_bind_of_ok (on_modify _), on_after]
    split
    · rename_i hover
      refine ⟨(hlocked.trans hedited).trans (.single (.unlocked _ lock)), fun _ => ?_,
        fun _ _ => trivial⟩
      change ((act.on t).2.held).erase lock = s.held
      rw [hheld hover]
      exact List.erase_cons_head ..
    · rename_i hcut
      exact ⟨hlocked.trans hedited, fun hover => absurd hover hcut, fun _ _ => trivial⟩

/-- An act that edits does so while a router is kept alive by the call. -/
lemma edits_keeping {act : Act α} (r : RouterId) (hact : act.Edits secret) :
    (keeping r act).Edits secret :=
  edits_around hact (fun _ => beside_of_eq rfl rfl rfl rfl rfl rfl rfl rfl rfl)
    fun _ => beside_of_eq rfl rfl rfl rfl rfl rfl rfl rfl rfl

/-- An act that edits does so on a thread of its own. -/
lemma edits_onThread {act : Act α} (name : Option String) (hact : act.Edits secret) :
    (onThread name act).Edits secret := by
  intro s
  unfold onThread
  split
  · exact gives_of_error rfl (.refl s) rfl
  · refine gives_get (edits_around hact (fun _ => ?_) (fun _ => ?_) s) <;>
      exact beside_of_eq rfl rfl rfl rfl rfl rfl rfl rfl rfl

end System

end NamespaceLogging
