import NamespaceLogging.Proofs.EditingSteps

/-!
# The delivery of a record

A log call that its router lets through makes one record and passes it on: to the slot that is registered
for its namespace, or to the default handlers.  Handlers may do what they like meanwhile, even to the
groups that the record is on its way through.

## Main definitions

* `System.Passes`: a gate lets a record through to its group.
* `System.HandsOn`: slots were handed a record one after the other, and what is behind gates at once.
* `System.Stalls`: what can keep a record from going on.
* `System.aims`: the slots to which a router passes the record of a log call.

## Main results

* `System.onward`: the record is passed on to each of some slots, in order.
* `System.log_delivers`: a log call passes its record on to each of the slots that it is meant for.
-/

set_option autoImplicit false

namespace NamespaceLogging

open Act

namespace System

variable {s t u : System} {k : RecordId} {id : SlotId} {g : GroupId} {ids ids' out out' : List SlotId}

/-- In the slot stands a gate before the group, and it lets the record through. -/
def Passes (s : System) (k : RecordId) (id : SlotId) (g : GroupId) : Prop :=
  ∃ filter x, s.Gated id filter g ∧ s.records[k]? = some x ∧ filter.contains x.level = true

/-- From one state to another, all of the slots were handed the record, one after the other; `out` are
the slots that were given it meanwhile, in order.  The handler in a slot was called and came to an end,
with a value or by a panic, and nobody else was given the record while it ran.  A gate that lets the
record through hands it to all members that its group has when the gate is called. -/
inductive HandsOn (k : RecordId) : System → List SlotId → List SlotId → System → Prop
  | nil (s : System) : HandsOn k s [] [] s
  | called {s t u : System} {id : SlotId} {x : Slot} {ids out : List SlotId} {held : List LockId}
      {depth : Nat} {result : Except Stop Unit} (slot : s.slot? id = some x)
      (stays : ∀ g, ¬ s.Passes k id g)
      (call : ((Reentry.upTo depth).handle x.handler k).on
        { s.noted (.delivered id k) with held := held } = (result, t))
      (ended : isOver result = true)
      (edited : (s.noted (.delivered id k)).Edited (· = k) { t with held := s.held })
      (rest : HandsOn k { t with held := s.held } ids out u) : HandsOn k s (id :: ids) (id :: out) u
  | passed {s t u : System} {id : SlotId} {g : GroupId} {members behind ids out : List SlotId}
      (passes : s.Passes k id g) (group : s.groups[g]? = some members)
      (within : HandsOn k (s.noted (.delivered id k)) members behind t) (rest : HandsOn k t ids out u) :
      HandsOn k s (id :: ids) (id :: behind ++ out) u

/-- What keeps a record from going on, with the stop and the state then: calls nest deeper than was
allowed; the lock of a slot is held that serializes the calls of its handler, so that the handler would
be called while it runs; an engine does not come to an end with the record; or a step does not come to an
end that a scripted handler takes. -/
inductive Stalls (k : RecordId) (s : System) : Stop → System → Prop
  | deep {t : System} (edited : s.Edited Public t) : Stalls k s .exhausted t
  | waits {t : System} {id : SlotId} {x : Slot} (edited : s.Edited Public t)
      (slot : t.slot? id = some x) (serialized : ((serializes x.handler).on t).1 = .ok true)
      (locked : x.lock ∈ s.held) : Stalls k s .stuck t
  | drains {t u : System} {e : EngineId} {depth : Nat} {stop : Stop} (edited : s.Edited Public t)
      (call : (takeRecord (.upTo depth) e k).on t = (.error stop, u))
      (cut : isOver (.error stop : Except Stop Unit) = false) : Stalls k s stop u
  | reenters {t u : System} {n : HandlerId} {behaviour : HandlerBehaviour Step}
      {calls deaths earlier depth : Nat} {message word : String} {step : Step} {stop : Stop}
      (edited : s.Edited Public t) (handler : t.handlers[n]? = some (.scripted behaviour calls deaths))
      (move : .take word step ∈ behaviour.onRecord earlier message)
      (call : (perform (.upTo depth) step).on t = (.error stop, u))
      (cut : isOver (.error stop : Except Stop Unit) = false) : Stalls k s stop u

/-- The act hands the record to all of the slots, unless something keeps the record from going on. -/
def Conveys (k : RecordId) (s : System) (ids : List SlotId) (act : Act Unit) : Prop :=
  (∃ out t, act.on s = (.ok (), t) ∧ HandsOn k s ids out t) ∨
    ∃ stop t, act.on s = (.error stop, t) ∧ Stalls k s stop t

/-! ## Records that are not secret any more -/

/-- Noting an entry changes no reference. -/
lemma Linked.noted {secret : RecordId → Prop} (h : s.Linked secret) (entry : Entry) :
    (s.noted entry).Linked secret :=
  ⟨h.handlers, h.gates, h.routers, h.members, h.ascending, h.apart, h.routes,
    ⟨h.named.handlers, h.named.engines, h.named.groups, h.named.records⟩, h.secrets⟩

/-- Names that keep a record secret fit all the more if nothing is secret. -/
lemma Fits.reveal {secret : RecordId → Prop} {names : Names} (h : s.Fits secret names) :
    s.Fits Public names :=
  ⟨h.handlers, h.engines, h.groups, fun entry hmem => ⟨(h.records entry hmem).1, fun h => h⟩⟩

/-- An edit that keeps a record secret is an edit also if nothing is secret. -/
lemma Edit.reveal {secret : RecordId → Prop} (h : Edit secret s t) : Edit Public s t := by
  cases h with
  | beside h => exact .beside h
  | noted entry hopen => exact .noted _ entry fun _ _ _ h => h
  | recorded x => exact .recorded _ x
  | housed h gate => exact .housed _ h gate
  | worked h' handler nature => exact .worked h' handler nature
  | grouped => exact .grouped _
  | founded filter => exact .founded _ filter
  | enlisted g known => exact .enlisted _ g known
  | enrolled r key known => exact .enrolled _ r key known
  | attached lock known router => exact .attached lock known router
  | expelled g keep => exact .expelled _ g keep
  | routed f router follows => exact .routed f router follows
  | named fits => exact .named _ fits.reveal
  | locked lock => exact .locked _ lock
  | unlocked lock => exact .unlocked _ lock

/-- What is done while some records are secret might be done if none were. -/
lemma Edited.reveal {secret : RecordId → Prop} (h : s.Edited secret t) : s.Edited Public t := by
  induction h with
  | refl => exact .refl s
  | tail _ hedit ih => exact ih.tail hedit.reveal

/-- A record that no name leads to can be kept secret. -/
lemma Linked.conceal (h : s.Linked Public) (hk : k < s.records.size)
    (hnames : ∀ entry ∈ s.names.records, entry.2 ≠ k) : s.Linked (· = k) :=
  { h with
    named := ⟨h.named.handlers, h.named.engines, h.named.groups, fun entry hmem =>
      ⟨(h.named.records entry hmem).1, hnames entry hmem⟩⟩
    secrets := fun _ heq => heq ▸ hk }

/-! ## Slots that are handed the record -/

namespace HandsOn

/-- Handing a record on leaves the same locks held. -/
lemma held (h : HandsOn k s ids out t) : t.held = s.held := by
  induction h with
  | nil => rfl
  | called _ _ _ _ _ _ ih => exact ih
  | passed _ _ _ _ ihwithin ihrest => exact ihrest.trans ihwithin

/-- Handing a record on is made of edits. -/
lemma edited (h : HandsOn k s ids out t) : s.Edited Public t := by
  have hnoted : ∀ (s : System) id, s.Edited Public (s.noted (.delivered id k)) :=
    fun s id => .single (.noted s _ fun _ _ _ h => h)
  induction h with
  | nil s => exact .refl s
  | called _ _ _ _ edited _ ih => exact ((hnoted _ _).trans edited.reveal).trans ih
  | passed _ _ _ _ ihwithin ihrest => exact ((hnoted _ _).trans ihwithin).trans ihrest

/-- Handing a secret record on keeps references in order, and the record secret. -/
lemma linked (hlinked : s.Linked (· = k)) (h : HandsOn k s ids out t) : t.Linked (· = k) := by
  induction h with
  | nil => exact hlinked
  | called _ _ _ _ edited _ ih => exact ih (edited.linked (hlinked.noted _))
  | passed _ _ _ _ ihwithin ihrest => exact ihrest (ihwithin (hlinked.noted _))

/-- **These slots were given the record**, and no other ones. -/
lemma takers (h : HandsOn k s ids out t) : t.takers k = s.takers k ++ out := by
  induction h with
  | nil => simp
  | called _ _ _ _ edited _ ih => rw [ih, edited.upholds.takers k rfl, takers_noted]; simp
  | passed _ _ _ _ ihwithin ihrest => rw [ihrest, ihwithin, takers_noted]; simp

/-- Handing a record first to some slots and then to others is handing it to all of them. -/
lemma append (h : HandsOn k s ids out t) (h' : HandsOn k t ids' out' u) :
    HandsOn k s (ids ++ ids') (out ++ out') u := by
  induction h with
  | nil => exact h'
  | called slot stays call ended edited _ ih => exact .called slot stays call ended edited (ih h')
  | passed passes group within _ _ ih =>
    have hall := HandsOn.passed passes group within (ih h')
    simpa using hall

end HandsOn

/-! ## What stays as it is meanwhile -/

/-- The handler of a slot is there. -/
lemma Linked.knows {secret : RecordId → Prop} (h : s.Linked secret) {x : Slot}
    (hx : s.slot? id = some x) : s.Knows x.handler := by
  cases id with
  | zero => simp [Assembly.slot?] at hx
  | succ n => exact h.handlers x (List.mem_of_getElem? hx)

/-- A gate that lets the record through did so before. -/
lemma Passes.before (hlinked : s.Linked (· = k)) (hst : s.Edited Public t) (hslot : s.HasSlot id)
    (h : t.Passes k id g) : s.Passes k id g := by
  obtain ⟨filter, x', ⟨n, lock, hslot', hgate'⟩, hx', hpass⟩ := h
  have hupholds := hst.upholds
  -- the slot, its handler and the level of the record are what they were
  have hslot₀ : s.slot? id = some ⟨.plain n, lock⟩ := by
    obtain ⟨x, hx⟩ := hslot.exists
    rw [hx, ← slot?_of_extends hupholds.slots hx, hslot']
  have hknown : s.Knows (.plain n) := hlinked.knows hslot₀
  have hgate : s.handlers[n]? = some (.gate filter g) := by
    obtain ⟨h', hh', hnature⟩ := hupholds.handlers n _ (List.getElem?_eq_getElem hknown)
    rw [List.getElem?_eq_getElem hknown]
    obtain rfl := Option.some.inj (hgate'.symm.trans hh')
    revert hnature
    cases s.handlers[n] <;> simp_all [Handler.nature]
  obtain ⟨x, hx⟩ : ∃ x, s.records[k]? = some x := ⟨_, Array.getElem?_eq_getElem (hlinked.secrets k rfl)⟩
  obtain ⟨x'', hx'', hlevel⟩ := hupholds.levels k x hx
  obtain rfl := Option.some.inj (hx'.symm.trans hx'')
  exact ⟨filter, x, ⟨n, lock, hslot₀, hgate⟩, hx, hlevel ▸ hpass⟩

/-- Where no gate lets the record through, each of the slots was given the record, once and in order. -/
lemma HandsOn.out_eq (h : HandsOn k s ids out t) (hlinked : s.Linked (· = k))
    (hslots : ∀ id ∈ ids, s.HasSlot id) (hstay : ∀ id ∈ ids, ∀ g, ¬ s.Passes k id g) : out = ids := by
  induction h with
  | nil => rfl
  | @called s t u id x ids out held depth result slot stays call ended edited rest ih =>
    have hnoted : s.Edited Public (s.noted (.delivered id k)) :=
      .single (.noted s _ fun _ _ _ h => h)
    have hst := hnoted.trans edited.reveal
    have hrest := ih (edited.linked (hlinked.noted _))
      (fun i hi => hst.upholds.hasSlot (hslots i (List.mem_cons_of_mem _ hi)))
      fun i hi g hpass => hstay i (List.mem_cons_of_mem _ hi) g
        (hpass.before hlinked hst (hslots i (List.mem_cons_of_mem _ hi)))
    rw [hrest]
  | passed passes _ _ _ _ _ => exact absurd passes (hstay _ List.mem_cons_self _)

/-- A gate stands before one group. -/
lemma Passes.unique {g' : GroupId} (h : s.Passes k id g) (h' : s.Passes k id g') : g = g' := by
  obtain ⟨filter, x, ⟨n, lock, hslot, hgate⟩, -⟩ := h
  obtain ⟨filter', x', ⟨n', lock', hslot', hgate'⟩, -⟩ := h'
  have heq : (⟨.plain n, lock⟩ : Slot) = ⟨.plain n', lock'⟩ := Option.some.inj (hslot.symm.trans hslot')
  obtain ⟨hn, -⟩ := Slot.mk.inj heq
  obtain rfl := HandlerRef.plain.inj hn
  exact (Handler.gate.inj (Option.some.inj (hgate.symm.trans hgate'))).2

/-- Behind a gate, each member of its group was given the record, once and in order, unless there are
more gates. -/
lemma HandsOn.out_gate {members : List SlotId} (h : HandsOn k s [id] out t) (hlinked : s.Linked (· = k))
    (hpasses : s.Passes k id g) (hmembers : s.groups[g]? = some members)
    (hstay : ∀ i ∈ members, ∀ g', ¬ s.Passes k i g') : out = id :: members := by
  cases h with
  | called _ stays _ _ _ _ => exact absurd hpasses (stays g)
  | passed passes group within rest =>
    obtain rfl := passes.unique hpasses
    obtain rfl := Option.some.inj (hmembers.symm.trans group)
    obtain rfl : _ = members := within.out_eq (hlinked.noted _) (hlinked.members _ _ hmembers) hstay
    cases rest with
    | nil => simp

/-! ## Passing the record on -/

namespace Stalls

variable {stop : Stop}

/-- What kept the record from going on after some edits. -/
lemma before (hst : s.Edited Public t) (hheld : t.held = s.held) (h : Stalls k t stop u) :
    Stalls k s stop u := by
  cases h with
  | deep edited => exact .deep (hst.trans edited)
  | waits edited slot serialized locked => exact .waits (hst.trans edited) slot serialized (hheld ▸ locked)
  | drains edited call cut => exact .drains (hst.trans edited) call cut
  | reenters edited handler move call cut => exact .reenters (hst.trans edited) handler move call cut

/-- What keeps a record from going on is no panic: the call is cut off, or waits. -/
lemma cut (h : Stalls k s stop t) : isOver (.error stop : Except Stop Unit) = false := by
  cases h with
  | deep => rfl
  | waits => rfl
  | drains _ _ cut => exact cut
  | reenters _ _ _ _ cut => exact cut

end Stalls

/-- Containing panics does not help where an act was cut off. -/
lemma on_contain_of_cut {α : Type} {act : Act α} {stop : Stop} (hon : act.on s = (.error stop, t))
    (hcut : isOver (.error stop : Except Stop α) = false) :
    act.contain.on s = (.error stop, t) := by
  rw [on_contain, hon]
  cases stop with
  | panicked payload => simp [isOver] at hcut
  | _ => rfl

/-- Whether the calls of a known handler are serialized can be told, without a change. -/
lemma exists_serializes {h : HandlerRef} (hknown : s.Knows h) :
    ∃ serial, (serializes h).on s = (.ok serial, s) := by
  cases h with
  | engine e => exact ⟨false, rfl⟩
  | plain n =>
    have hon := on_handler (s := s) (List.getElem?_eq_getElem hknown)
    rw [serializes, on_bind_of_ok hon]
    cases s.handlers[n] <;> exact ⟨_, rfl⟩

/-- A handler that is no gate keeps the record to itself. -/
lemma gives_keep {h : HandlerRef}
    (hopen : ∀ n filter g, h = .plain n → s.handlers[n]? ≠ some (.gate filter g)) (depth : Nat) :
    ((Reentry.upTo depth).handle h k).Gives (· = k) s fun _ _ => True := by
  cases depth with
  | zero => exact gives_throw _
  | succ depth =>
    cases h with
    | engine e => exact edits_takeRecord (Reentry.edits_upTo depth) e k s
    | plain n =>
      refine gives_handlePlain (Reentry.edits_upTo depth) fun filter g hgate => ?_
      exact absurd hgate (hopen n filter g rfl)

/-- An act that does not come to its end, although its first part does. -/
lemma exists_of_cut {α β : Type} {act : Act α} {f : α → Act β} {stop : Stop}
    (hon : (act >>= f).on s = (.error stop, u))
    (hcut : isOver (.error stop : Except Stop Unit) = false)
    (hover : isOver (act.on s).1 = true) :
    ∃ a t, act.on s = (.ok a, t) ∧ (f a).on t = (.error stop, u) := by
  rcases hact : act.on s with ⟨stop' | a, t⟩
  · rw [on_bind_of_error hact] at hon
    cases hon
    rw [hact] at hover
    cases stop <;> simp_all [isOver]
  · rw [on_bind_of_ok hact] at hon
    exact ⟨a, t, rfl, hon⟩

/-- A script that does not come to an end takes a step that does not. -/
lemma exists_of_script {calls : Reentry} {stop : Stop} (hcalls : calls.Edits (· = k)) (name : String)
    (hcut : isOver (.error stop : Except Stop Unit) = false) :
    ∀ (moves : List (Move Step)) (s : System), s.Linked (· = k) →
      (runScript calls name moves).on s = (.error stop, u) →
        ∃ word step t, .take word step ∈ moves ∧ s.Edited (· = k) t ∧
          (calls.perform step).on t = (.error stop, u)
  | [], _, _, hon => by simp [runScript] at hon
  | .panic payload :: _, _, _, hon => by
    obtain rfl := Except.error.inj (Prod.mk.inj hon).1
    simp [isOver] at hcut
  | .fail error :: _, _, _, hon => by simp [runScript] at hon
  | .take word step :: moves, s, hlinked, hon => by
    have hedited := (hcalls.perform step s hlinked).1
    rcases hstep : (calls.perform step).on s with ⟨stop' | answer, t⟩
    · rw [runScript, on_bind_of_error hstep] at hon
      cases hon
      exact ⟨word, step, s, List.mem_cons_self, .refl s, hstep⟩
    · rw [hstep] at hedited
      rw [runScript, on_bind_of_ok hstep, on_bind_of_ok (on_note _)] at hon
      have hnoted : s.Edited (· = k) (t.noted (.acted name word answer)) :=
        hedited.tail (.noted t _ (by simp))
      obtain ⟨word', step', v, hmem, htv, hend⟩ :=
        exists_of_script hcalls name hcut moves _ (hnoted.linked hlinked) hon
      exact ⟨word', step', v, List.mem_cons_of_mem _ hmem, hnoted.trans htv, hend⟩

/-- A scripted handler that has rendered the message, in the state `v`, goes on with its script. -/
lemma exists_of_handled {calls : Reentry} {n : HandlerId} {behaviour : HandlerBehaviour Step}
    {earlier deaths : Nat} {rec : Record} {v : System} {stop : Stop} (hlinked : t.Linked (· = k))
    (hhandler : t.handlers[n]? = some (.scripted behaviour earlier deaths))
    (hrec : (renderMessage k).on t = (.ok rec, v))
    (hend : (do
      updateHandler n fun _ => .scripted behaviour (earlier + 1) deaths
      note (.handled behaviour.name rec.level rec.message rec.namespaceName (rec.cause.map Cause.display))
      let _ ← runScript calls behaviour.name (behaviour.onRecord earlier rec.message)
      pure () : Act Unit).on v = (.error stop, u)) :
    ∃ w, t.Edited (· = k) w ∧ w.handlers[n]? = some (.scripted behaviour (earlier + 1) deaths) ∧
      (runScript calls behaviour.name (behaviour.onRecord earlier rec.message)).on w =
        (.error stop, u) := by
  have hrender := gives_renderMessage k hlinked
  rw [hrec] at hrender
  have hv : v.handlers[n]? = some (.scripted behaviour earlier deaths) := by
    rw [hrender.2.2 rec rfl, hhandler]
  set w' : System :=
    { v with handlers := v.handlers.modify n fun _ => .scripted behaviour (earlier + 1) deaths }
  set w := w'.noted (.handled behaviour.name rec.level rec.message rec.namespaceName
    (rec.cause.map Cause.display))
  have hworked : t.Edited (· = k) w' := hrender.1.tail (.worked _ hv rfl)
  have hon : (do
      let _ ← runScript calls behaviour.name (behaviour.onRecord earlier rec.message)
      pure () : Act Unit).on w = (.error stop, u) := hend
  refine ⟨w, hworked.tail (.noted w' _ (by simp)), by simp [w, w', noted, hv], ?_⟩
  rcases hscript : (runScript calls behaviour.name (behaviour.onRecord earlier rec.message)).on w with
    ⟨stop' | result, w''⟩
  · rw [on_bind_of_error hscript] at hon
    cases hon
    rfl
  · rw [on_bind_of_ok hscript] at hon
    simp at hon

/-- What keeps a handler from coming to an end with the record, if it is no gate. -/
lemma stalls_of_cut {h : HandlerRef} {depth : Nat} {stop : Stop} (hst : s.Edited Public t)
    (hlinked : t.Linked (· = k))
    (hopen : ∀ n filter g, h = .plain n → t.handlers[n]? ≠ some (.gate filter g))
    (hknown : t.Knows h) (hon : ((Reentry.upTo depth).handle h k).on t = (.error stop, u))
    (hcut : isOver (.error stop : Except Stop Unit) = false) : Stalls k s stop u := by
  cases depth with
  | zero =>
    obtain rfl := Except.error.inj (Prod.mk.inj hon).1
    obtain rfl := (Prod.mk.inj hon).2
    exact .deep hst
  | succ depth =>
    cases h with
    | engine e => exact .drains hst hon hcut
    | plain n =>
      obtain ⟨x, hx⟩ : ∃ x, t.records[k]? = some x :=
        ⟨_, Array.getElem?_eq_getElem (hlinked.secrets k rfl)⟩
      have hrender : isOver ((renderMessage k).on t).1 = true := by
        rw [renderMessage, on_bind_of_ok (on_record hx)]
        cases x.render <;> rfl
      have hhandler : (handler n).on t = _ := on_handler (List.getElem?_eq_getElem hknown)
      change (handlePlain (.upTo depth) n k).on t = _ at hon
      rw [handlePlain, on_bind_of_ok hhandler] at hon
      cases hh : t.handlers[n] with
      | memory kept => simp [hh, updateHandler] at hon
      | stderr layout =>
        have hlayOut : isOver ((layOut layout k).on t).1 = true := by
          rw [layOut, on_bind_of_ok (on_record hx)]
          cases layout.render x <;> rfl
        rw [hh] at hon
        obtain ⟨line, v, -, hend⟩ := exists_of_cut hon hcut hlayOut
        simp [writeError, setMedia, on_bind] at hend
      | gate filter g =>
        exact absurd ((List.getElem?_eq_getElem hknown).trans (congrArg some hh)) (hopen n filter g rfl)
      | scripted behaviour earlier deaths =>
        rw [hh] at hon
        obtain ⟨rec, v, hrec, hend⟩ := exists_of_cut hon hcut hrender
        obtain ⟨w, htw, hw, hscript⟩ := exists_of_handled hlinked
          ((List.getElem?_eq_getElem hknown).trans (congrArg some hh)) hrec hend
        obtain ⟨word, step, v', hmove, hwv, hstep⟩ := exists_of_script (Reentry.edits_upTo depth) _ hcut
          _ w (htw.linked hlinked) hscript
        obtain ⟨h', hh', hnature⟩ := hwv.upholds.handlers n _ hw
        obtain ⟨calls', deaths', rfl⟩ : ∃ calls' deaths', h' = .scripted behaviour calls' deaths' := by
          cases h' <;> simp_all [Handler.nature]
        have hsv := hst.trans (htw.trans hwv).reveal
        cases depth with
        | zero =>
          obtain rfl := Except.error.inj (Prod.mk.inj hstep).1
          obtain rfl := (Prod.mk.inj hstep).2
          exact .deep hsv
        | succ depth => exact .reenters hsv hh' hmove hstep hcut

/-- Calling a gate. -/
lemma on_handle_gate {n : HandlerId} {filter : LevelSet} {x : Record} (depth : Nat)
    (hgate : s.handlers[n]? = some (.gate filter g)) (hx : s.records[k]? = some x) :
    ((Reentry.upTo (depth + 1)).handle (.plain n) k).on s =
      if filter.contains x.level then (dispatchGroup (.upTo depth) g k).on s else (.ok (), s) := by
  change (handlePlain (.upTo depth) n k).on s = _
  rw [handlePlain, on_bind_of_ok (on_handler hgate)]
  simp only
  rw [on_bind_of_ok (on_record hx)]
  split <;> rfl

section Calls

variable {x : Slot} (hslot : s.slot? id = some x) (depth : Nat)

include hslot

/-- A slot whose handler does not come to an end. -/
lemma on_invoke_of_cut {calls : Reentry} {stop : Stop}
    (hserial : (serializes x.handler).on (s.noted (.delivered id k)) =
      (.ok false, s.noted (.delivered id k)))
    (hhandle : (calls.handle x.handler k).on (s.noted (.delivered id k)) = (.error stop, t))
    (hcut : isOver (.error stop : Except Stop Unit) = false) :
    (invoke calls id k).on s = (.error stop, t) := by
  rw [invoke, on_bind_of_ok (on_slot hslot), on_bind_of_ok (on_note _), on_bind_of_ok hserial]
  simp only [Bool.false_eq_true, if_false]
  rw [on_bind_of_error (on_contain_of_cut hhandle hcut)]

/-- A slot hands the record to a handler that keeps it, while the locks `held` are held. -/
lemma conveys_call (held : List LockId) (hlinked : s.Linked (· = k))
    (hopen : ∀ n filter g, x.handler = .plain n → s.handlers[n]? ≠ some (.gate filter g))
    (hstart : (s.noted (.delivered id k)).Edited (· = k) { s.noted (.delivered id k) with held := held })
    (hstop : ∀ t : System, t.held = held → t.Edited (· = k) { t with held := s.held })
    (hover : ∀ result t, ((Reentry.upTo depth).handle x.handler k).on
      { s.noted (.delivered id k) with held := held } = (result, t) → isOver result = true →
        t.held = held → (invoke (.upTo depth) id k).on s = (.ok (), { t with held := s.held }))
    (hcut : ∀ stop t, ((Reentry.upTo depth).handle x.handler k).on
      { s.noted (.delivered id k) with held := held } = (.error stop, t) →
        isOver (.error stop : Except Stop Unit) = false →
          (invoke (.upTo depth) id k).on s = (.error stop, t)) :
    Conveys k s [id] (invoke (.upTo depth) id k) := by
  set u : System := { s.noted (.delivered id k) with held := held }
  have hopen' : ∀ n filter g, x.handler = .plain n → u.handlers[n]? ≠ some (.gate filter g) := hopen
  obtain ⟨hedited, hheld, -⟩ := gives_keep hopen' depth (hstart.linked (hlinked.noted _))
  have hstays : ∀ g, ¬ s.Passes k id g := by
    rintro g ⟨filter, -, ⟨n, lock, hslot', hgate⟩, -⟩
    obtain rfl := Option.some.inj (hslot.symm.trans hslot')
    exact hopen n filter g rfl hgate
  rcases hon : ((Reentry.upTo depth).handle x.handler k).on u with ⟨result, t⟩
  rw [hon] at hedited hheld
  cases hresult : isOver result with
  | true =>
    have hback := hheld hresult
    exact .inl ⟨[id], _, hover result t hon hresult hback,
      .called hslot hstays hon hresult ((hstart.trans hedited).trans (hstop t hback)) (.nil _)⟩
  | false =>
    cases result with
    | ok _ => simp [isOver] at hresult
    | error stop =>
      have hnoted : s.Edited Public (s.noted (.delivered id k)) :=
        .single (.noted s _ fun _ _ _ h => h)
      exact .inr ⟨stop, t, hcut stop t hon hresult,
        stalls_of_cut (hnoted.trans hstart.reveal) (hstart.linked (hlinked.noted _)) hopen'
          (hlinked.knows hslot) hon hresult⟩

/-- **A slot hands the record to a handler that keeps it.** -/
lemma conveys_keep (hlinked : s.Linked (· = k))
    (hopen : ∀ n filter g, x.handler = .plain n → s.handlers[n]? ≠ some (.gate filter g)) :
    Conveys k s [id] (invoke (.upTo depth) id k) := by
  set u := s.noted (.delivered id k)
  have hknown : u.Knows x.handler := hlinked.knows hslot
  obtain ⟨serial, hserial⟩ := exists_serializes hknown
  cases serial with
  | false =>
    have hsame : ∀ t : System, t.held = s.held → { t with held := s.held } = t :=
      fun t ht => by rw [← ht]
    refine conveys_call hslot depth s.held hlinked hopen (.refl u) (fun t ht => ?_)
      (fun result t hon hover ht => ?_) fun stop t hon hcut => on_invoke_of_cut hslot hserial hon hcut
    · rw [hsame t ht]
      exact .refl t
    · rw [hsame t ht]
      exact on_invoke _ hslot hserial hon hover
  | true =>
    by_cases hlock : x.lock ∈ s.held
    · -- the handler is running already
      have hstuck : (holding x.lock (Act.contain ((Reentry.upTo depth).handle x.handler k))).on u =
          (.error .stuck, u) := by
        have hheld : u.held.contains x.lock = true := List.contains_iff_mem.mpr hlock
        rw [holding, on_bind_of_ok on_get]
        simp only [hheld, if_true]
        exact on_bind_of_error (on_throw _) _
      refine .inr ⟨.stuck, u, ?_, .waits (.single (.noted s _ fun _ _ _ h => h)) hslot
        (by rw [hserial]) hlock⟩
      rw [invoke, on_bind_of_ok (on_slot hslot), on_bind_of_ok (on_note _), on_bind_of_ok hserial]
      simp only [if_true]
      rw [on_bind_of_error hstuck]
    · refine conveys_call hslot depth (x.lock :: s.held) hlinked hopen
        (.single (.locked u x.lock)) (fun t ht => ?_) (fun result t hon hover ht => ?_)
        fun stop t hon hcut => ?_
      · have hunlocked : t.Edited (· = k) { t with held := t.held.erase x.lock } :=
          .single (.unlocked t x.lock)
        rwa [ht, List.erase_cons_head] at hunlocked
      · have hinvoke := on_invoke_serialized _ hslot hserial hlock hon hover
        rwa [ht, List.erase_cons_head] at hinvoke
      · rw [invoke, on_bind_of_ok (on_slot hslot), on_bind_of_ok (on_note _), on_bind_of_ok hserial]
        simp only [if_true]
        rw [on_bind_of_error (on_holding_of_free (s := u) hlock (on_contain_of_cut hon hcut))]
        cases stop <;> simp_all [isOver]

end Calls

/-- What gates to be called are allowed: to hand the record on, with calls nested less deep. -/
def Onward (k : RecordId) (depth : Nat) : Prop :=
  ∀ (s : System) (ids : List SlotId), s.Linked (· = k) → (∀ id ∈ ids, s.HasSlot id) →
    Conveys k s ids (invokeAll (.upTo depth) k ids)

/-- The members of a group, as they stand when it is handed a record, are handed the record one
after the other. -/
lemma conveys_group {depth : Nat} {members : List SlotId} (honward : Onward k depth)
    (hlinked : s.Linked (· = k)) (hmembers : s.groups[g]? = some members) :
    Conveys k s members (dispatchGroup (.upTo depth) g k) := by
  have hon : (group g).on s = (.ok members, s) := by rw [on_group, hmembers]
  have hall := honward s members hlinked (hlinked.members g members hmembers)
  unfold Conveys at hall ⊢
  rwa [dispatchGroup, on_bind_of_ok hon]

/-- **A slot hands the record to a gate.** -/
lemma conveys_gate {filter : LevelSet} {depth : Nat} (honward : ∀ d, depth = d + 1 → Onward k d)
    (hlinked : s.Linked (· = k)) (hgate : s.Gated id filter g) :
    Conveys k s [id] (invoke (.upTo depth) id k) := by
  obtain ⟨n, lock, hslot, hhandler⟩ := hgate
  set u := s.noted (.delivered id k)
  have hulinked : u.Linked (· = k) := hlinked.noted _
  have hnoted : s.Edited Public u := .single (.noted s _ fun _ _ _ h => h)
  have hserial : (serializes (.plain n)).on u = (.ok false, u) := by
    have hon : (handler n).on u = _ := on_handler hhandler
    exact on_bind_of_ok hon _
  cases depth with
  | zero =>
    have hnone : ((Reentry.upTo 0).handle (.plain n) k).on u = (.error .exhausted, u) := rfl
    exact .inr ⟨.exhausted, u, on_invoke_of_cut hslot hserial hnone rfl, .deep hnoted⟩
  | succ depth =>
    obtain ⟨x, hx⟩ : ∃ x, s.records[k]? = some x :=
      ⟨_, Array.getElem?_eq_getElem (hlinked.secrets k rfl)⟩
    have hcall := on_handle_gate (s := u) depth hhandler hx
    cases hpass : filter.contains x.level with
    | false =>
      rw [hpass, if_neg (by simp)] at hcall
      have hstays : ∀ g, ¬ s.Passes k id g := by
        rintro g' ⟨filter', x', ⟨n', lock', hslot', hgate'⟩, hx', hpass'⟩
        obtain rfl : n = n' := by
          have heq := Option.some.inj (hslot.symm.trans hslot')
          simpa using congrArg Slot.handler heq
        obtain ⟨rfl, -⟩ := Handler.gate.inj (Option.some.inj (hhandler.symm.trans hgate'))
        obtain rfl := Option.some.inj (hx.symm.trans hx')
        simp [hpass] at hpass'
      refine .inl ⟨[id], u, on_invoke _ hslot hserial hcall rfl, ?_⟩
      exact .called hslot hstays hcall rfl (.refl u) (.nil u)
    | true =>
      rw [hpass, if_pos rfl] at hcall
      obtain ⟨members, hmembers⟩ : ∃ members, s.groups[g]? = some members :=
        ⟨_, List.getElem?_eq_getElem (hlinked.gates n filter g hhandler)⟩
      have hpasses : s.Passes k id g := ⟨filter, x, ⟨n, lock, hslot, hhandler⟩, hx, hpass⟩
      rcases conveys_group (honward depth rfl) hulinked hmembers with
        ⟨out, t, hon, hhanded⟩ | ⟨stop, t, hon, hstalls⟩
      · rw [hon] at hcall
        have hall := HandsOn.passed hpasses hmembers hhanded (.nil t)
        exact .inl ⟨_, t, on_invoke _ hslot hserial hcall rfl, hall⟩
      · rw [hon] at hcall
        have hcut : isOver (.error stop : Except Stop Unit) = false := hstalls.cut
        exact .inr ⟨stop, t, on_invoke_of_cut hslot hserial hcall hcut, hstalls.before hnoted rfl⟩

/-- **A slot hands the record on.** -/
lemma conveys_invoke {depth : Nat} (honward : ∀ d, depth = d + 1 → Onward k d)
    (hlinked : s.Linked (· = k)) (hslot : s.HasSlot id) :
    Conveys k s [id] (invoke (.upTo depth) id k) := by
  obtain ⟨⟨h, lock⟩, hx⟩ := hslot.exists
  by_cases hgate : ∃ n filter g, h = .plain n ∧ s.handlers[n]? = some (.gate filter g)
  · obtain ⟨n, filter, g, rfl, hgate⟩ := hgate
    exact conveys_gate honward hlinked ⟨n, lock, hx, hgate⟩
  · exact conveys_keep hx depth hlinked fun n filter g heq h => hgate ⟨n, filter, g, heq, h⟩

/-- One slot after the other. -/
lemma conveys_all {depth : Nat} (honward : ∀ d, depth = d + 1 → Onward k d) : Onward k depth
  | s, [], _, _ => .inl ⟨[], s, rfl, .nil s⟩
  | s, id :: ids, hlinked, hslots => by
    have hfirst := conveys_invoke honward hlinked (hslots id List.mem_cons_self)
    rcases hfirst with ⟨out, t, hon, hhanded⟩ | ⟨stop, t, hon, hstalls⟩
    · have hrest := conveys_all honward t ids (hhanded.linked hlinked) fun i hi =>
        hhanded.edited.upholds.hasSlot (hslots i (List.mem_cons_of_mem _ hi))
      have heq : (invokeAll (.upTo depth) k (id :: ids)).on s =
          (invokeAll (.upTo depth) k ids).on t := on_bind_of_ok hon _
      rcases hrest with ⟨out', u, hon', hhanded'⟩ | ⟨stop, u, hon', hstalls⟩
      · exact .inl ⟨_, u, heq.trans hon', hhanded.append hhanded'⟩
      · exact .inr ⟨stop, u, heq.trans hon', hstalls.before hhanded.edited hhanded.held⟩
    · exact .inr ⟨stop, t, on_bind_of_error hon _, hstalls⟩

/-- **The record is passed on** to each of the slots, in order, and through gates at once.

**Proof sketch.** Induction on the depth of nesting, since what is behind a gate is one call deeper, and
then on the list of slots. -/
lemma onward : ∀ depth, Onward k depth
  | 0 => conveys_all nofun
  | depth + 1 => conveys_all fun _ hd => Nat.succ.inj hd ▸ onward depth

/-! ## Log calls -/

/-- The slots that a record of the namespace is meant for, if the router is `y`: the registered one, or
those of the default handlers. -/
def aims (s : System) (y : Router) (ns : String) : List SlotId :=
  match (y.registry.resolve ns).1 with
  | .slot id => [id]
  | .defaults => s.groups[y.defaults]?.getD []

variable {r : RouterId} {y : Router} {call : LogCall}

/-- A slot to which a router leads is one that is registered with it. -/
lemma mem_of_resolve {x : Registry} {ns : String} (hcoherent : ∃ spaces, x.Coherent spaces)
    (h : (x.resolve ns).1 = .slot id) : id ∈ x.entries.map Prod.snd := by
  obtain ⟨spaces, hspaces⟩ := hcoherent
  rw [hspaces.route] at h
  obtain ⟨key, hkey, -⟩ := Registry.exists_of_walk_slot h
  obtain ⟨before, after, hsplit, -⟩ := List.lookup_eq_some_iff.mp hkey
  simp [hsplit]

/-- The record of a log call is made, and its route is found. -/
lemma edited_admitted (hy : s.routers[r]? = some y) (call : LogCall) :
    s.Edited Public (s.admitted r y call) := by
  set t := s.noted (.logged r call)
  have hnoted : s.Edited Public t := .single (.noted s _ (by simp))
  have hrecorded := hnoted.tail (.recorded t (t.snapshot y.capture call))
  have hcaptured : s.Edited Public (t.captured y.capture call) :=
    hrecorded.tail (.beside (beside_of_eq rfl rfl rfl rfl rfl rfl rfl rfl rfl))
  have hrouter : (t.captured y.capture call).routers[r]? = some y := hy
  exact hcaptured.tail (.routed _ hrouter (y.follows_resolve call.site.namespaceName))

/-- No name leads to the record of a log call. -/
lemma linked_admitted (hlinked : s.Linked Public) (hy : s.routers[r]? = some y) (call : LogCall) :
    (s.admitted r y call).Linked (· = s.records.size) := by
  refine ((edited_admitted hy call).linked hlinked).conceal ?_ fun entry hmem => ?_
  · exact (Array.getElem?_eq_some_iff.mp (record_admitted r y call)).1
  · exact Nat.ne_of_lt (hlinked.named.records entry hmem).1

/-- What the record of a log call is meant for is there, each slot once. -/
lemma aims_ascending (hlinked : s.Linked Public) (hy : s.routers[r]? = some y) (ns : String) :
    (∀ id ∈ s.aims y ns, s.HasSlot id) ∧ (s.aims y ns).Pairwise (· < ·) := by
  unfold aims
  cases hroute : (y.registry.resolve ns).1 with
  | slot id =>
    refine ⟨fun i hi => ?_, List.pairwise_singleton _ _⟩
    rw [List.mem_singleton.mp hi]
    exact (hlinked.routes r y hy id (mem_of_resolve (hlinked.routers r y hy).coherent hroute)).1
  | defaults =>
    have hmembers := List.getElem?_eq_getElem (hlinked.routers r y hy).defaults
    simp only [hmembers, Option.getD_some]
    exact ⟨hlinked.members _ _ hmembers, hlinked.ascending _ _ hmembers⟩

/-- The record of a log call is passed on. -/
lemma conveys_log (hlinked : s.Linked Public) (hy : s.routers[r]? = some y) (depth : Nat) :
    Conveys s.records.size (s.admitted r y call) (s.aims y call.site.namespaceName)
      (dispatchTo (.upTo depth) ((y.registry.resolve call.site.namespaceName).1.destination y.defaults)
        s.records.size) := by
  have hadmitted := linked_admitted hlinked hy call
  unfold aims
  cases hroute : (y.registry.resolve call.site.namespaceName).1 with
  | slot id =>
    have hslot := (hlinked.routes r y hy id (mem_of_resolve (hlinked.routers r y hy).coherent hroute)).1
    exact conveys_invoke (fun d _ => onward d) hadmitted hslot
  | defaults =>
    have hmembers := List.getElem?_eq_getElem (hlinked.routers r y hy).defaults
    simp only [hmembers, Option.getD_some]
    exact conveys_group (onward depth) hadmitted hmembers

/-- A gate that lets the record of a log call through lets its level through. -/
lemma passes_admitted : (s.admitted r y call).Passes s.records.size id g ↔
    ∃ filter, s.Gated id filter g ∧ filter.contains call.level = true := by
  constructor
  · rintro ⟨filter, x, hgated, hx, hpass⟩
    obtain rfl := Option.some.inj ((record_admitted r y call).symm.trans hx)
    exact ⟨filter, hgated, hpass⟩
  · rintro ⟨filter, hgated, hpass⟩
    exact ⟨filter, _, hgated, record_admitted r y call, hpass⟩

/-- **A log call passes its record on to each of the slots that it is meant for.**  A router that does not
let the level through does nothing at all.  Otherwise, unless something keeps the record from going on,
the call returns normally, whatever handlers do; each slot that was meant when the call began, and no
other one, is handed the record, once and in the order of age, as are the slots behind gates that let it
through. -/
theorem log_delivers (hlinked : s.Linked Public) (hy : s.routers[r]? = some y) (call : LogCall)
    (depth : Nat) :
    let aims := s.aims y call.site.namespaceName
    let after := (log (.upTo depth) r call).on s
    ((y.filter.any fun set => set.contains call.level) = false → after = (.ok (), s)) ∧
    ((y.filter.any fun set => set.contains call.level) = true →
      (∃ stop, after.1 = .error stop ∧ Stalls s.records.size s stop after.2) ∨
      after.1 = .ok () ∧ aims.Pairwise (· < ·) ∧
      ∃ out, HandsOn s.records.size (s.admitted r y call) aims out after.2 ∧
        after.2.takers s.records.size = s.takers s.records.size ++ out ∧
        ((∀ id ∈ aims, ∀ filter g, s.Gated id filter g → filter.contains call.level = false) →
          out = aims) ∧
        ∀ id filter g members, aims = [id] → s.Gated id filter g →
          filter.contains call.level = true → s.groups[g]? = some members →
          (∀ i ∈ members, ∀ filter' g', s.Gated i filter' g' → filter'.contains call.level = false) →
            out = id :: members ∧ (id :: members).Nodup) := by
  intro aims after
  refine ⟨on_log_of_disabled _ hy, fun henabled => ?_⟩
  have hadmitted := linked_admitted hlinked hy call
  have hedited := edited_admitted hy call
  obtain ⟨hslots, hascending⟩ := aims_ascending hlinked hy call.site.namespaceName
  have hon : after = _ := on_log_of_enabled (.upTo depth) hy henabled
  have hconveys : Conveys s.records.size (s.admitted r y call) aims _ := conveys_log hlinked hy depth
  rcases hconveys with ⟨out, t, ht, hhanded⟩ | ⟨stop, t, ht, hstalls⟩
  · rw [hon, ht]
    have htakers : (s.admitted r y call).takers s.records.size = s.takers s.records.size := by
      change (s.noted (.logged r call)).takers s.records.size = _
      rw [takers_noted]
      exact List.append_nil _
    refine .inr ⟨rfl, hascending, out, hhanded, htakers ▸ hhanded.takers, fun hstops => ?_, ?_⟩
    · refine hhanded.out_eq hadmitted hslots fun id hid g hpasses => ?_
      obtain ⟨filter, hgated, hpass⟩ := passes_admitted.mp hpasses
      simp [hstops id hid filter g hgated] at hpass
    · intro id filter g members hone hgated hpass hmembers hstops
      have hpasses : (s.admitted r y call).Passes s.records.size id g :=
        passes_admitted.mpr ⟨filter, hgated, hpass⟩
      have hout : id ∉ members := fun hmem => by simp [hstops id hmem filter g hgated] at hpass
      have hstay : ∀ i ∈ members, ∀ g', ¬ (s.admitted r y call).Passes s.records.size i g' := by
        intro i hi g' hpasses'
        obtain ⟨filter', hgated', hpass'⟩ := passes_admitted.mp hpasses'
        simp [hstops i hi filter' g' hgated'] at hpass'
      exact ⟨(hone ▸ hhanded).out_gate hadmitted hpasses hmembers hstay,
        List.nodup_cons.mpr ⟨hout, (hlinked.ascending g members hmembers).imp Nat.ne_of_lt⟩⟩
  · rw [hon, ht]
    exact .inl ⟨stop, rfl, hstalls.before hedited rfl⟩

/-- A handler that, when it is given the text "x", removes the other handler, adds a new one, logs again
and panics. -/
def meddlingHandler : HandlerBehaviour Step where
  name := "meddler"
  serialized := false
  onRecord _ message :=
    if message = "x" then
      [.take "remove" (.onRouter "router" (.removeDefault 2)),
        .take "add" (.onRouter "router" (.addDefault "late")),
        .take "log" (.onRouter "router" (.log (smallCall "y"))),
        .panic (.text "boom")]
    else []
  onDie _ := []

/-- A router with two default handlers, of which the first one meddles. -/
def meddlingProgram : List Step :=
  [.makeRouter "router" (.ok (.startingAt .info)),
    .makeHandler "meddler" (.scripted meddlingHandler),
    .makeHandler "kept" .memory,
    .makeHandler "late" .memory,
    .onRouter "router" (.addDefault "meddler"),
    .onRouter "router" (.addDefault "kept")]

/-- Both handlers are given the record, although the first one removes the second one and panics. -/
theorem log_delivers_of_meddling : (smallRun meddlingProgram).Linked Public ∧
    ∃ y, (smallRun meddlingProgram).routers[0]? = some y ∧
      (smallRun meddlingProgram).aims y (smallCall "x").site.namespaceName = [1, 2] ∧
      ((log (.upTo 8) 0 (smallCall "x")).on (smallRun meddlingProgram)).1 = .ok () ∧
      ((log (.upTo 8) 0 (smallCall "x")).on (smallRun meddlingProgram)).2.takers
        (smallRun meddlingProgram).records.size = [1, 2] := by
  set s := smallRun meddlingProgram with hs
  have hlinked : s.Linked Public := (reachable_smallRun _).linked
  obtain ⟨y, hy⟩ := Option.isSome_iff_exists.mp (by decide +kernel : s.routers[0]?.isSome = true)
  have hview : s.routers[0]?.map (fun y => (y.filter.any fun set => set.contains .info,
      s.aims y (smallCall "x").site.namespaceName)) = some (true, [1, 2]) := by decide +kernel
  rw [hy, Option.map_some, Option.some.injEq, Prod.mk.injEq] at hview
  obtain ⟨henabled, haims⟩ := hview
  have hnew : s.takers s.records.size = [] := by decide +kernel
  have hnogate : ∀ id ∈ [1, 2], s.gate? id = none := by decide +kernel
  rcases (log_delivers hlinked hy (smallCall "x") 8).2 henabled with ⟨stop, hstop, -⟩ | hdelivered
  · have hok : ((log (.upTo 8) 0 (smallCall "x")).on s).1.toBool = true := by decide +kernel
    rw [hstop] at hok
    simp [Except.toBool] at hok
  · obtain ⟨hok, -, out, -, htakers, hall, -⟩ := hdelivered
    refine ⟨hlinked, y, hy, haims, hok, ?_⟩
    rw [htakers, hnew, List.nil_append, ← haims]
    refine hall fun id hid filter g hgated => ?_
    rw [haims] at hid
    exact absurd (hgated.gate?.symm.trans (hnogate id hid)) (by simp)

end System

end NamespaceLogging
