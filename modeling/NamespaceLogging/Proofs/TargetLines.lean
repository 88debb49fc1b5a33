import NamespaceLogging.Proofs.EffectiveLevels
import NamespaceLogging.Proofs.Writers

/-!
# The lines of a target

A router that is built from settings with a target writes a line there for each log call that is let
through, as long as the target takes them: before the log call returns, and nothing else.

## Main definitions

* `Layout.lineOf`: the line of a record as it is written.
* `System.recordsOf`: the records of log calls, one after the other.
* `System.accepts`: a record that comes to the target.
* `System.Writing`: a router as it was built from settings, at work on its target.

## Main results

* `System.Writing.log`: what one log call writes.
* `System.Writing.logged`: what several log calls write.
-/

set_option autoImplicit false

namespace NamespaceLogging

open Act Namespace

/-- The line of a record with its line break.  There is none if the message cannot be written. -/
def Layout.lineOf (layout : Layout) (record : Record) : String :=
  match layout.render record with
  | .ok (line, _) => line ++ "\n"
  | .error _ => ""

/-- A sink with the layout and the levels of settings, whose target was opened and keeps what is
written there. -/
structure StreamSink.Opened (sink : StreamSink) (st : Settings) (outlet : Outlet) : Prop where
  layout : sink.layout = st.layout
  filter : sink.filter = st.aspectFilter
  writer : sink.writer = some (.make outlet)
  keeps : outlet.Keeps

namespace System

variable {s t : System} {r : RouterId} {y z : Router} {st : Settings} {d : SlotId} {e : EngineId}
  {sink : StreamSink} {outlet : Outlet} {id : RecordId} {record' : Record}

/-! ## What is to be written -/

/-- The records of log calls through a router, one after the other, with the call stacks if the router
wants them. -/
def recordsOf (calls : Reentry) (r : RouterId) (capture : Bool) (s : System) :
    List Occasion → List Record
  | [] => []
  | o :: os =>
    (s.during o).snapshot capture o.call ::
      recordsOf calls r capture ((log calls r o.call).on (s.during o)).2 os

/-- Whether a level passes the gate that the router resolves a namespace to, if that is a gate. -/
def letsPass (s : System) (r : RouterId) (ns : String) (level : Level) : Bool :=
  (s.routers[r]?).any fun y => s.passes y ns level

/-- A record of a level that the router lets through, that passes the gate of its namespace, and that
the target takes. -/
def accepts (s : System) (r : RouterId) (st : Settings) (record : Record) : Bool :=
  st.filter.contains record.level && s.letsPass r record.namespaceName record.level &&
    st.aspectFilter.contains record.level

/-- Whether a router lets a record pass depends on the gate to which the namespace leads. -/
lemma letsPass_eq (hy : s.routers[r]? = some y) (ns : String) (level : Level) :
    s.letsPass r ns level = s.passes y ns level := by
  simp [letsPass, hy]

/-! ## Taking a record -/

/-- **An engine whose target keeps what is written there** writes the line of a record at once, and is
then as it was.

**Proof sketch.** The line is the whole batch, since nothing waited before it, and the batch is written
and flushed. -/
lemma on_takeRecord_of_opened (calls : Reentry) (hx : s.engines[e]? = some (servingEngine st sink r d))
    (hsink : sink.Opened st outlet) (hrec : s.records[id]? = some record') :
    ∃ result t, (takeRecord calls e id).on s = (result, t) ∧ isOver result = true ∧ s.Aside t ∧
      t.engines[e]? = some (servingEngine st sink r d) ∧
      t.media.content outlet = s.media.content outlet ++
        if st.aspectFilter.contains record'.level then st.layout.lineOf record' else "" := by
  have hnoted : s.Aside (s.noted (.hook e (.record id))) := aside_noted rfl
  cases hlevel : st.aspectFilter.contains record'.level with
  | false =>
    have hline : sink.line? record' = .ok none := by
      rw [StreamSink.line?, hsink.filter, hlevel]
      rfl
    exact ⟨_, _, on_takeRecord_of_none hx rfl rfl hrec hline, rfl, hnoted, hx, by simp [noted]⟩
  | true =>
    cases hrender : st.layout.render record' with
    | error fault =>
      have hline : sink.line? record' = .error fault := by
        rw [StreamSink.line?, hsink.filter, hlevel, hsink.layout, hrender]
        rfl
      exact ⟨_, _, on_takeRecord_of_fault hx rfl rfl hrec hline, rfl, hnoted, hx,
        by simp [noted, Layout.lineOf, hrender]⟩
    | ok rendered =>
      obtain ⟨line, laidOut⟩ := rendered
      have hline : sink.line? record' = .ok (some (line, laidOut)) := by
        rw [StreamSink.line?, hsink.filter, hlevel, hsink.layout, hrender]
        rfl
      obtain ⟨m, hprocess, hcontent⟩ :=
        StreamSink.process_of_keeps hsink.writer hsink.keeps [line] s.media
      obtain ⟨u, haside, hu, hmedia, hend⟩ := on_takeRecord_of_line hx rfl rfl hrec calls hline rfl rfl
      have hbatch : (servingEngine st sink r d).queue ++ [line] = [line] := rfl
      rw [hbatch, hprocess] at hu hmedia hend
      refine ⟨_, _, hend _ (on_note (s := u) _), rfl, ?_, ?_, ?_⟩
      · exact haside.trans ((aside_noted rfl).trans (aside_onEngine e _))
      · exact engines_onEngine_self (s := u.noted _) hu
      · change u.media.content outlet = _
        rw [hmedia, hcontent]
        simp [StreamSink.texts, Layout.lineOf, hrender]

/-! ## A router at work -/

/-- The router `r`, which is `y`, stands as it was built from settings and has not been shut down; its
default handler is the engine `e` in the slot `d`, at rest, whose target was opened.  No lock is
held. -/
structure Writing (s : System) (r : RouterId) (st : Settings) (sink : StreamSink) (outlet : Outlet)
    (d : SlotId) (e : EngineId) (y : Router) : Prop where
  arranged : s.Arranged r st y
  running : y.shutDown = false
  aspects : y.aspects = [(d, e)]
  members : s.groups[y.defaults]? = some [d]
  slot : ∃ lock, s.slot? d = some ⟨.engine e, lock⟩
  engine : s.engines[e]? = some (servingEngine st sink r d)
  opened : sink.Opened st outlet
  free : s.held = []

/-- What leaves the objects as they are does not disturb a router at work. -/
lemma Writing.of_same (h : s.Writing r st sink outlet d e y) (hhandlers : t.handlers = s.handlers)
    (hslots : t.slots = s.slots) (hgroups : t.groups = s.groups) (hrouters : t.routers = s.routers)
    (hheld : t.held = s.held) (hengine : t.engines[e]? = some (servingEngine st sink r d)) :
    t.Writing r st sink outlet d e y where
  arranged := h.arranged.continues (hhandlers ▸ List.prefix_rfl) (hslots ▸ List.prefix_rfl)
    (hrouters ▸ h.arranged.router) (.refl y)
  running := h.running
  aspects := h.aspects
  members := hgroups ▸ h.members
  slot := by
    obtain ⟨lock, hslot⟩ := h.slot
    exact ⟨lock, (slot?_congr hslots d).trans hslot⟩
  engine := hengine
  opened := h.opened
  free := hheld.trans h.free

/-- A router that writes to its target stands as its settings say. -/
lemma Writing.standing (h : s.Writing r st sink outlet d e y) : s.Standing r st d y where
  arranged := h.arranged
  attended := by
    obtain ⟨lock, hslot⟩ := h.slot
    exact .engine hslot (serves_servingEngine h.engine h.members) rfl (by simp [h.free])

/-- A router goes on writing when time passes, or the stack and the thread change. -/
lemma Writing.during (h : s.Writing r st sink outlet d e y) (o : Occasion) :
    (s.during o).Writing r st sink outlet d e y :=
  h.of_same rfl rfl rfl rfl rfl h.engine

/-- A record is offered to a router at work. -/
lemma Writing.offered (h : s.Writing r st sink outlet d e y) (call : LogCall) :
    (s.offered r y call).Writing r st sink outlet d e
      { y with registry := (y.registry.resolve call.site.namespaceName).2 } where
  arranged := h.arranged.continues ((handlers_offered s r y call).symm ▸ List.prefix_rfl)
    ((slots_offered s r y call).symm ▸ List.prefix_rfl) (router_offered h.arranged.router call)
    (Router.continues_resolve y _)
  running := h.running
  aspects := h.aspects
  members := (groups_offered s r y call).symm ▸ h.members
  slot := by
    obtain ⟨lock, hslot⟩ := h.slot
    exact ⟨lock, (slot?_congr (slots_offered s r y call) d).trans hslot⟩
  engine := (engines_offered s r y call).symm ▸ h.engine
  opened := h.opened
  free := (held_offered s r y call).trans h.free

/-- A dispatch to the default handlers of a router at work. -/
lemma Writing.dispatch (h : s.Writing r st sink outlet d e y) (depth : Nat)
    (hrec : s.records[id]? = some record') :
    ∃ t, (dispatchGroup (.upTo (depth + 1)) y.defaults id).on s = (.ok (), t) ∧
      t.Writing r st sink outlet d e y ∧
      t.media.content outlet = s.media.content outlet ++
        if st.aspectFilter.contains record'.level then st.layout.lineOf record' else "" := by
  obtain ⟨lock, hslot⟩ := h.slot
  set u := s.noted (.delivered d id)
  have hu : u.Writing r st sink outlet d e y := h.of_same rfl rfl rfl rfl rfl h.engine
  obtain ⟨result, t, htake, hover, haside, hengine, hcontent⟩ :=
    on_takeRecord_of_opened (s := u) (.upTo depth) h.engine h.opened hrec
  have hinvoke := on_invoke (.upTo (depth + 1)) hslot rfl htake hover
  refine ⟨t, on_dispatchGroup_of_one h.members hinvoke, ?_, hcontent⟩
  exact hu.of_same haside.handlers haside.slots haside.groups haside.routers haside.held hengine

/-! ## Log calls -/

/-- Which records are accepted does not change for a router that goes on. -/
lemma accepts_congr (st : Settings) {out : List (SlotId × RecordId)} (hy : s.routers[r]? = some y)
    (hpassage : Passage r s t out) : t.accepts r st = s.accepts r st := by
  obtain ⟨z, hz, hyz⟩ := hpassage.router y hy
  funext record
  simp only [accepts, letsPass_eq hy, letsPass_eq hz, passes_congr hpassage hyz]

/-- **One log call** writes the line of its record to the target, if that is accepted, and else
nothing.  The router goes on.

**Proof sketch.** A record that is let through and passes its gate is dispatched to the engine, which
writes its line if the target takes the level.  Any other log call does nothing that would come to the
target. -/
lemma Writing.log (h : s.Writing r st sink outlet d e y) (n : Nat) (call : LogCall) :
    ∃ t z, (log (.upTo (n + 3)) r call).on s = (.ok (), t) ∧ t.Writing r st sink outlet d e z ∧
      t.accepts r st = s.accepts r st ∧
      t.media.content outlet = s.media.content outlet ++
        if s.accepts r st (s.snapshot st.captureStack call) then
          st.layout.lineOf (s.snapshot st.captureStack call) else "" := by
  have haccepts : s.accepts r st (s.snapshot st.captureStack call) =
      (st.filter.contains call.level && s.passes y call.site.namespaceName call.level &&
        st.aspectFilter.contains call.level) := by
    rw [accepts, letsPass_eq h.arranged.router]
    rfl
  obtain ⟨t, -, hlog, -, -, hpassage⟩ := h.standing.log n call
  have hsame := accepts_congr st h.arranged.router hpassage
  cases henabled : st.filter.contains call.level with
  | false =>
    rw [on_log_of_dropped _ h.arranged henabled] at hlog
    obtain ⟨-, rfl⟩ := Prod.mk.inj hlog
    exact ⟨s, y, on_log_of_dropped _ h.arranged henabled, h, hsame, by simp [haccepts, henabled]⟩
  | true =>
    cases hpasses : s.passes y call.site.namespaceName call.level with
    | false =>
      have hstopped := on_log_of_stopped (n + 2) h.arranged henabled hpasses
      rw [hstopped] at hlog
      obtain ⟨-, rfl⟩ := Prod.mk.inj hlog
      exact ⟨_, _, hstopped, h.offered call, hsame, by simp [haccepts, hpasses]⟩
    | true =>
      obtain ⟨depth, hdepth, hpassed⟩ := on_log_of_passes (n + 2) h.arranged henabled hpasses
      obtain ⟨k, rfl⟩ : ∃ k, depth = k + 1 := ⟨depth - 1, by omega⟩
      obtain ⟨u, hdispatch, hu, hcontent⟩ :=
        (h.offered call).dispatch k (record_offered s r y call)
      have hon := hpassed u hdispatch
      rw [hon] at hlog
      obtain ⟨-, rfl⟩ := Prod.mk.inj hlog
      refine ⟨_, _, hon, hu, hsame, ?_⟩
      rw [hcontent, media_offered, h.arranged.capture, level_snapshot, haccepts, henabled, hpasses]
      rfl

/-- **Log calls write the lines of the records that are accepted**, in order.

**Proof sketch.** Induction on the calls: each one writes its line, and leaves the router as it was. -/
lemma Writing.logged (h : s.Writing r st sink outlet d e y) (n : Nat) (os : List Occasion) :
    ∃ z, (s.logged (.upTo (n + 3)) r os).Writing r st sink outlet d e z ∧
      (s.logged (.upTo (n + 3)) r os).media.content outlet = s.media.content outlet ++
        String.join (((s.recordsOf (.upTo (n + 3)) r st.captureStack os).filter
          (s.accepts r st)).map st.layout.lineOf) := by
  induction os generalizing s y with
  | nil => exact ⟨y, h, by simp [System.logged, recordsOf]⟩
  | cons o os ih =>
    obtain ⟨t, z, hlog, hz, haccepts, hcontent⟩ := (h.during o).log n o.call
    obtain ⟨x, hx, hrest⟩ := ih hz
    have hduring : (s.during o).accepts r st = s.accepts r st := rfl
    have hlogged : s.logged (.upTo (n + 3)) r (o :: os) = t.logged (.upTo (n + 3)) r os := by
      rw [System.logged, List.foldl_cons, hlog]
      rfl
    refine ⟨x, hlogged ▸ hx, ?_⟩
    rw [hlogged, hrest, hcontent, recordsOf, hlog, haccepts, hduring, List.filter_cons]
    split <;> simp [System.during, String.append_assoc]

end System

end NamespaceLogging
