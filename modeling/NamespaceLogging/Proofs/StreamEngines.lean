import NamespaceLogging.Proofs.Passages

/-!
# Engines around a stream sink

A stream sink runs no scripts, so what an engine around it does with a record can be said in
equations: the line is queued and handed over at once, and what comes then depends on whether the
batch could be written.

## Main definitions

* `System.Serves`: an engine around a stream sink serves a router in a slot, or has ended.

## Main results

* `System.on_takeRecord_of_line`: a line is queued and handed over.
* `System.serves_takeRecord`: an engine that serves takes a record without a panic of its own, and goes
  on serving or retires.
-/

set_option autoImplicit false

namespace NamespaceLogging

open Act

namespace System

variable {s t u : System} {r : RouterId} {g : GroupId} {d : SlotId} {e : EngineId} {x : Engine}
  {sink : StreamSink} {calls : Reentry} {id : RecordId} {record' : Record}

/-! ## Hooks -/

/-- The hook of a stream sink that makes an object of a record: a record that is not taken is let
be, another one is laid out, and panics if its message cannot be written. -/
lemma on_runRecord_of_stream (calls : Reentry) (hx : s.engines[e]? = some x)
    (hsink : x.sink = .stream sink) (hrec : s.records[id]? = some record') : (runRecord calls e id).on s =
      match sink.line? record' with
      | .error fault => (.error (.panicked (.text fault.text)), s)
      | .ok none => (.ok none, s)
      | .ok (some (line, laidOut)) =>
        (.ok (some line), { s with records := s.records.modify id fun _ => laidOut }) := by
  rw [runRecord, on_bind_of_ok (on_engine_of_some hx), on_bind_of_ok (on_record hrec)]
  simp only [hsink]
  cases hline : sink.line? record' with
  | error fault => rfl
  | ok line? => cases line? <;> rfl

/-- The batch hook of a stream sink writes the lines to its target, and changes nothing but the sink
and the media. -/
lemma on_runBatch_of_stream (hx : s.engines[e]? = some x) (hsink : x.sink = .stream sink)
    (batch : List String) : (runBatch calls e batch).on s =
      (.ok (sink.process batch s.media).1,
        { s with media := (sink.process batch s.media).2.2 }.onEngine e
          (Engine.withStream (sink.process batch s.media).2.1)) := by
  rw [runBatch, on_bind_of_ok (on_engine_of_some hx)]
  simp only [hsink]
  rfl

/-- The shutdown hook of a stream sink writes what waits and closes the target; it always
returns. -/
lemma on_runShutdown_of_stream (hx : s.engines[e]? = some x) (hsink : x.sink = .stream sink) :
    (runShutdown calls e).on s =
      (.ok (), { s with media := (sink.stop s.media).2 }.onEngine e
        (Engine.withStream (sink.stop s.media).1)) := by
  rw [runShutdown, on_bind_of_ok (on_engine_of_some hx)]
  simp only [hsink]
  rfl

/-- Starting an engine opens its target. -/
lemma on_startEngine_of_stream (calls : Reentry) (hx : s.engines[e]? = some x)
    (hsink : x.sink = .stream sink) :
    ∃ t, (startEngine calls e).on s = (.ok (sink.start s.media).1, t) ∧ s.Aside t ∧
      t.media = (sink.start s.media).2.2 ∧ t.engines[e]? = some { x with
        errors := 0
        starting := false
        sink := .stream (sink.start s.media).2.1 } := by
  set s₁ := (s.onEngine e Engine.beginInit).noted (.hook e .init)
  have hx₁ : s₁.engines[e]? = some x.beginInit := engines_onEngine_self hx
  set s₂ := { s₁ with media := (sink.start s.media).2.2 }.onEngine e
    (Engine.withStream (sink.start s.media).2.1)
  have hx₂ := engines_onEngine_self (s := { s₁ with media := (sink.start s.media).2.2 })
    (f := Engine.withStream (sink.start s.media).2.1) hx₁
  have hinit : (runInit calls e).on s₁ = (.ok (sink.start s.media).1, s₂) := by
    rw [runInit, on_bind_of_ok (on_engine_of_some hx₁)]
    simp only [Engine.beginInit, hsink]
    rfl
  refine ⟨s₂.onEngine e Engine.endInit, ?_, ?_, rfl, engines_onEngine_self (s := s₂) hx₂⟩
  · rw [startEngine, on_bind_of_ok (on_updateEngine _ _), on_bind_of_ok (on_note _), on_after, hinit]
    rfl
  · have hbegin : s.Aside s₁ := (aside_onEngine e _).trans (aside_noted rfl)
    exact hbegin.trans ((aside_media _).trans ((aside_onEngine e _).trans (aside_onEngine e _)))

/-! ## Taking a record -/

section Takes

variable (hx : s.engines[e]? = some x) (hsink : x.sink = .stream sink)
  (hactive : x.state = .active) (hrec : s.records[id]? = some record')

include hx hsink hactive hrec

/-- A record that cannot be laid out is a panic, before anything is queued. -/
lemma on_takeRecord_of_fault {fault : RenderFault} (hline : sink.line? record' = .error fault) :
    (takeRecord calls e id).on s =
      (.error (.panicked (.text fault.text)), s.noted (.hook e (.record id))) := by
  have hrun := on_runRecord_of_stream (s := s.noted (.hook e (.record id))) calls hx hsink hrec
  rw [hline] at hrun
  rw [takeRecord, on_bind_of_ok (on_engine_of_some hx)]
  simp only [hactive, beq_self_eq_true, if_true]
  rw [on_bind_of_ok (on_note _), on_bind_of_error hrun]

/-- A record of a level that the sink does not take is passed over. -/
lemma on_takeRecord_of_none (hline : sink.line? record' = .ok none) :
    (takeRecord calls e id).on s = (.ok (), s.noted (.hook e (.record id))) := by
  have hrun := on_runRecord_of_stream (s := s.noted (.hook e (.record id))) calls hx hsink hrec
  rw [hline] at hrun
  rw [takeRecord, on_bind_of_ok (on_engine_of_some hx)]
  simp only [hactive, beq_self_eq_true, if_true]
  rw [on_bind_of_ok (on_note _), on_bind_of_ok hrun]
  rfl

/-- **A line is queued and handed over**, together with what was queued before; what follows is the end
of the batch. -/
lemma on_takeRecord_of_line (calls : Reentry) {line : String} {laidOut : Record}
    (hline : sink.line? record' = .ok (some (line, laidOut))) (hdrainer : x.drainer = none)
    (hclosed : x.closed = false) :
    ∃ u, s.Aside u ∧
      u.engines[e]? = some { x with
        queue := []
        drainer := some s.thread.id
        sink := .stream (sink.process (x.queue ++ [line]) s.media).2.1 } ∧
      u.media = (sink.process (x.queue ++ [line]) s.media).2.2 ∧
      ∀ t, (endBatch calls e
          (failure? (.ok (sink.process (x.queue ++ [line]) s.media).1))).on u = (.ok (), t) →
        (takeRecord calls e id).on s = (.ok (), t.onEngine e Engine.endDrain) := by
  -- the record is laid out, the line queued, and the drain begins
  set s₁ := s.noted (.hook e (.record id))
  set s₂ : System := { s₁ with records := s₁.records.modify id fun _ => laidOut }
  set s₃ := (s₂.onEngine e (Engine.push line)).noted (.queued e line)
  set s₄ := s₃.onEngine e (Engine.beginDrain s.thread.id)
  set batch := x.queue ++ [line]
  have hrun : (runRecord calls e id).on s₁ = (.ok (some line), s₂) := by
    have h := on_runRecord_of_stream (s := s₁) calls hx hsink hrec
    rwa [hline] at h
  have hx₃ : s₃.engines[e]? = some (x.push line) := engines_onEngine_self (s := s₂) hx
  have hx₄ : s₄.engines[e]? = some ((x.push line).beginDrain s.thread.id) :=
    engines_onEngine_self hx₃
  -- the queue is handed over
  set s₅ := (s₄.onEngine e Engine.takeAll).noted (.hook e (.batch batch))
  set y := ((x.push line).beginDrain s.thread.id).takeAll
  have hx₅ : s₅.engines[e]? = some y := engines_onEngine_self hx₄
  set u := { s₅ with media := (sink.process batch s.media).2.2 }.onEngine e
    (Engine.withStream (sink.process batch s.media).2.1)
  have hbatch : (contain (runBatch calls e batch)).on s₅ =
      (.ok (.ok (sink.process batch s.media).1), u) := by
    have hon : (runBatch calls e batch).on s₅ = (.ok (sink.process batch s.media).1, u) :=
      on_runBatch_of_stream hx₅ hsink batch
    rw [on_contain, hon]
  refine ⟨u, ?_, engines_onEngine_self (s := { s₅ with media := _ }) hx₅, rfl, fun t ht => ?_⟩
  · have h₁ : s.Aside s₁ := aside_noted rfl
    have h₃ : s₁.Aside s₃ := ((aside_records _).trans (aside_onEngine e _)).trans (aside_noted rfl)
    have h₅ : s₃.Aside s₅ := ((aside_onEngine e _).trans (aside_onEngine e _)).trans (aside_noted rfl)
    exact h₁.trans (h₃.trans (h₅.trans ((aside_media _).trans (aside_onEngine e _))))
  · have hdrain : (drain calls e).on s₄ = (.ok batch.length, t) := by
      have hnonempty : (x.queue ++ [line]).isEmpty = false := by simp
      rw [drain, on_bind_of_ok (on_engine_of_some hx₄)]
      simp only [Engine.beginDrain, Engine.push, hclosed, hnonempty, Bool.false_eq_true, if_false]
      rw [on_bind_of_ok (on_updateEngine e Engine.takeAll), on_bind_of_ok (on_note _),
        on_bind_of_ok hbatch, on_bind_of_ok ht]
      rfl
    have htry : (tryDrain calls e).on s₃ = (.ok true, t.onEngine e Engine.endDrain) := by
      rw [tryDrain, on_bind_of_ok (on_engine_of_some hx₃)]
      simp only [Engine.push, hdrainer]
      exact on_bind_of_ok (on_asDrainer hdrain) _
    rw [takeRecord, on_bind_of_ok (on_engine_of_some hx)]
    simp only [hactive, beq_self_eq_true, if_true]
    rw [on_bind_of_ok (on_note _), on_bind_of_ok hrun]
    simp only
    rw [on_bind_of_ok (on_updateEngine e (Engine.push line)), on_bind_of_ok (on_note _),
      on_bind_of_ok htry]
    rfl

end Takes

/-! ## Leaving the router -/

section Left

variable {y : Router} (hy : s.routers[r]? = some y) (hrouter : x.router = some r)
  (hslot : x.slot = some d)

include hy hrouter hslot

/-- An engine that leaves its router takes its slot out of the default handlers, if the router can
be reached. -/
lemma groups_left (why : Ending) : (s.left e x why).groups =
    if s.isAlive r then s.groups.modify y.defaults fun members => members.filter (· != d)
    else s.groups := by
  have hassembly := toAssembly_left (s := s) (e := e) why hrouter hslot
  have hy' : (s.onEngine e Engine.deactivate).routers[r]? = some y := hy
  rw [hassembly]
  split
  · simp only [Assembly.detached, hy']
    rfl
  · rfl

/-- Of a group with one slot, an engine that leaves from that slot leaves at most the slot. -/
lemma members_left (why : Ending) (hmembers : s.groups[y.defaults]? = some [d]) :
    ∃ members, (s.left e x why).groups[y.defaults]? = some members ∧ ∀ id ∈ members, id = d := by
  rw [groups_left hy hrouter hslot]
  split
  · exact ⟨_, group_onGroup hmembers _, by simp⟩
  · exact ⟨_, hmembers, by simp⟩

/-- An engine that leaves its router takes its slot out, and nothing else. -/
lemma passage_left (why : Ending) : Passage r s (s.left e x why) [] where
  handlers := rfl
  slots := by
    have hassembly := Assembly.slots_released
      (a := ((s.onEngine e Engine.deactivate).noted (.deactivated e why)).toAssembly) (x := x)
    exact hassembly
  held := rfl
  router y' hy' := by
    obtain rfl : y = y' := Option.some.inj (hy.symm.trans hy')
    have hassembly := toAssembly_left (s := s) (e := e) why hrouter hslot
    rw [hassembly]
    split
    · refine ⟨{ y with aspects := y.aspects.filter fun entry => entry.1 != d }, ?_,
        ⟨rfl, rfl, rfl, rfl, fun h => h⟩⟩
      simp [Assembly.detached, onEngine, hy]
    · exact ⟨y, hy, .refl y⟩
  reaches := ⟨[.deactivated e why], by simp [history, moments_left], rfl⟩

end Left

/-! ## Serving a router -/

/-- The engine `x` around a stream sink is active and serves the router `r` in the slot `d`, which is
the only one in the group `g`; or it is not active, and may have left the group. -/
structure Serves (s : System) (r : RouterId) (g : GroupId) (d : SlotId) (e : EngineId) (x : Engine) :
    Prop where
  engine : s.engines[e]? = some x
  sink : ∃ sink, x.sink = .stream sink
  starting : x.starting = false
  router : x.router = some r
  place : x.state = .active → x.slot = some d ∧ x.closed = false ∧ s.groups[g]? = some [d]
  members : s.groups[g]? = some [d] ∨ s.groups[g]? = some []

/-- An engine of which only the queue, the sink or the counters have changed serves as before. -/
lemma Serves.of_same {y : Engine} (h : Serves s r g d e x) (hy : t.engines[e]? = some y)
    (hsink : ∃ sink, y.sink = .stream sink) (hstarting : y.starting = x.starting)
    (hrouter : y.router = x.router) (hslot : y.slot = x.slot) (hclosed : y.closed = x.closed)
    (hstate : y.state = x.state) (hgroups : t.groups = s.groups) : Serves t r g d e y where
  engine := hy
  sink := hsink
  starting := hstarting.trans h.starting
  router := hrouter.trans h.router
  place := by rw [hstate, hslot, hclosed, hgroups]; exact h.place
  members := by rw [hgroups]; exact h.members

section Serving

variable {st : Settings} {y : Router}

/-- Dispatching to a group without members does nothing. -/
lemma on_dispatchGroup_of_nil (hmembers : s.groups[g]? = some []) :
    (dispatchGroup calls g id).on s = (.ok (), s) := by
  rw [dispatchGroup, on_bind, on_group, hmembers]
  rfl

/-- A fatal log call through a router without default handlers reaches no one. -/
lemma on_log_of_fatal_of_nil (depth : Nat) (harranged : s.Arranged r st y)
    (hmembers : s.groups[y.defaults]? = some []) {call : LogCall} (hfatal : call.level = .fatal) :
    (log (.upTo (depth + 1)) r call).on s = (.ok (), s.offered r y call) := by
  have henabled : st.filter.contains call.level = true := by rw [hfatal, LevelSet.contains_fatal]
  have hpasses : s.passes y call.site.namespaceName call.level = true := by
    rw [hfatal, passes_fatal]
  obtain ⟨d, -, hlog⟩ := on_log_of_passes depth harranged henabled hpasses
  exact hlog _ (on_dispatchGroup_of_nil (by rw [groups_offered, hmembers]))

/-- Closing an engine around a stream sink. -/
lemma on_close_of_stream (calls : Reentry) (hx : s.engines[e]? = some x)
    (hsink : x.sink = .stream sink) :
    ∃ t, (close calls e).on s = (.ok (), t) ∧ s.Aside t ∧ t.media = (sink.stop s.media).2 ∧
      t.engines[e]? = some { x with closed := true, sink := .stream (sink.stop s.media).1 } := by
  set u := s.closing e
  have hu : u.engines[e]? = some x.close := engines_onEngine_self hx
  set v := { u with media := (sink.stop s.media).2 }.onEngine e
    (Engine.withStream (sink.stop s.media).1)
  have hshutdown : (contain (runShutdown calls e)).on u = (.ok (.ok ()), v) := by
    have hon : (runShutdown calls e).on u = (.ok (), v) := on_runShutdown_of_stream hu hsink
    rw [on_contain, hon]
  refine ⟨v.noted (.closed e), ?_, ?_, rfl, ?_⟩
  · rw [close, on_bind_of_ok (on_updateEngine _ _), on_bind_of_ok (on_note _)]
    exact on_bind_of_ok hshutdown _
  · have hclosing : s.Aside u := (aside_onEngine e _).trans (aside_noted rfl)
    exact hclosing.trans ((aside_media _).trans ((aside_onEngine e _).trans (aside_noted rfl)))
  · exact engines_onEngine_self (s := { u with media := _ }) hu

/-- What an engine that retires does before it says so: it leaves its router, if that can be reached,
and closes its sink. -/
lemma on_retire_of_stream (calls : Reentry) (hserves : Serves s r g d e x) (hactive : x.state = .active)
    (hy : s.routers[r]? = some y) (hdefaults : y.defaults = g) (through : Option RouterId)
    (name : String) (errors : Nat) (error : AspectError) :
    ∃ t z, (retire calls e through name errors error).on s =
        (match through with
          | some r => log calls r (lastRecord name errors error)
          | none => pure () : Act Unit).on t ∧
      Passage r s t [] ∧ Serves t r g d e z ∧ z.state ≠ .active ∧ z.drainer = x.drainer ∧
      t.groups[g]? = some (if s.isAlive r then [] else [d]) := by
  obtain ⟨sink, hsink⟩ := hserves.sink
  obtain ⟨hslot, -, hgroup⟩ := hserves.place hactive
  set s₁ := s.left e x .failing with hs₁
  have hdeactivate : (deactivate e .failing).on s = (.ok true, s₁) := by
    refine on_deactivate .failing hserves.engine hactive hserves.starting fun r' hr' => ?_
    obtain rfl : r = r' := Option.some.inj (hserves.router.symm.trans hr')
    exact ⟨y, hy, hdefaults ▸ (List.getElem?_eq_some_iff.mp hgroup).1⟩
  have hleft : Passage r s s₁ [] := passage_left hy hserves.router hslot .failing
  have hgroups := groups_left (e := e) hy hserves.router hslot .failing
  rw [← hs₁] at hgroups
  obtain ⟨s₂, hclose, haside, -, hx₂⟩ := on_close_of_stream (s := s₁) calls
    (engine_left hserves.engine .failing) hsink
  set s₃ := ((s₂.onEngine e Engine.takeAll).noted (.discarded e x.queue)).noted
    (.disabled e errors error)
  have hz := engines_onEngine_self (f := Engine.takeAll) hx₂
  have haside₃ : s₁.Aside s₃ :=
    haside.trans ((aside_onEngine e _).trans ((aside_noted rfl).trans (aside_noted rfl)))
  have hmembers : s₃.groups[g]? = some (if s.isAlive r then [] else [d]) := by
    rw [haside₃.groups, hgroups]
    split
    · simp [hdefaults, hgroup]
    · exact hgroup
  refine ⟨s₃, _, ?_, hleft.after haside₃, ⟨hz, ⟨_, rfl⟩, hserves.starting, hserves.router, ?_, ?_⟩,
    ?_, rfl, hmembers⟩
  · unfold retire
    rw [on_bind_of_ok hdeactivate, if_pos rfl, on_bind_of_ok hclose,
      on_bind_of_ok (on_discardQueue hx₂), on_bind_of_ok (on_note _)]
    rfl
  · exact fun h => by simp [Engine.takeAll, Engine.deactivate] at h
  · rw [hmembers]
    split
    · exact .inr rfl
    · exact .inl rfl
  · simp [Engine.takeAll, Engine.deactivate]

/-- **An engine that retires** comes to the end of that without reaching anyone.

**Proof sketch.** The router, if it can be reached, has no default handler any more when the last
record is logged through it. -/
lemma serves_retire (depth : Nat) (hserves : Serves s r g d e x) (hactive : x.state = .active)
    (harranged : s.Arranged r st y) (hdefaults : y.defaults = g) (through : Option RouterId)
    (hthrough : ∀ r', through = some r' → r' = r ∧ s.isAlive r = true) (name : String) (errors : Nat)
    (error : AspectError) :
    ∃ t z, (retire (.upTo (depth + 1)) e through name errors error).on s = (.ok (), t) ∧
      Passage r s t [] ∧ Serves t r g d e z ∧ z.drainer = x.drainer := by
  obtain ⟨t, z, hon, hpassage, hz, hended, hdrainer, hmembers⟩ :=
    on_retire_of_stream (.upTo (depth + 1)) hserves hactive harranged.router hdefaults
      through name errors error
  rw [hon]
  cases through with
  | none => exact ⟨t, z, rfl, hpassage, hz, hdrainer⟩
  | some r' =>
    obtain ⟨rfl, halive⟩ := hthrough r' rfl
    obtain ⟨w, hw, hyw⟩ := harranged.passage hpassage
    have hnil : t.groups[w.defaults]? = some [] := by
      rw [hyw.defaults, hdefaults, hmembers, if_pos halive]
    refine ⟨_, z, on_log_of_fatal_of_nil depth hw hnil rfl, hpassage.trans (hw.offered _), ?_, hdrainer⟩
    exact hz.of_same ((engines_offered ..).symm ▸ hz.engine) hz.sink rfl rfl rfl rfl rfl
      (groups_offered ..)

/-- **A failed batch** is counted without reaching anyone, and may be the engine's last. -/
lemma serves_countFailure (depth : Nat) (hserves : Serves s r g d e x) (hactive : x.state = .active)
    (harranged : s.Arranged r st y) (hdefaults : y.defaults = g) (error : AspectError) :
    ∃ t z, (countFailure (.upTo (depth + 1)) e error).on s = (.ok (), t) ∧
      Passage r s t [] ∧ Serves t r g d e z ∧ z.drainer = x.drainer := by
  set u := (s.onEngine e Engine.countFailure).noted (.batchOver e (some error))
  have haside : s.Aside u := (aside_onEngine e _).trans (aside_noted rfl)
  have hu : Serves u r g d e x.countFailure :=
    hserves.of_same (engines_onEngine_self hserves.engine) hserves.sink rfl rfl rfl rfl rfl rfl
  obtain ⟨w, hw, hyw⟩ := harranged.passage (haside.passage r)
  rw [on_countFailure _ hserves.engine]
  split
  · rw [on_disable _ hu.engine, show x.countFailure.router = some r from hserves.router]
    by_cases halive : u.isAlive r = true
    · -- the router is kept alive while the engine retires
      set v : System := { u with inUse := r :: u.inUse }
      have huv : Passage r u v [] := ⟨rfl, rfl, rfl, fun y hy => ⟨y, hy, .refl y⟩, reaches_of_same rfl⟩
      have hv : Serves v r g d e x.countFailure := hu.of_same hu.engine hu.sink rfl rfl rfl rfl rfl rfl
      obtain ⟨w', hw', hww'⟩ := hw.passage huv
      have halive' : v.isAlive r = true := by simp [Assembly.isAlive, v]
      obtain ⟨t, z, hon, hpassage, hz, hdrainer⟩ := serves_retire depth hv hactive hw'
        (hww'.defaults.trans (hyw.defaults.trans hdefaults)) (some r)
        (fun r' hr' => ⟨(Option.some.inj hr').symm, halive'⟩) x.sink.name (x.errors + 1) error
      refine ⟨{ t with inUse := t.inUse.erase r }, z, ?_, ?_, ?_, hdrainer⟩
      · rw [Option.filter_some, if_pos halive]
        exact on_keeping hon rfl
      · refine haside.passage r |>.trans (huv.trans (hpassage.trans ?_))
        exact ⟨rfl, rfl, rfl, fun y hy => ⟨y, hy, .refl y⟩, reaches_of_same rfl⟩
      · exact hz.of_same hz.engine hz.sink rfl rfl rfl rfl rfl rfl
    · obtain ⟨t, z, hon, hpassage, hz, hdrainer⟩ := serves_retire depth hu hactive hw
        (hyw.defaults.trans hdefaults) none (fun r' hr' => by simp at hr') x.sink.name
        (x.errors + 1) error
      refine ⟨t, z, ?_, hpassage.before haside, hz, hdrainer⟩
      rw [Option.filter_some, if_neg halive]
      exact hon
  · exact ⟨u, x.countFailure, rfl, haside.passage r, hu, rfl⟩

/-- **An engine that serves takes a record** to its end, if only by a panic of the layout, reaches no
one and goes on serving, or has ended.

**Proof sketch.** Nothing is done by an engine that is not active.  Else the record is laid out, its
line queued and the queue handed over, and a failure is counted. -/
lemma serves_takeRecord (depth : Nat) (hserves : Serves s r g d e x) (hdrainer : x.drainer = none)
    (harranged : s.Arranged r st y) (hdefaults : y.defaults = g)
    (hrec : s.records[id]? = some record') :
    ∃ result t z, (takeRecord (.upTo (depth + 1)) e id).on s = (result, t) ∧
      isOver result = true ∧ Passage r s t [] ∧ Serves t r g d e z ∧ z.drainer = none := by
  obtain ⟨sink, hsink⟩ := hserves.sink
  by_cases hactive : x.state = .active
  · have hnoted : s.Aside (s.noted (.hook e (.record id))) := aside_noted rfl
    have hserves' : Serves (s.noted (.hook e (.record id))) r g d e x :=
      hserves.of_same hserves.engine hserves.sink rfl rfl rfl rfl rfl rfl
    cases hline : sink.line? record' with
    | error fault =>
      exact ⟨_, _, x, on_takeRecord_of_fault hserves.engine hsink hactive hrec hline, rfl,
        hnoted.passage r, hserves', hdrainer⟩
    | ok line? =>
      cases line? with
      | none =>
        exact ⟨_, _, x, on_takeRecord_of_none hserves.engine hsink hactive hrec hline, rfl,
          hnoted.passage r, hserves', hdrainer⟩
      | some line =>
        obtain ⟨u, haside, hu, -, hend⟩ := on_takeRecord_of_line hserves.engine hsink
          hactive hrec (.upTo (depth + 1)) hline hdrainer (hserves.place hactive).2.1
        have hu' := hserves.of_same hu ⟨_, rfl⟩ rfl rfl rfl rfl rfl haside.groups
        obtain ⟨w, hw, hyw⟩ := harranged.passage (haside.passage r)
        have hbatch : ∃ t z, (endBatch (.upTo (depth + 1)) e (failure? (.ok
            (sink.process (x.queue ++ [line.1]) s.media).1))).on u = (.ok (), t) ∧
            Passage r u t [] ∧ Serves t r g d e z := by
          cases hresult : (sink.process (x.queue ++ [line.1]) s.media).1 with
          | ok value =>
            refine ⟨_, _, on_note _, (aside_noted rfl).passage r,
              hu'.of_same hu ⟨_, rfl⟩ rfl rfl rfl rfl rfl rfl⟩
          | error error =>
            obtain ⟨t, z, hon, hpassage, hz, -⟩ := serves_countFailure depth hu' hactive hw
              (hyw.defaults.trans hdefaults) error
            exact ⟨t, z, hon, hpassage, hz⟩
        obtain ⟨t, z, hon, hpassage, hz⟩ := hbatch
        refine ⟨_, _, z.endDrain, hend t hon, rfl, ?_, ?_, rfl⟩
        · exact (hpassage.before haside).after (aside_onEngine e _)
        · exact hz.of_same (engines_onEngine_self hz.engine) hz.sink rfl rfl rfl rfl rfl rfl
  · refine ⟨.ok (), s, x, ?_, rfl, (Aside.refl s).passage r, hserves, hdrainer⟩
    rw [takeRecord, on_bind_of_ok (on_engine_of_some hserves.engine)]
    simp [hactive]

end Serving

end System

end NamespaceLogging
