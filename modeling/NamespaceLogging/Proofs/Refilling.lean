import NamespaceLogging.Proofs.LastFlush
import NamespaceLogging.Proofs.LazyMessages
import NamespaceLogging.Proofs.TargetShutdown

/-!
# Queues that are filled again

A flush drains until there is nothing left.  What the sink logs in the middle of a batch joins the queue
while the engine is active, and so the next batch is made of it.  A flush therefore goes on for as long as
the batches make the sink log; a sink that logs in every batch is flushed for ever.

## Main definitions

* `System.Refills`, `System.Ceases`: what is taken from the queue, one batch after the other, and how this
  ends.
* `SinkBehaviour.LogsBack`: a sink that does nothing with a batch but log.
* `System.LeadsTo`: log calls through a router come to an engine, and to no one else.
* `LogCall.waiting`: what waits after some batches, if all of them make the sink log.

## Main results

* `System.drainAll_refills`, `System.drainAll_hands_over`: draining until nothing is left.
* `System.on_drainAll_of_logsBack`: which batches a sink that logs is handed.
* `System.flush_refills`: a flush ends when there is nothing left, and not before.
* `System.flush_endless`: a flush that does not end.
-/

set_option autoImplicit false

namespace NamespaceLogging

open Act History

/-! ## Sinks that log -/

/-- The message of a log call, if it can be written. -/
def LogCall.message (call : LogCall) : String := Template.render call.template call.args

/-- What waits after some batches, if the batch `objects`, as the `n`-th one, makes the sink log
`back n objects`. -/
def LogCall.waiting (back : Nat → List String → List LogCall) (first : Nat) (queue : List String) :
    Nat → List String
  | 0 => queue
  | k + 1 => (back (first + k) (waiting back first queue k)).map LogCall.message

/-- A sink that takes every record that it is given, and does nothing with a batch but log through the
router `name`, which lets the levels in `set` through. -/
structure SinkBehaviour.LogsBack (b : SinkBehaviour Step) (name : String) (set : LevelSet)
    (back : Nat → List String → List LogCall) : Prop where
  batch : ∃ word, ∀ n objects, b.onBatch n objects =
    (back n objects).map fun call => .take word (.onRouter name (.log call))
  record : ∀ n message, b.onRecord n message = []
  object : ∀ n message, b.object? n message = some message
  /-- The log calls are let through and taken, and their messages can be written. -/
  accepted : ∀ n objects, ∀ call ∈ back n objects, set.contains call.level = true ∧
    ¬ call.level < b.least ∧ Template.checked call.template call.args = .ok call.message

namespace System

variable {s t u : System} {e : EngineId} {x y : Engine} {calls : Reentry} {b : SinkBehaviour Step}
  {name : String} {set : LevelSet} {back : Nat → List String → List LogCall} {call : LogCall}

/-! ## One batch after the other -/

/-- One drain after the other takes what waits, and comes to its end.  An engine that has closed meanwhile
drops it. -/
inductive Refills (calls : Reentry) (e : EngineId) : System → List (List String) → System → Prop
  | none (s : System) : Refills calls e s [] s
  | more {s t u : System} {x : Engine} {n : Nat} {later : List (List String)}
      (engine : s.engines[e]? = some x) (waits : x.queue ≠ []) (drained : (drain calls e).on s = (.ok n, t))
      (rest : Refills calls e t later u) : Refills calls e s (x.queue :: later) u

/-- A drain gives the number of objects that it took from the queue. -/
lemma drain_counts {n : Nat} (hx : s.engines[e]? = some x) (hon : (drain calls e).on s = (.ok n, t)) :
    n = x.queue.length := by
  cases hclosed : x.closed with
  | true =>
    rw [on_drain_of_closed calls hx hclosed] at hon
    cases hon
    rfl
  | false =>
    by_cases hqueue : x.queue = []
    · rw [on_drain_of_nil calls hx hclosed hqueue] at hon
      cases hon
      rw [hqueue, List.length_nil]
    · rw [on_drain_of_waiting calls hx hclosed hqueue, on_bind] at hon
      split at hon
      · rw [on_bind] at hon
        split at hon
        · cases hon
          rfl
        · cases hon
      · cases hon

/-- **What waits is handed over, all of it and in one batch**, whatever comes of the batch. -/
lemma drain_hands_over (hcalls : calls.Regular) (hsound : s.Sound) (hx : s.engines[e]? = some x)
    (hdrainer : x.drainer ≠ none) (hidle : Idle e s.history) (hclosed : x.closed = false)
    (hqueue : x.queue ≠ []) :
    ∃ new, ((drain calls e).on s).2.history = s.history ++ Entry.hook e (.batch x.queue) :: new := by
  have hrest := leaves_batch hcalls hsound hx hdrainer hidle hclosed hqueue
  obtain ⟨new, hnew⟩ := hrest.1.lasts.history
  exact ⟨new, by rw [on_drain_of_waiting calls hx hclosed hqueue, hnew, history_handing]; simp⟩

/-- A batch that returns successfully. -/
lemma on_drain_of_returned (calls : Reentry) (hx : s.engines[e]? = some x) (hclosed : x.closed = false)
    (hqueue : x.queue ≠ []) (hbatch : (runBatch calls e x.queue).on (s.handing e x) = (.ok (.ok ()), t)) :
    (drain calls e).on s = (.ok x.queue.length, t.noted (.batchOver e none)) := by
  have hcontained : (contain (runBatch calls e x.queue)).on (s.handing e x) =
      (.ok (.ok (.ok ())), t) := by
    rw [on_contain, hbatch]
  rw [on_drain_of_waiting calls hx hclosed hqueue, on_bind_of_ok hcontained]
  rfl

/-- How draining ends, in some rounds, after it has taken some batches from the queue. -/
inductive Ceases (calls : Reentry) (e : EngineId) (rounds taken : Nat) (s : System) :
    Except Stop Unit × System → Prop
  /-- There is nothing left. -/
  | empty {x : Engine} {t : System} (early : taken < rounds) (engine : s.engines[e]? = some x)
      (nothing : x.queue = []) (drained : (drain calls e).on s = (.ok 0, t)) :
      Ceases calls e rounds taken s (.ok (), t)
  /-- The drain does not come to its end, for a batch that does not return successfully. -/
  | stopped {x : Engine} {stop : Stop} {t : System} (early : taken < rounds)
      (engine : s.engines[e]? = some x) (waits : x.queue ≠ [])
      (batch : ∀ u, (runBatch calls e x.queue).on (s.handing e x) ≠ (.ok (.ok ()), u))
      (drained : (drain calls e).on s = (.error stop, t)) :
      Ceases calls e rounds taken s (.error stop, t)
  /-- All the rounds have taken something, and there are no more rounds. -/
  | used (late : taken = rounds) : Ceases calls e rounds taken s (.error .exhausted, s)

/-- How draining ends in some rounds, it ends in more of them, of which the first one has taken a
batch. -/
lemma Ceases.later {rounds taken : Nat} {end' : Except Stop Unit × System}
    (h : Ceases calls e rounds taken s end') : Ceases calls e (rounds + 1) (taken + 1) s end' := by
  cases h with
  | empty early engine nothing drained => exact .empty (Nat.succ_lt_succ early) engine nothing drained
  | stopped early engine waits batch drained =>
    exact .stopped (Nat.succ_lt_succ early) engine waits batch drained
  | used late => exact .used (congrArg _ late)

/-- A drain that does not come to its end has handed over a batch, which has not returned
successfully. -/
lemma exists_batch_of_error {stop : Stop} (hx : s.engines[e]? = some x)
    (hon : (drain calls e).on s = (.error stop, t)) : x.queue ≠ [] ∧
      ∀ u, (runBatch calls e x.queue).on (s.handing e x) ≠ (.ok (.ok ()), u) := by
  cases hclosed : x.closed with
  | true =>
    rw [on_drain_of_closed calls hx hclosed] at hon
    cases hon
  | false =>
    have hqueue : x.queue ≠ [] := by
      intro hqueue
      rw [on_drain_of_nil calls hx hclosed hqueue] at hon
      cases hon
    refine ⟨hqueue, fun u hbatch => ?_⟩
    rw [on_drain_of_returned calls hx hclosed hqueue hbatch] at hon
    cases hon

/-- **How draining until nothing is left goes.**  It takes one batch after the other, until nothing is
left, a batch does not return, or there are no more rounds.

**Proof sketch.** Induction on the rounds, by what the first drain gives. -/
lemma drainAll_refills (hcalls : calls.Regular) : ∀ (rounds : Nat) (s : System) (x : Engine),
    s.Sound → s.engines[e]? = some x → x.drainer ≠ none → Idle e s.history →
    ∃ batches t, Refills calls e s batches t ∧
      Ceases calls e rounds batches.length t ((drainAll calls e rounds).on s)
  | 0, s, _, _, _, _, _ => ⟨[], s, .none s, .used rfl⟩
  | rounds + 1, s, x, hsound, hx, hdrainer, hidle => by
    have hworks := works_drain hcalls e s x hsound hx hdrainer hidle
    rcases hdrain : (drain calls e).on s with ⟨stop | n, t⟩
    · have hall : (drainAll calls e (rounds + 1)).on s = (.error stop, t) := on_bind_of_error hdrain _
      obtain ⟨hqueue, hbatch⟩ := exists_batch_of_error hx hdrain
      exact ⟨[], s, .none s, hall ▸ .stopped (Nat.succ_pos _) hx hqueue hbatch hdrain⟩
    obtain rfl := drain_counts hx hdrain
    have hall : (drainAll calls e (rounds + 1)).on s = _ := on_bind_of_ok hdrain _
    by_cases hqueue : x.queue = []
    · rw [hqueue] at hdrain
      rw [hqueue, List.length_nil, if_pos rfl] at hall
      exact ⟨[], s, .none s, hall ▸ .empty (Nat.succ_pos _) hx hqueue hdrain⟩
    · rw [if_neg (by rwa [List.length_eq_zero_iff])] at hall
      rw [Leaves, hdrain] at hworks
      obtain ⟨hst, -, y, hy, hsame, hxy⟩ := hworks
      obtain ⟨batches, u, hrefills, hceases⟩ := drainAll_refills hcalls rounds t y
        (hst.sound hsound) hy (hsame ▸ hdrainer) hxy.idle
      exact ⟨x.queue :: batches, u, .more hx hqueue hdrain hrefills, hall ▸ hceases.later⟩

/-- **What waits is handed over by the first round**, whatever the others do. -/
lemma drainAll_hands_over (hcalls : calls.Regular) (hsound : s.Sound) (hx : s.engines[e]? = some x)
    (hdrainer : x.drainer ≠ none) (hidle : Idle e s.history) (hclosed : x.closed = false)
    (hqueue : x.queue ≠ []) (rounds : Nat) : ∃ new,
    ((drainAll calls e (rounds + 1)).on s).2.history = s.history ++ Entry.hook e (.batch x.queue) :: new := by
  obtain ⟨new, hnew⟩ := drain_hands_over hcalls hsound hx hdrainer hidle hclosed hqueue
  have hworks := works_drain hcalls e s x hsound hx hdrainer hidle
  rcases hdrain : (drain calls e).on s with ⟨stop | n, t⟩ <;> rw [hdrain] at hnew
  · have hall : (drainAll calls e (rounds + 1)).on s = (.error stop, t) := on_bind_of_error hdrain _
    exact ⟨new, hall ▸ hnew⟩
  rw [Leaves, hdrain] at hworks
  obtain ⟨hst, -, y, hy, hsame, hxy⟩ := hworks
  have hall : (drainAll calls e (rounds + 1)).on s = _ := on_bind_of_ok hdrain _
  by_cases hn : n = 0
  · rw [if_pos hn] at hall
    exact ⟨new, hall ▸ hnew⟩
  · rw [if_neg hn] at hall
    have hrest := works_drainAll hcalls e rounds t y (hst.sound hsound) hy (hsame ▸ hdrainer) hxy.idle
    obtain ⟨later, hlater⟩ := hrest.1.lasts.history
    refine ⟨new ++ later, ?_⟩
    rw [hall, hlater, hnew, List.append_assoc]
    rfl

/-! ## Log calls that come back -/

/-- Log calls through the router `name` come to the engine, and to no one else: they are let through if
their level is in `set`. -/
def LeadsTo (s : System) (name : String) (set : LevelSet) (e : EngineId) : Prop :=
  ∃ r y d lock, s.names.routers.lookup name = some r ∧ s.routers[r]? = some y ∧ y.filter = some set ∧
    (∀ ns, (y.registry.resolve ns).1 = .defaults) ∧ s.groups[y.defaults]? = some [d] ∧
    s.slot? d = some ⟨.engine e, lock⟩

/-- Where log calls come to depends on names, routers, groups and slots alone. -/
lemma LeadsTo.of_eq (h : s.LeadsTo name set e) (hnames : t.names = s.names)
    (hrouters : t.routers = s.routers) (hgroups : t.groups = s.groups) (hslots : t.slots = s.slots) :
    t.LeadsTo name set e := by
  obtain ⟨r, y, d, lock, hname, hy, hfilter, hroutes, hmembers, hslot⟩ := h
  refine ⟨r, y, d, lock, hnames ▸ hname, hrouters ▸ hy, hfilter, hroutes, hgroups ▸ hmembers, ?_⟩
  rw [← hslot]
  cases d <;> simp [Assembly.slot?, hslots]

/-- A registry that sends all records to the default handlers goes on doing so. -/
lemma defaults_resolve {registry : Registry} (h : ∀ ns, (registry.resolve ns).1 = .defaults)
    (ns ns' : String) : ((registry.resolve ns).2.resolve ns').1 = .defaults := by
  have hfst : ∀ (g : Registry) ns, (g.resolve ns).1 = (g.found.lookup ns).getD (g.lookup ns) := by
    intro g ns
    rw [Registry.resolve]
    cases g.found.lookup ns <;> rfl
  cases hfound : registry.found.lookup ns with
  | some route =>
    have hsame : (registry.resolve ns).2 = registry := by rw [Registry.resolve, hfound]
    rw [hsame, h ns']
  | none =>
    have hmore : (registry.resolve ns).2 =
        { registry with found := (ns, registry.lookup ns) :: registry.found } := by
      rw [Registry.resolve, hfound]
    have hns := h ns
    rw [hfst, hfound, Option.getD_none] at hns
    rw [hmore, hfst, List.lookup_cons]
    cases ns' == ns with
    | true => exact hns
    | false => exact (hfst registry ns').symm.trans (h ns')

/-- The engine, which is `x`, is active around a sink that is a script. -/
structure Around (b : SinkBehaviour Step) (x : Engine) : Prop where
  sink : x.sink = .scripted b
  active : x.state = .active
  opened : x.closed = false

/-- A record that comes to the engine joins its queue, and the rest is left to the drain. -/
lemma on_takeRecord_of_around {k : RecordId} {rec : Record} (calls : Reentry)
    (hx : s.engines[e]? = some x) (haround : Around b x) (hrec : s.records[k]? = some rec)
    (hlevel : ¬ rec.level < b.least) (hquiet : ∀ n message, b.onRecord n message = [])
    (htaken : ∀ n message, b.object? n message = some message) {rec' : Record}
    (hrender : rec.render = .ok rec') :
    ∃ t, (takeRecord calls e k).on s = (do let _ ← tryDrain calls e : Act Unit).on t ∧
      t.names = s.names ∧ t.routers = s.routers ∧ t.groups = s.groups ∧ t.slots = s.slots ∧
      batches e t.history = batches e s.history ∧ t.engines[e]? = some { x with
        queue := x.queue ++ [rec'.message]
        calls.record := x.calls.record + 1 } := by
  set s₁ := s.noted (.hook e (.record k))
  set s₂ : System := { s₁ with records := s₁.records.modify k fun _ => rec' }
  set count : Engine → Engine := fun z => { z with calls.record := z.calls.record + 1 }
  set s₃ := s₂.onEngine e count
  have hx₃ : s₃.engines[e]? = some (count x) := engines_onEngine_self (s := s₂) hx
  have hrun : (runRecord calls e k).on s₁ = (.ok (some rec'.message), s₃) := by
    have hmessage : (renderMessage k).on s₁ = (.ok rec', s₂) := by
      rw [renderMessage, on_bind_of_ok (on_record (s := s₁) hrec), hrender]
      rfl
    rw [runRecord, on_bind_of_ok (on_engine_of_some (s := s₁) hx), on_bind_of_ok (on_record (s := s₁) hrec)]
    simp only [haround.sink, hlevel, if_false]
    rw [on_bind_of_ok hmessage, on_bind_of_ok (on_updateEngine e count), hquiet, htaken]
    rfl
  refine ⟨(s₃.onEngine e (Engine.push rec'.message)).noted (.queued e rec'.message), ?_, rfl, rfl, rfl,
    rfl, ?_, engines_onEngine_self hx₃⟩
  · rw [takeRecord, on_bind_of_ok (on_engine_of_some hx)]
    simp only [haround.active, beq_self_eq_true, if_true]
    rw [on_bind_of_ok (on_note _), on_bind_of_ok hrun]
    simp only
    rw [on_bind_of_ok (on_updateEngine e (Engine.push rec'.message)), on_bind_of_ok (on_note _)]
  · have hhistory : ((s₃.onEngine e (Engine.push rec'.message)).noted
        (.queued e rec'.message)).history =
        s.history ++ [.hook e (.record k)] ++ [.queued e rec'.message] := by
      rw [← history_noted (s := s)]
      exact history_noted _
    rw [hhistory]
    simp [batches]

/-- While somebody drains the engine, nobody else does. -/
lemma on_tryDrain_of_drained (calls : Reentry) (hx : s.engines[e]? = some x) (hdrainer : x.drainer ≠ none) :
    (do let _ ← tryDrain calls e : Act Unit).on s = (.ok (), s) := by
  have htry : (tryDrain calls e).on s = (.ok false, s) := by
    rw [tryDrain, on_bind_of_ok (on_engine_of_some hx)]
    cases hthread : x.drainer with
    | none => exact absurd hthread hdrainer
    | some thread => rfl
  exact on_bind_of_ok htry _

/-- If nobody drains the engine, this one does, and once. -/
lemma on_tryDrain_of_free {n : Nat} (calls : Reentry) (hx : s.engines[e]? = some x)
    (hdrainer : x.drainer = none)
    (hdrain : (drain calls e).on (s.onEngine e (Engine.beginDrain s.thread.id)) = (.ok n, t)) :
    (do let _ ← tryDrain calls e : Act Unit).on s = (.ok (), t.onEngine e Engine.endDrain) := by
  have htry : (tryDrain calls e).on s = (.ok true, t.onEngine e Engine.endDrain) := by
    rw [tryDrain, on_bind_of_ok (on_engine_of_some hx)]
    simp only [hdrainer]
    exact on_bind_of_ok (on_asDrainer hdrain) _
  exact on_bind_of_ok htry _

/-- **A log call comes to the engine**: its message joins the queue, and then somebody may drain. -/
lemma on_perform_log (depth : Nat) (hleads : s.LeadsTo name set e) (hx : s.engines[e]? = some x)
    (haround : Around b x) (hquiet : ∀ n message, b.onRecord n message = [])
    (htaken : ∀ n message, b.object? n message = some message)
    (hcall : set.contains call.level = true ∧ ¬ call.level < b.least ∧
      Template.checked call.template call.args = .ok call.message) :
    ∃ u r, u.LeadsTo name set e ∧ batches e u.history = batches e s.history ∧
      u.engines[e]? = some { x with
        queue := x.queue ++ [call.message]
        calls.record := x.calls.record + 1 } ∧
      ∀ t, (do let _ ← tryDrain (.upTo depth) e : Act Unit).on u = (.ok (), t) →
        (perform (.upTo (depth + 1)) (.onRouter name (.log call))).on s =
          (.ok .nothing, { t with inUse := t.inUse.erase r }) := by
  obtain ⟨r, y, d, lock, hname, hy, hfilter, hroutes, hmembers, hslot⟩ := hleads
  obtain ⟨hpasses, hlevel, hwritten⟩ := hcall
  -- the router lets the call through and makes its record
  set s₁ : System := { s with inUse := r :: s.inUse } with hs₁
  set k := s.records.size
  set s₂ := s₁.admitted r y call with hs₂
  have hmade : s₂.records[k]? = some (s₁.snapshot y.capture call) := record_admitted r y call
  have hrouter : s₂.routers[r]? =
      some { y with registry := (y.registry.resolve call.site.namespaceName).2 } := by
    simp only [hs₂, admitted, onRouter, List.getElem?_modify_eq]
    exact congrArg (Option.map _) hy
  have hrender : (s₁.snapshot y.capture call).render =
      .ok { s₁.snapshot y.capture call with cached := some call.message } := by
    rw [(Record.coherent_of_none rfl).render_eq]
    exact congrArg (Except.map _) hwritten
  -- the record comes to the engine
  obtain ⟨u, htake, hnames, hrouters, hgroups, hslots, hbatches, hengine⟩ :=
    on_takeRecord_of_around (.upTo depth) (s := s₂.noted (.delivered d k)) hx haround hmade hlevel
      hquiet htaken hrender
  refine ⟨u, r, ?_, ?_, hengine, fun t htry => ?_⟩
  · have hleads : s₂.LeadsTo name set e :=
      ⟨r, _, d, lock, hname, hrouter, hfilter, defaults_resolve hroutes _, hmembers, hslot⟩
    exact hleads.of_eq hnames hrouters hgroups hslots
  · have hhistory : (s₂.noted (.delivered d k)).history =
        s.history ++ [.logged r call] ++ [.delivered d k] := by
      rw [history_noted]
      exact congrArg (· ++ _) (history_noted (s := s₁) _)
    rw [hbatches, hhistory]
    simp [batches]
  have hinvoke : (invoke (.upTo (depth + 1)) d k).on s₂ = (.ok (), t) :=
    on_invoke (.upTo (depth + 1)) hslot rfl (htake.trans htry) rfl
  have hgroup : (group y.defaults).on s₂ = (.ok [d], s₂) := by
    rw [on_group, show s₂.groups[y.defaults]? = some [d] from hmembers]
  have hlog : (log (.upTo (depth + 1)) r call).on s₁ = (.ok (), t) := by
    have henabled : (y.filter.any fun set => set.contains call.level) = true := by
      rw [hfilter]
      exact hpasses
    rw [on_log_of_enabled _ (show s₁.routers[r]? = some y from hy) henabled, hroutes]
    change (dispatchGroup (.upTo (depth + 1)) y.defaults k).on s₂ = _
    rw [dispatchGroup, on_bind_of_ok hgroup, invokeAll, on_bind_of_ok hinvoke]
    rfl
  have hact : (performRouter (.upTo (depth + 1)) r (.log call)).on s₁ = (.ok .nothing, t) :=
    on_bind_of_ok hlog _
  have hnamed : (named Names.routers name).on s = (.ok r, s) := by
    rw [named, on_bind_of_ok on_get, on_require, hname]
  change (withNamed name fun r => performRouter (.upTo (depth + 1)) r (.log call)).on s = _
  rw [withNamed, on_bind_of_ok hnamed]
  exact on_keeping hact rfl

/-- A script of log calls, while somebody drains the engine: one message after the other joins the
queue, and nothing else happens. -/
lemma on_runScript_log (depth : Nat) (word : String) (hback : b.LogsBack name set back)
    (n : Nat) (objects : List String) : ∀ (calls : List LogCall) (s : System) (x : Engine),
    (∀ call ∈ calls, call ∈ back n objects) → s.LeadsTo name set e → s.engines[e]? = some x →
    Around b x → x.drainer ≠ none →
    ∃ t y, (runScript (.upTo (depth + 2)) b.name
        (calls.map fun call => .take word (.onRouter name (.log call)))).on s = (.ok (.ok ()), t) ∧
      t.LeadsTo name set e ∧ batches e t.history = batches e s.history ∧ t.engines[e]? = some y ∧
      Around b y ∧ y.drainer = x.drainer ∧ y.queue = x.queue ++ calls.map LogCall.message ∧
      y.calls.batch = x.calls.batch
  | [], s, x, _, hleads, hx, haround, _ =>
    ⟨s, x, rfl, hleads, rfl, hx, haround, rfl, (List.append_nil _).symm, rfl⟩
  | call :: calls, s, x, hcalls, hleads, hx, haround, hdrainer => by
    obtain ⟨u, r, huleads, hubatches, hu, hperform⟩ := on_perform_log depth hleads hx haround
      hback.record hback.object (hback.accepted n objects call (hcalls call List.mem_cons_self))
    set t : System := { u with inUse := u.inUse.erase r }
    have hstep : ((Reentry.upTo (depth + 2)).perform (.onRouter name (.log call))).on s =
        (.ok .nothing, t) := hperform u (on_tryDrain_of_drained _ hu hdrainer)
    obtain ⟨v, z, hscript, hvleads, hvbatches, hv, hvaround, hsame, hqueue, hcount⟩ :=
      on_runScript_log depth word hback n objects calls (t.noted (.acted b.name word .nothing)) _
        (fun call hcall => hcalls call (List.mem_cons_of_mem _ hcall))
        (huleads.of_eq rfl rfl rfl rfl) hu ⟨haround.sink, haround.active, haround.opened⟩ hdrainer
    refine ⟨v, z, ?_, hvleads, ?_, hv, hvaround, hsame, ?_, hcount⟩
    · rw [List.map_cons, runScript, on_bind_of_ok hstep, on_bind_of_ok (on_note _)]
      exact hscript
    · rw [hvbatches, history_noted, ← hubatches, batches_append]
      exact List.append_nil _
    · rw [hqueue, List.append_assoc]
      rfl

/-- **A batch makes the sink log**, and what it logs waits for the next batch. -/
lemma on_drain_of_logsBack (depth : Nat) (hback : b.LogsBack name set back)
    (hleads : s.LeadsTo name set e) (hx : s.engines[e]? = some x) (haround : Around b x)
    (hdrainer : x.drainer ≠ none) (hqueue : x.queue ≠ []) :
    ∃ t y, (drain (.upTo (depth + 2)) e).on s = (.ok x.queue.length, t) ∧ t.LeadsTo name set e ∧
      batches e t.history = batches e s.history ++ [x.queue] ∧ t.engines[e]? = some y ∧
      Around b y ∧ y.drainer ≠ none ∧ y.queue = (back x.calls.batch x.queue).map LogCall.message ∧
      y.calls.batch = x.calls.batch + 1 := by
  obtain ⟨word, hscript⟩ := hback.batch
  set count : Engine → Engine := fun z => { z with calls.batch := z.calls.batch + 1 }
  set u := s.handing e x
  set v := u.onEngine e count
  have hu : u.engines[e]? = some x.takeAll := engine_handing hx
  have hv : v.engines[e]? = some (count x.takeAll) := engines_onEngine_self hu
  obtain ⟨t, y, hrun, htleads, htbatches, ht, htaround, hsame, htqueue, htcount⟩ :=
    on_runScript_log depth word hback x.calls.batch x.queue (back x.calls.batch x.queue) v _
      (fun _ h => h) (hleads.of_eq rfl rfl rfl rfl) hv
      ⟨haround.sink, haround.active, haround.opened⟩ hdrainer
  have hbatch : (runBatch (.upTo (depth + 2)) e x.queue).on u = (.ok (.ok ()), t) := by
    rw [runBatch, on_bind_of_ok (on_engine_of_some hu)]
    simp only [Engine.takeAll, haround.sink]
    rw [on_bind_of_ok (on_updateEngine e count), hscript]
    exact hrun
  refine ⟨t.noted (.batchOver e none), y, on_drain_of_returned _ hx haround.opened hqueue hbatch,
    htleads.of_eq rfl rfl rfl rfl, ?_, ht, htaround, hsame.trans_ne hdrainer, htqueue, htcount⟩
  have hvbatches : batches e v.history = batches e s.history ++ [x.queue] := by
    change batches e u.history = _
    rw [history_handing]
    simp [batches]
  rw [history_noted, batches_append, htbatches, hvbatches]
  simp [batches]

/-- **A log call from outside**, when nothing waits: its message is handed over at once, and what that
batch makes the sink log is left waiting. -/
lemma on_perform_log_of_logsBack (depth : Nat) (hback : b.LogsBack name set back)
    (hleads : s.LeadsTo name set e) (hx : s.engines[e]? = some x) (haround : Around b x)
    (hdrainer : x.drainer = none) (hqueue : x.queue = [])
    (hcall : set.contains call.level = true ∧ ¬ call.level < b.least ∧
      Template.checked call.template call.args = .ok call.message) :
    ∃ t y, (perform (.upTo (depth + 3)) (.onRouter name (.log call))).on s = (.ok .nothing, t) ∧
      t.LeadsTo name set e ∧ batches e t.history = batches e s.history ++ [[call.message]] ∧
      t.engines[e]? = some y ∧ Around b y ∧ y.drainer = none ∧
      y.queue = (back x.calls.batch [call.message]).map LogCall.message ∧
      y.calls.batch = x.calls.batch + 1 := by
  obtain ⟨u, r, huleads, hubatches, hu, hperform⟩ := on_perform_log (depth + 2) hleads hx haround
    hback.record hback.object hcall
  rw [hqueue, List.nil_append] at hu
  obtain ⟨t, y, hdrain, htleads, htbatches, ht, htaround, -, htqueue, htcount⟩ :=
    on_drain_of_logsBack depth hback (s := u.onEngine e (Engine.beginDrain u.thread.id))
      (huleads.of_eq rfl rfl rfl rfl) (engines_onEngine_self hu)
      ⟨haround.sink, haround.active, haround.opened⟩ (by simp [Engine.beginDrain])
      (List.cons_ne_nil _ _)
  refine ⟨_, y.endDrain, hperform _ (on_tryDrain_of_free _ hu hdrainer hdrain),
    htleads.of_eq rfl rfl rfl rfl, ?_, engines_onEngine_self ht,
    ⟨htaround.sink, htaround.active, htaround.opened⟩, rfl, htqueue, htcount⟩
  rw [← hubatches]
  exact htbatches

/-- What waits after the first batch. -/
lemma waiting_succ (back : Nat → List String → List LogCall) (n : Nat) (queue : List String)
    (k : Nat) : LogCall.waiting back (n + 1) ((back n queue).map LogCall.message) k =
      LogCall.waiting back n queue (k + 1) := by
  induction k with
  | zero => rfl
  | succ k ih =>
    have hcount : n + 1 + k = n + (k + 1) := by omega
    change (back (n + 1 + k) _).map LogCall.message = (back (n + (k + 1)) _).map LogCall.message
    rw [ih, hcount]

/-- The batches of a sink that logs: each is made of what the one before it made the sink log. -/
lemma range_waiting (back : Nat → List String → List LogCall) (n : Nat) (queue : List String)
    (k : Nat) : (List.range (k + 1)).map (LogCall.waiting back n queue) = queue ::
      (List.range k).map (LogCall.waiting back (n + 1) ((back n queue).map LogCall.message)) := by
  rw [List.range_succ_eq_map, List.map_cons, List.map_map]
  exact congrArg _ (List.map_congr_left fun k _ => (waiting_succ back n queue k).symm)

/-- **A sink that logs is handed one batch after the other**, until one of them does not make it log.

**Proof sketch.** Induction on the rounds: what the first batch makes the sink log waits when the others
begin. -/
lemma on_drainAll_of_logsBack (depth : Nat) (hback : b.LogsBack name set back) :
    ∀ (rounds : Nat) (s : System) (x : Engine), s.LeadsTo name set e → s.engines[e]? = some x →
      Around b x → x.drainer ≠ none →
      let waits := LogCall.waiting back x.calls.batch x.queue
      (∀ k < rounds, waits k = [] → (∀ j < k, waits j ≠ []) →
        ∃ t, (drainAll (.upTo (depth + 2)) e rounds).on s = (.ok (), t) ∧
          batches e t.history = batches e s.history ++ (List.range k).map waits) ∧
      ((∀ k < rounds, waits k ≠ []) →
        ∃ t, (drainAll (.upTo (depth + 2)) e rounds).on s = (.error .exhausted, t) ∧
          batches e t.history = batches e s.history ++ (List.range rounds).map waits)
  | 0, s, x, _, _, _, _ => ⟨fun _ h => absurd h (Nat.not_lt_zero _), fun _ => ⟨s, rfl, by simp⟩⟩
  | rounds + 1, s, x, hleads, hx, haround, hdrainer => by
    intro waits
    by_cases hqueue : x.queue = []
    · refine ⟨fun k hk _ hbefore => ?_, fun hall => absurd hqueue (hall 0 (Nat.succ_pos _))⟩
      obtain rfl : k = 0 := by
        by_contra hne
        exact hbefore 0 (Nat.pos_of_ne_zero hne) hqueue
      refine ⟨s, ?_, by simp⟩
      rw [drainAll, on_bind_of_ok (on_drain_of_nil _ hx haround.opened hqueue)]
      rfl
    obtain ⟨t, y, hdrain, htleads, htbatches, ht, htaround, htdrainer, htqueue, htcount⟩ :=
      on_drain_of_logsBack depth hback hleads hx haround hdrainer hqueue
    have hnonzero : x.queue.length ≠ 0 := fun h => hqueue (List.length_eq_zero_iff.mp h)
    have hall : (drainAll (.upTo (depth + 2)) e (rounds + 1)).on s =
        (drainAll (.upTo (depth + 2)) e rounds).on t := by
      rw [drainAll, on_bind_of_ok hdrain, if_neg hnonzero]
    have hrest := on_drainAll_of_logsBack depth hback rounds t y htleads ht htaround htdrainer
    rw [htqueue, htcount] at hrest
    obtain ⟨hends, hgoesOn⟩ := hrest
    rw [hall]
    constructor
    · intro k hk hnone hbefore
      obtain ⟨k, rfl⟩ : ∃ j, k = j + 1 :=
        Nat.exists_eq_succ_of_ne_zero fun hzero => hqueue (by rw [hzero] at hnone; exact hnone)
      obtain ⟨u, hon, hbatches⟩ := hends k (Nat.lt_of_succ_lt_succ hk)
        (by rw [waiting_succ]; exact hnone)
        fun j hj => by rw [waiting_succ]; exact hbefore (j + 1) (Nat.succ_lt_succ hj)
      refine ⟨u, hon, ?_⟩
      rw [hbatches, htbatches, range_waiting, List.append_assoc]
      rfl
    · intro hwaits
      obtain ⟨u, hon, hbatches⟩ := hgoesOn
        fun k hk => by rw [waiting_succ]; exact hwaits (k + 1) (Nat.succ_lt_succ hk)
      refine ⟨u, hon, ?_⟩
      rw [hbatches, htbatches, range_waiting, List.append_assoc]
      rfl

/-! ## A sink that answers -/

/-- A sink that logs one text in the batches that it answers. -/
def answeringSink (answers : Nat → Bool) : SinkBehaviour Step :=
  smallSink (fun n _ => if answers n then [.take "log" (.onRouter "router" (.log (smallCall "again")))]
    else []) fun _ => []

/-- The sink that answers logs just one record back for each batch that it is to answer, and none
for the others. -/
lemma logsBack_answeringSink (answers : Nat → Bool) :
    (answeringSink answers).LogsBack "router" (.startingAt .info)
      fun n _ => if answers n then [smallCall "again"] else [] where
  batch := ⟨"log", fun n _ => by cases h : answers n <;> simp [answeringSink, smallSink, h]⟩
  record _ _ := rfl
  object _ _ := rfl
  accepted n _ call hcall := by
    change call ∈ if answers n then [smallCall "again"] else [] at hcall
    split at hcall
    · obtain rfl := List.mem_singleton.mp hcall
      exact ⟨by decide, Nat.not_lt_zero _, by decide +kernel⟩
    · cases hcall

/-- The state after a text was logged for an engine around a sink that answers. -/
def answered (answers : Nat → Bool) : System := smallRun (smallProgram 5 (answeringSink answers) "x")

/-- A registry without entries sends all records to the default handlers. -/
lemma resolve_empty (ns : String) : (Registry.empty.resolve ns).1 = .defaults := by
  change Registry.walk [] (Namespace.normalize ns.toList) = .defaults
  cases h : Registry.walk [] (Namespace.normalize ns.toList) with
  | defaults => rfl
  | slot id =>
    obtain ⟨k, hk, -⟩ := Registry.exists_of_walk_slot h
    cases hk

/-- If the sink answers its first batch, the answer waits. -/
lemma exists_answered (answers : Nat → Bool) (hanswers : answers 0 = true) :
    ∃ x, (answered answers).engines[0]? = some x ∧ Around (answeringSink answers) x ∧
      x.drainer = none ∧ x.queue = ["again"] ∧ x.calls.batch = 1 ∧
      (answered answers).LeadsTo "router" (.startingAt .info) 0 := by
  set u := smallRun ((smallProgram 5 (answeringSink answers) "x").take 3)
  have hleads : u.LeadsTo "router" (.startingAt .info) 0 :=
    ⟨0, _, 1, _, rfl, rfl, rfl, resolve_empty, rfl, rfl⟩
  have hx : u.engines[0]? = some ((u.engines[0]?).get rfl) := rfl
  have hcall : (LevelSet.startingAt .info).contains (smallCall "x").level = true ∧
      ¬ (smallCall "x").level < (answeringSink answers).least ∧
      Template.checked (smallCall "x").template (smallCall "x").args = .ok (smallCall "x").message :=
    ⟨by decide, Nat.not_lt_zero _, by decide +kernel⟩
  obtain ⟨t, y, hon, htleads, -, hy, haround, hdrainer, hqueue, hcount⟩ :=
    on_perform_log_of_logsBack 5 (logsBack_answeringSink answers) hleads hx ⟨rfl, rfl, rfl⟩ rfl rfl hcall
  have hanswered : answered answers = t := congrArg Prod.snd hon
  rw [hanswered]
  refine ⟨y, hy, haround, hdrainer, ?_, hcount, htleads⟩
  rw [hqueue]
  change (if answers 0 then [smallCall "again"] else []).map LogCall.message = _
  rw [if_pos hanswers]
  decide +kernel

/-! ## Flushing -/

/-- Draining may take as many rounds as calls may nest deep. -/
lemma rounds_upTo (depth : Nat) : (Reentry.upTo depth).rounds = depth := by
  cases depth <;> rfl

/-- A flush that nobody is in the way of drains until nothing is left. -/
lemma on_flush {result : Except Stop Unit} (depth : Nat) (hx : s.engines[e]? = some x)
    (hdrainer : x.drainer = none)
    (hon : (drainAll (.upTo depth) e depth).on (s.onEngine e (Engine.beginDrain s.thread.id)) =
      (result, t)) :
    (flush (.upTo depth) e).on s = (result, if isOver result then t.onEngine e Engine.endDrain else t) := by
  rw [flush, whenDraining, on_bind_of_ok (on_engine_of_some hx), rounds_upTo]
  simp only [hdrainer]
  exact on_asDrainer hon

/-- **Flushing an engine around a sink that logs** hands over what waits, and then what each batch made
the sink log.  It ends behind the first batch that made it log nothing; if there is none, it does not
end. -/
lemma on_flush_of_logsBack (hback : b.LogsBack name set back) (hleads : s.LeadsTo name set e)
    (hx : s.engines[e]? = some x) (haround : Around b x) (hdrainer : x.drainer = none) :
    let waits := LogCall.waiting back x.calls.batch x.queue
    (∀ k, waits k = [] → (∀ j < k, waits j ≠ []) → ∀ depth, 2 ≤ depth → k < depth →
      ∃ t, (flush (.upTo depth) e).on s = (.ok (), t) ∧
        batches e t.history = batches e s.history ++ (List.range k).map waits) ∧
    ((∀ k, waits k ≠ []) → ∀ depth, 2 ≤ depth →
      ∃ t, (flush (.upTo depth) e).on s = (.error .exhausted, t) ∧
        batches e t.history = batches e s.history ++ (List.range depth).map waits) := by
  intro waits
  set begun := s.onEngine e (Engine.beginDrain s.thread.id)
  have hbegun : begun.engines[e]? = some (x.beginDrain s.thread.id) := engines_onEngine_self hx
  have hall (depth : Nat) := on_drainAll_of_logsBack depth hback (depth + 2) begun _
    (hleads.of_eq rfl rfl rfl rfl) hbegun ⟨haround.sink, haround.active, haround.opened⟩
    (by simp [Engine.beginDrain])
  constructor
  · intro k hnone hbefore depth hdepth hk
    obtain ⟨depth, rfl⟩ := Nat.exists_eq_add_of_le' hdepth
    obtain ⟨t, hon, hbatches⟩ := (hall depth).1 k hk hnone hbefore
    exact ⟨_, on_flush (depth + 2) hx hdrainer hon, hbatches⟩
  · intro hwaits depth hdepth
    obtain ⟨depth, rfl⟩ := Nat.exists_eq_add_of_le' hdepth
    obtain ⟨t, hon, hbatches⟩ := (hall depth).2 fun k _ => hwaits k
    exact ⟨_, on_flush (depth + 2) hx hdrainer hon, hbatches⟩

/-- **What a flush does with an active engine** that nobody drains.

* Its first batch is all that waits when it is called, whatever comes of it.
* It takes one batch after the other, until nothing is left, or a batch does not return successfully.
  There is no other end: a flush that always finds something goes through any number of rounds.
* For a sink that takes every record and logs, through a router that leads to the engine alone, what
  its batches make it log are the next batches.  The flush ends at the first that does not make it log;
  if there is none, the flush does not end.

**Proof sketch.** While the engine is active and drained, a record of the sink joins the queue
(`on_takeRecord_of_around`), and so the next round finds it. -/
theorem flush_refills (hs : s.Passed) (hx : s.engines[e]? = some x) (hactive : x.state = .active)
    (hdrainer : x.drainer = none) :
    (x.queue ≠ [] → ∀ depth, ∃ new, ((flush (.upTo (depth + 1)) e).on s).2.history =
      s.history ++ Entry.hook e (.batch x.queue) :: new) ∧
    (∀ depth, ∃ batches t result u,
      Refills (.upTo depth) e (s.onEngine e (Engine.beginDrain s.thread.id)) batches t ∧
      Ceases (.upTo depth) e depth batches.length t (result, u) ∧
      (flush (.upTo depth) e).on s =
        (result, if isOver result then u.onEngine e Engine.endDrain else u)) ∧
    ∀ b name set back, SinkBehaviour.LogsBack b name set back → x.sink = .scripted b →
      s.LeadsTo name set e →
      let waits := LogCall.waiting back x.calls.batch x.queue
      (∀ k, waits k = [] → (∀ j < k, waits j ≠ []) → ∀ depth, 2 ≤ depth → k < depth →
        ∃ t, (flush (.upTo depth) e).on s = (.ok (), t) ∧
          batches e t.history = batches e s.history ++ (List.range k).map waits) ∧
      ((∀ k, waits k ≠ []) → ∀ depth, 2 ≤ depth →
        ∃ t, (flush (.upTo depth) e).on s = (.error .exhausted, t) ∧
          batches e t.history = batches e s.history ++ (List.range depth).map waits) := by
  have hclosed := not_closed_of_active hs.sound hx hactive
  have hidle : Idle e s.history := (hs.sound.lives.vital hx).idle hdrainer
  set begun := s.onEngine e (Engine.beginDrain s.thread.id)
  have hbegun : begun.engines[e]? = some (x.beginDrain s.thread.id) := engines_onEngine_self hx
  have hstep : s.Evolves begun := .single (.shift _ hx rfl (.beginDrain s.thread.id hdrainer))
  have hsound := hstep.sound hs.sound
  have hdrains : (x.beginDrain s.thread.id).drainer ≠ none := by simp [Engine.beginDrain]
  refine ⟨fun hqueue depth => ?_, fun depth => ?_, fun b name set back hback hsink hleads =>
    on_flush_of_logsBack hback hleads hx ⟨hsink, hactive, hclosed⟩ hdrainer⟩
  · obtain ⟨new, hnew⟩ := drainAll_hands_over (Reentry.regular_upTo (depth + 1)) hsound hbegun
      hdrains hidle hclosed hqueue depth
    refine ⟨new, ?_⟩
    rw [on_flush (depth + 1) hx hdrainer rfl]
    split
    · exact hnew
    · exact hnew
  · obtain ⟨batches, t, hrefills, hceases⟩ := drainAll_refills (Reentry.regular_upTo depth) depth begun
      _ hsound hbegun hdrains hidle
    exact ⟨batches, t, _, _, hrefills, hceases, on_flush depth hx hdrainer rfl⟩

/-- A sink that answers two batches, one of them before the flush: the flush hands over two batches, and
ends. -/
theorem flush_refills_of_two : ∃ x, (answered (· < 2)).Passed ∧
    (answered (· < 2)).engines[0]? = some x ∧ x.state = .active ∧ x.drainer = none ∧
    x.queue = ["again"] ∧ ∀ depth, 3 ≤ depth →
      ∃ t, (flush (.upTo depth) 0).on (answered (· < 2)) = (.ok (), t) ∧
        batches 0 t.history = batches 0 (answered (· < 2)).history ++ [["again"], ["again"]] := by
  obtain ⟨x, hx, haround, hdrainer, hqueue, hcount, hleads⟩ :=
    exists_answered (· < 2) (by decide)
  have hpassed : (answered (· < 2)).Passed := (reachable_smallRun _).passed
  refine ⟨x, hpassed, hx, haround.active, hdrainer, hqueue, fun depth hdepth => ?_⟩
  obtain ⟨hends, -⟩ := (flush_refills hpassed hx haround.active hdrainer).2.2 _ _ _ _
    (logsBack_answeringSink _) haround.sink hleads
  rw [hqueue, hcount] at hends
  have htwo : (List.range 2).map (LogCall.waiting
      (fun n _ => if decide (n < 2) then [smallCall "again"] else []) 1 ["again"]) =
      [["again"], ["again"]] := by decide +kernel
  rw [← htwo]
  exact hends 2 (by decide +kernel) (by decide +kernel) depth (by omega) (by omega)

/-- **A flush need not end.**  The sink logs one record in each batch, always the same, and then returns
successfully; it is flushed through any number of rounds. -/
theorem flush_endless : ∃ x, (answered fun _ => true).Passed ∧
    (answered fun _ => true).engines[0]? = some x ∧ x.state = .active ∧ x.drainer = none ∧
    x.queue = ["again"] ∧ x.sink = .scripted (answeringSink fun _ => true) ∧
    (answeringSink fun _ => true).LogsBack "router" (.startingAt .info)
      (fun _ _ => [smallCall "again"]) ∧
    (answered fun _ => true).LeadsTo "router" (.startingAt .info) 0 ∧ ∀ depth, 2 ≤ depth →
      ∃ t, (flush (.upTo depth) 0).on (answered fun _ => true) = (.error .exhausted, t) ∧
        batches 0 t.history = batches 0 (answered fun _ => true).history ++
          List.replicate depth ["again"] := by
  obtain ⟨x, hx, haround, hdrainer, hqueue, -, hleads⟩ :=
    exists_answered (fun _ => true) rfl
  have hback : (answeringSink fun _ => true).LogsBack "router" (.startingAt .info)
      fun _ _ => [smallCall "again"] := logsBack_answeringSink fun _ => true
  refine ⟨x, (reachable_smallRun _).passed, hx, haround.active, hdrainer, hqueue, haround.sink,
    hback, hleads, fun depth hdepth => ?_⟩
  obtain ⟨-, hendless⟩ := on_flush_of_logsBack hback hleads hx haround hdrainer
  have hwaits : ∀ k, LogCall.waiting (fun _ _ => [smallCall "again"]) x.calls.batch x.queue k =
      ["again"] := by
    intro k
    cases k with
    | zero => exact hqueue
    | succ k =>
      change [LogCall.message (smallCall "again")] = _
      decide +kernel
  obtain ⟨t, hon, hbatches⟩ := hendless (fun k => by simp [hwaits k]) depth hdepth
  refine ⟨t, hon, ?_⟩
  rw [hbatches, List.map_congr_left fun k _ => hwaits k, List.map_const', List.length_range]

end System

end NamespaceLogging
