import NamespaceLogging.Proofs.Building

/-!
# The effective levels of settings

A log call through a router that was built from settings is given to the default handlers, once, or to
nobody.  Which of the two is decided by the filter and by the override that decides on the namespace of
the call.

## Main definitions

* `Occasion`: a log call, and where and when it is made.
* `System.logged`: the state after log calls.
* `System.defaultSlots`: the slots of the default handlers of a router.
* `System.Delivers`: what a log call does.

## Main results

* `System.Standing.log`: one log call through a router that stands as it was built.
* `System.routerOf_effective`: which log calls reach the default handlers.
-/

set_option autoImplicit false

namespace NamespaceLogging

open Act Namespace

/-- A log call, with the time and the thread of its making and the stack that a capture sees. -/
structure Occasion where
  call : LogCall
  clock : Instant
  thread : Thread
  callStack : List Frame

namespace System

variable {s t : System} {r : RouterId} {y z : Router} {st : Settings} {d : SlotId}
  {calls : Reentry} {id : RecordId} {record' : Record}

/-- The state at the time of a log call. -/
def during (s : System) (o : Occasion) : System :=
  { s with clock := o.clock, thread := o.thread, callStack := o.callStack }

/-- The state after log calls through a router, one after the other. -/
def logged (calls : Reentry) (r : RouterId) (s : System) (os : List Occasion) : System :=
  os.foldl (fun s o => ((log calls r o.call).on (s.during o)).2) s

/-- The slots of the default handlers of a router. -/
def defaultSlots (s : System) (r : RouterId) : List SlotId :=
  ((s.routers[r]?).bind fun y => s.groups[y.defaults]?).getD []

/-- A log call comes to its end, and slots are given records as told. -/
def Delivers (s : System) (calls : Reentry) (r : RouterId) (o : Occasion)
    (out : List (SlotId × RecordId)) : Prop :=
  ∃ t, (log calls r o.call).on (s.during o) = (.ok (), t) ∧ (s.during o).Reaches t out

/-- The default slots of a router are the members of its group. -/
lemma defaultSlots_eq (hy : s.routers[r]? = some y) :
    s.defaultSlots r = (s.groups[y.defaults]?).getD [] := by
  simp [defaultSlots, hy]

/-! ## Default handlers that get a record -/

/-- A group with one member. -/
lemma on_dispatchGroup_of_one {g : GroupId} (hmembers : s.groups[g]? = some [d])
    (hinvoke : (invoke calls d id).on s = (.ok (), t)) :
    (dispatchGroup calls g id).on s = (.ok (), t) := by
  have hgroup : (group g).on s = (.ok [d], s) := by rw [on_group, hmembers]
  rw [dispatchGroup, on_bind_of_ok hgroup, invokeAll, on_bind_of_ok hinvoke]
  rfl

/-- What a handler that writes to the standard error stream does with a record. -/
lemma on_handlePlain_of_stderr (calls : Reentry) {n : HandlerId} {layout : Layout}
    (hhandler : s.handlers[n]? = some (.stderr layout)) (hrec : s.records[id]? = some record') :
    ∃ result t, (handlePlain calls n id).on s = (result, t) ∧ isOver result = true ∧ s.Aside t := by
  have hlayOut : (layOut layout id).on s = match layout.render record' with
      | .ok (line, laidOut) => (.ok line, { s with records := s.records.modify id fun _ => laidOut })
      | .error fault => (.error (.panicked (.text fault.text)), s) := by
    rw [layOut, on_bind_of_ok (on_record hrec)]
    cases layout.render record' <;> rfl
  rw [handlePlain, on_bind_of_ok (on_handler hhandler)]
  simp only
  cases hrender : layout.render record' with
  | error fault =>
    rw [hrender] at hlayOut
    exact ⟨_, _, on_bind_of_error hlayOut _, rfl, .refl s⟩
  | ok line =>
    rw [hrender] at hlayOut
    refine ⟨_, _, on_bind_of_ok hlayOut _, rfl, ?_⟩
    exact (aside_records _).trans (aside_media _)

/-- The default handler of settings is no gate. -/
lemma Attended.gate? {g : GroupId} (h : s.Attended r g d) : s.gate? d = none := by
  cases h with
  | stderr hslot hhandler => simp [System.gate?, hslot, hhandler]
  | engine hslot => simp [System.gate?, hslot]

/-- Offering a record leaves the default handler as it is. -/
lemma Attended.offered {g : GroupId} (h : s.Attended r g d) (call : LogCall) :
    (s.offered r y call).Attended r g d := by
  have hslots : (s.offered r y call).slots = s.slots := slots_offered s r y call
  have hheld : (s.offered r y call).held = s.held := held_offered s r y call
  cases h with
  | stderr hslot hhandler hmembers hfree =>
    exact .stderr ((slot?_congr hslots d).trans hslot) ((handlers_offered s r y call).symm ▸ hhandler)
      ((groups_offered s r y call).symm ▸ hmembers) (hheld ▸ hfree)
  | engine hslot hserves hrest hfree =>
    refine .engine ((slot?_congr hslots d).trans hslot) (hserves.of_same ?_ hserves.sink rfl rfl rfl rfl
      rfl (groups_offered s r y call)) hrest (hheld ▸ hfree)
    rw [engines_offered, hserves.engine]

/-- A default handler is given a record. -/
lemma Attended.passage_noted {g : GroupId} (h : s.Attended r g d) (id : RecordId) :
    Passage r s (s.noted (.delivered d id)) [(d, id)] :=
  ⟨rfl, rfl, rfl, fun y hy => ⟨y, hy, .refl y⟩, reaches_noted (by simp [receipts, h.gate?])⟩

/-- **A dispatch to the default handlers** gives the record to each of them once.

**Proof sketch.** There is one of them or none.  Neither the standard error stream nor an engine hands
the record on, and an engine that retires meanwhile logs its last record to nobody. -/
lemma Standing.dispatch (h : s.Standing r st d y) (depth : Nat)
    (hrec : s.records[id]? = some record') :
    ∃ t, (dispatchGroup (.upTo (depth + 2)) y.defaults id).on s = (.ok (), t) ∧
      Passage r s t (((s.groups[y.defaults]?).getD []).map fun slot => (slot, id)) ∧
      t.Attended r y.defaults d := by
  have hnoted := h.attended.passage_noted id
  set u := s.noted (.delivered d id)
  cases h.attended with
  | @stderr n lock layout hslot hhandler hmembers hfree =>
    have hserial : (serializes (.plain n)).on u = (.ok true, u) :=
      on_bind_of_ok (on_handler (s := u) hhandler) _
    obtain ⟨result, t, hhandle, hover, haside⟩ := on_handlePlain_of_stderr (.upTo (depth + 1))
      (s := { u with held := lock :: s.held }) hhandler hrec
    have hinvoke := on_invoke_serialized (.upTo (depth + 2)) hslot hserial hfree hhandle hover
    have hheld : t.held.erase lock = s.held := by
      rw [haside.held]
      simp
    have hpassage : Passage r u { t with held := t.held.erase lock } [] :=
      ⟨haside.handlers, haside.slots, hheld, fun y hy => ⟨y, haside.routers ▸ hy, .refl y⟩,
        haside.reaches⟩
    refine ⟨_, on_dispatchGroup_of_one hmembers hinvoke, ?_, ?_⟩
    · simpa [hmembers] using hnoted.trans hpassage
    · exact .stderr ((slot?_congr (s := s) haside.slots d).trans hslot) (haside.handlers ▸ hhandler)
        (haside.groups ▸ hmembers) (hheld.symm ▸ hfree)
  | @engine e lock x hslot hserves hrest hfree =>
    rcases hserves.members with hmembers | hmembers
    · have hserves' : Serves u r y.defaults d e x :=
        hserves.of_same hserves.engine hserves.sink rfl rfl rfl rfl rfl rfl
      obtain ⟨w, hw, hyw⟩ := h.arranged.passage hnoted
      obtain ⟨result, t, z, hhandle, hover, hpassage, hz, hdrainer⟩ :=
        serves_takeRecord depth hserves' hrest hw hyw.defaults hrec
      have hinvoke := on_invoke (.upTo (depth + 2)) hslot rfl hhandle hover
      have hslot' := (slot?_congr (s := s) hpassage.slots d).trans hslot
      refine ⟨t, on_dispatchGroup_of_one hmembers hinvoke, ?_,
        .engine hslot' hz hdrainer (hpassage.held.symm ▸ hfree)⟩
      simpa [hmembers] using hnoted.trans hpassage
    · refine ⟨s, on_dispatchGroup_of_nil hmembers, ?_, h.attended⟩
      simpa [hmembers] using (Aside.refl s).passage r

/-! ## Log calls -/

/-- **One log call** through a router that stands as it was built: it reaches the default handlers
once, if its level is let through and passes the gate that is resolved for its namespace, and else
nobody.

**Proof sketch.** A call that is let through is one dispatch to the default handlers, directly or
behind a gate, or is stopped by the gate. -/
lemma Standing.log (h : s.Standing r st d y) (n : Nat) (call : LogCall) :
    ∃ t z, (log (.upTo (n + 3)) r call).on s = (.ok (), t) ∧ t.Standing r st d z ∧ y.Continues z ∧
      Passage r s t (if st.filter.contains call.level = true ∧
          s.passes y call.site.namespaceName call.level = true then
        (s.defaultSlots r).map fun slot => (slot, s.records.size) else []) := by
  cases henabled : st.filter.contains call.level with
  | false =>
    refine ⟨s, y, on_log_of_dropped _ h.arranged henabled, h, .refl y, ?_⟩
    simpa using (Aside.refl s).passage r
  | true =>
    have hoffered := h.arranged.offered call
    obtain ⟨w, hw, hyw⟩ := h.arranged.passage hoffered
    have hstanding : (s.offered r y call).Standing r st d w :=
      ⟨hw, hyw.defaults ▸ h.attended.offered call⟩
    cases hpasses : s.passes y call.site.namespaceName call.level with
    | false =>
      refine ⟨_, w, on_log_of_stopped (n + 2) h.arranged henabled hpasses, hstanding, hyw, ?_⟩
      simpa using hoffered
    | true =>
      obtain ⟨depth, hdepth, hlog⟩ := on_log_of_passes (n + 2) h.arranged henabled hpasses
      obtain ⟨k, rfl⟩ : ∃ k, depth = k + 2 := ⟨depth - 2, by omega⟩
      obtain ⟨t, hdispatch, hpassage, hattended⟩ :=
        hstanding.dispatch k (record_offered s r y call)
      obtain ⟨z, hz, hwz⟩ := hw.passage hpassage
      rw [hyw.defaults] at hdispatch
      refine ⟨t, z, hlog t hdispatch, ⟨hz, hwz.defaults ▸ hattended⟩, hyw.trans hwz, ?_⟩
      simpa [hyw.defaults, defaultSlots_eq h.arranged.router] using hoffered.trans hpassage

/-- A router stands as it was built at any time and on any thread. -/
lemma Standing.during (h : s.Standing r st d y) (o : Occasion) : (s.during o).Standing r st d y where
  arranged := h.arranged.continues List.prefix_rfl List.prefix_rfl h.arranged.router (.refl y)
  attended := by
    cases h.attended with
    | stderr hslot hhandler hmembers hfree => exact .stderr hslot hhandler hmembers hfree
    | engine hslot hserves hrest hfree =>
      exact .engine hslot (hserves.of_same hserves.engine hserves.sink rfl rfl rfl rfl rfl rfl) hrest
        hfree

/-- After any log calls, a router stands as it was built.

**Proof sketch.** Induction on the calls. -/
lemma Standing.logged (h : s.Standing r st d y) (n : Nat) (os : List Occasion) :
    ∃ z, (s.logged (.upTo (n + 3)) r os).Standing r st d z := by
  induction os generalizing s y with
  | nil => exact ⟨y, h⟩
  | cons o os ih =>
    obtain ⟨t, z, hlog, hz, -, -⟩ := (h.during o).log n o.call
    have hlogged : s.logged (.upTo (n + 3)) r (o :: os) = t.logged (.upTo (n + 3)) r os := by
      rw [System.logged, List.foldl_cons, hlog]
      rfl
    rw [hlogged]
    exact ih hz

/-- Only the overrides that ask for more than the filter does are registered. -/
lemma registerGates_filter (r : RouterId) (least : Level) : ∀ os : List Override,
    registerGates r least (os.filter fun o => decide (least < o.level)) = registerGates r least os
  | [] => rfl
  | o :: os => by
    by_cases hstrict : least < o.level
    · simp only [List.filter_cons, hstrict, decide_true, if_true, registerGates,
        registerGates_filter r least os]
    · simp only [List.filter_cons, hstrict, decide_false, Bool.false_eq_true, if_false, registerGates,
        registerGates_filter r least os]

/-- An override that does not ask for more than the filter does changes nothing, wherever it stands. -/
lemma routerOf_of_lenient (calls : Reentry) {before after : List Override} {lenient : Override}
    (hoverrides : st.overrides = before ++ lenient :: after)
    (hlenient : ¬ st.filter.minimum < lenient.level) :
    routerOf calls { st with overrides := before ++ after } = routerOf calls st := by
  have hgates : ∀ r, registerGates r st.filter.minimum (before ++ after) =
      registerGates r st.filter.minimum st.overrides := by
    intro r
    rw [← registerGates_filter, ← registerGates_filter r st.filter.minimum st.overrides, hoverrides]
    simp [hlenient]
  simp only [routerOf, hgates]
  rfl

/-- **The effective levels of settings.**  If its target opens, a router is built with one default
handler.  After any log calls, a log call from a well-formed namespace reaches each of the default
handlers once if its level is in the filter and not below the one that is asked for in that namespace,
and nobody otherwise; its record is the next one.  A fatal one reaches them from any namespace.
Leaving out an override that does not ask for more than the filter does leaves the whole construction
as it is.

**Proof sketch.** The router has a gate for each namespace with a strict override, the last one's, and
the gate that the walk finds is the one of the override that decides.  Neither log calls nor the end of
an engine change the gates. -/
theorem routerOf_effective (st : Settings)
    (hnames : ∀ o ∈ st.overrides, WellFormed o.namespaceName.toList) (n : Nat) (s : System)
    (hheld : ∀ lock ∈ s.held, lock < s.lockCount) (hopens : st.Opens s.media) :
    ∃ r t, (routerOf (.upTo (n + 3)) st).on s = (.ok (.ok r), t) ∧
      (∃ d, t.defaultSlots r = [d]) ∧
      (∀ (earlier : List Occasion) (o : Occasion),
        let u := t.logged (.upTo (n + 3)) r earlier
        let everyone := (u.defaultSlots r).map fun slot => (slot, u.records.size)
        (WellFormed o.call.site.namespaceName.toList → u.Delivers (.upTo (n + 3)) r o
          (if st.filter.contains o.call.level = true ∧
              st.floor o.call.site.namespaceName ≤ o.call.level then everyone else [])) ∧
          (o.call.level = .fatal → u.Delivers (.upTo (n + 3)) r o everyone)) ∧
      ∀ before lenient after, st.overrides = before ++ lenient :: after →
        ¬ st.filter.minimum < lenient.level →
        routerOf (.upTo (n + 3)) { st with overrides := before ++ after } =
          routerOf (.upTo (n + 3)) st := by
  obtain ⟨t, d, y, hbuild, hstanding, hmembers⟩ :=
    standing_routerOf (.upTo (n + 3)) hnames hheld hopens
  refine ⟨_, t, hbuild, ⟨d, ?_⟩, fun earlier o => ?_, fun before lenient after =>
    routerOf_of_lenient _⟩
  · rw [defaultSlots_eq hstanding.arranged.router, hmembers]
    rfl
  · obtain ⟨z, hz⟩ := hstanding.logged n earlier
    have hduring := hz.during o
    obtain ⟨v, -, hlog, -, -, hpassage⟩ := hduring.log n o.call
    refine ⟨fun hns => ⟨v, hlog, ?_⟩, fun hfatal => ⟨v, hlog, ?_⟩⟩
    · have hreaches := hpassage.reaches
      simp only [hduring.arranged.passes_iff hns] at hreaches
      exact hreaches
    · have hreaches := hpassage.reaches
      rwa [hfatal, if_pos ⟨LevelSet.contains_fatal _, passes_fatal ..⟩] at hreaches

/-- Settings with two overrides for one namespace below another one, and one override that asks for
less than the filter does. -/
def nestedSettings : Settings where
  filter := .startingAt .info
  overrides := [⟨"a", .error⟩, ⟨"a::b", .fatal⟩, ⟨"quiet", .debug⟩, ⟨"a::b", .warn⟩]
  target := some (.file "app.log")
  aspectFilter := .startingAt .trace
  layout := .default
  errorThreshold := 1
  captureStack := false

/-- A small log call from a namespace. -/
def occasionIn (ns : String) (level : Level) : Occasion where
  call := { smallCall "x" with level := level, site := { CallSite.unknown with namespaceName := ns } }
  clock := ⟨2024, 1, 1, 0, 0, 0, 0⟩
  thread := ⟨1, some "main"⟩
  callStack := []

/-- The namespaces of the example are well-formed. -/
lemma wellFormed_nested {ns : String}
    (h : ns ∈ ["a", "a::b", "quiet", "a::b::c", "a::c"]) : WellFormed ns.toList := by
  have ha : WellFormed ['a'] := .single (by decide)
  have hb : WellFormed ['a', ':', ':', 'b'] := .under ha (by decide : Segment ['b'])
  simp only [List.mem_cons, List.not_mem_nil, or_false] at h
  rcases h with rfl | rfl | rfl | rfl | rfl
  · exact ha
  · exact hb
  · exact .single (by decide : Segment ['q', 'u', 'i', 'e', 't'])
  · exact .under hb (by decide : Segment ['c'])
  · exact .under ha (by decide : Segment ['c'])

/-- All overrides of the example are for well-formed namespaces. -/
lemma wellFormed_nestedSettings :
    ∀ o ∈ nestedSettings.overrides, WellFormed o.namespaceName.toList := by
  intro o h
  simp only [nestedSettings, List.mem_cons, List.not_mem_nil, or_false] at h
  rcases h with rfl | rfl | rfl | rfl <;> exact wellFormed_nested (by decide)

/-- The last override for the longest namespace decides, an override for an ancestor decides where
there is no longer one, and one that asks for less than the filter does not matter. -/
theorem routerOf_effective_of_nested : ∃ s : System,
    (∀ o ∈ nestedSettings.overrides, WellFormed o.namespaceName.toList) ∧
      (∀ lock ∈ s.held, lock < s.lockCount) ∧ nestedSettings.Opens s.media ∧
      WellFormed "a::b::c".toList ∧
      ∃ r t, (routerOf (.upTo 3) nestedSettings).on s = (.ok (.ok r), t) ∧ ∀ earlier,
        let u := t.logged (.upTo 3) r earlier
        let everyone := (u.defaultSlots r).map fun slot => (slot, u.records.size)
        u.Delivers (.upTo 3) r (occasionIn "a::b::c" .warn) everyone ∧
          u.Delivers (.upTo 3) r (occasionIn "a::c" .warn) [] ∧
          u.Delivers (.upTo 3) r (occasionIn "a::c" .fatal) everyone ∧
          u.Delivers (.upTo 3) r (occasionIn "quiet" .info) everyone := by
  set s := initial "" [] ⟨2024, 1, 1, 0, 0, 0, 0⟩
  have hnames := wellFormed_nestedSettings
  have hheld : ∀ lock ∈ s.held, lock < s.lockCount := by simp [s, initial]
  have hopens : nestedSettings.Opens s.media := by
    rintro target ⟨⟩
    decide +kernel
  obtain ⟨r, t, hbuild, -, hlog, -⟩ := routerOf_effective nestedSettings hnames 0 s hheld hopens
  refine ⟨s, hnames, hheld, hopens, wellFormed_nested (by decide), r, t, hbuild, fun earlier => ?_⟩
  have hinner := (hlog earlier (occasionIn "a::b::c" .warn)).1 (wellFormed_nested (by decide))
  have houter := (hlog earlier (occasionIn "a::c" .warn)).1 (wellFormed_nested (by decide))
  have hfatal := (hlog earlier (occasionIn "a::c" .fatal)).2 rfl
  have hquiet := (hlog earlier (occasionIn "quiet" .info)).1 (wellFormed_nested (by decide))
  rw [if_pos (by decide +kernel)] at hinner hquiet
  rw [if_neg (by decide +kernel)] at houter
  exact ⟨hinner, houter, hfatal, hquiet⟩

end System

end NamespaceLogging
