import NamespaceLogging.Proofs.TargetShutdown

/-!
# What comes to the target of settings

From the settings to the file: a router that is built from settings with a target that opens writes the
lines of the accepted records there, in order and nothing else, until it is shut down.

## Main definitions

* `System.reachedBy`: the state while others hold on to routers.

## Main results

* `System.writing_routerOf`: the router that is built is at work on its target.
* `System.logged_of_shut`: log calls through a router that was shut down.
* `System.routerOf_written`: what comes to the target of settings.
-/

set_option autoImplicit false

namespace NamespaceLogging

open Act Namespace

namespace System

variable {s t : System} {r : RouterId} {z : Router} {st : Settings} {outlet : Outlet} {m : Media}

/-- The state with other names, and with other places that hold on to routers and so keep them alive. -/
def reachedBy (s : System) (names : Names) (global : Option RouterId) (inUse : List RouterId) :
    System :=
  { s with names := names, global := global, inUse := inUse }

/-- **Building a router** with a target that opens and keeps what is written there: the router is at
work, and nothing has been written yet. -/
lemma writing_routerOf (calls : Reentry)
    (hnames : ∀ o ∈ st.overrides, WellFormed o.namespaceName.toList) (hheld : s.held = [])
    {target : Target} (htarget : st.target = some target)
    (hopens : (StreamSink.make target st.layout st.aspectFilter).openTarget s.media = (.ok outlet, m))
    (hkeeps : outlet.Keeps) :
    ∃ t sink d e y, (routerOf calls st).on s = (.ok (.ok s.routers.length), t) ∧
      t.Writing s.routers.length st sink outlet d e y ∧ t.media = m := by
  obtain ⟨t, y, harranged, hrunning, haspects, hgroup, hheld₁, hmedia, hleast, hbuild⟩ :=
    on_routerOf calls hnames
  have hstart := StreamSink.start_of_opened (hmedia ▸ hopens)
  obtain ⟨u, z, d, e, lock, hadd, hu, hrunning', haspects', hheld₂, hmembers, hslot, -, he, hmedia'⟩ :=
    on_addTarget_of_some calls htarget hstart harranged hgroup hleast
  let sink : StreamSink :=
    { StreamSink.make target st.layout st.aspectFilter with writer := some (.make outlet) }
  refine ⟨_, sink, d, e, z, hbuild u hadd, ?_, hmedia'⟩
  exact {
    arranged := hu.continues List.prefix_rfl List.prefix_rfl hu.router (.refl z)
    running := hrunning'.trans hrunning
    aspects := by rw [haspects', haspects]; rfl
    members := hmembers
    slot := ⟨lock, hslot⟩
    engine := he
    opened := ⟨rfl, rfl, rfl, hkeeps⟩
    free := hheld₂.trans (hheld₁.trans hheld) }

/-- A router that was shut down lets nothing through. -/
lemma on_log_of_shut (calls : Reentry) (call : LogCall) (hz : s.routers[r]? = some z)
    (hshut : z.filter = none) : (log calls r call).on s = (.ok (), s) :=
  on_log_of_disabled calls hz (by rw [hshut]; rfl)

/-- Log calls through a router that was shut down change nothing but the time and the thread. -/
lemma logged_of_shut (calls : Reentry) (hz : s.routers[r]? = some z) (hshut : z.filter = none)
    (os : List Occasion) :
    (s.logged calls r os).routers = s.routers ∧ (s.logged calls r os).media = s.media := by
  induction os generalizing s with
  | nil => exact ⟨rfl, rfl⟩
  | cons o os ih =>
    have hlogged : s.logged calls r (o :: os) = (s.during o).logged calls r os := by
      rw [System.logged, List.foldl_cons, on_log_of_shut (s := s.during o) calls o.call hz hshut]
      rfl
    rw [hlogged]
    exact ih (s := s.during o) hz

/-- **What comes to the target of settings.**  If the target opens and keeps what is written there, a
router is built, and whoever holds on to it may make log calls with it, outside of handlers.  Each of
them comes to its end.  After any number of them, the target has got the lines of the records that were
accepted, in order, and nothing else.  A record is accepted if the filter has its level, if the level
passes the gate that is resolved for its namespace, and if the target takes it; in a well-formed
namespace, that gate is the one that the overrides ask for.  Shutting the router down writes nothing,
and neither do log calls after that.

**Proof sketch.** One log call hands the line over before it returns and leaves the router as it was
built, so that the next one finds nothing that waits; neither does the shutdown. -/
theorem routerOf_written (st : Settings)
    (hnames : ∀ o ∈ st.overrides, WellFormed o.namespaceName.toList) {target : Target}
    (htarget : st.target = some target) (n : Nat) (s : System) (hheld : s.held = [])
    (hopens : (StreamSink.make target st.layout st.aspectFilter).openTarget s.media = (.ok outlet, m))
    (hnull : outlet ≠ .device .null) (hfull : outlet ≠ .device .full) :
    ∃ r t, (routerOf (.upTo (n + 3)) st).on s = (.ok (.ok r), t) ∧ t.media = m ∧
      (∀ ns level, WellFormed ns.toList → (t.letsPass r ns level = true ↔ st.floor ns ≤ level)) ∧
      ∀ names global inUse os,
        let v := t.reachedBy names global inUse
        let u := v.logged (.upTo (n + 3)) r os
        (∀ o, ∃ w, (log (.upTo (n + 3)) r o.call).on (u.during o) = (.ok (), w)) ∧
          u.media.content outlet = m.content outlet ++
            String.join (((v.recordsOf (.upTo (n + 3)) r st.captureStack os).filter
              (t.accepts r st)).map st.layout.lineOf) ∧
          ∀ thread, ∃ w, (shutdown (.upTo (n + 3)) r).on { u with thread := thread } = (.ok (), w) ∧
            w.media = u.media ∧ ∀ later,
              (w.logged (.upTo (n + 3)) r later).media = u.media ∧
                ∀ o, (log (.upTo (n + 3)) r o.call).on
                  ((w.logged (.upTo (n + 3)) r later).during o) =
                    (.ok (), (w.logged (.upTo (n + 3)) r later).during o) := by
  obtain ⟨t, sink, d, e, y, hbuild, ht, hmedia⟩ := writing_routerOf (.upTo (n + 3)) hnames hheld htarget
    hopens (StreamSink.keeps_of_openTarget hopens hnull hfull)
  refine ⟨_, t, hbuild, hmedia, fun ns level hns => ?_, fun names global inUse os => ?_⟩
  · rw [letsPass_eq ht.arranged.router]
    exact ht.arranged.passes_iff hns
  · have hv : (t.reachedBy names global inUse).Writing _ st sink outlet d e y :=
      ht.of_same rfl rfl rfl rfl rfl ht.engine
    obtain ⟨z, hu, hcontent⟩ := hv.logged n os
    refine ⟨fun o => ?_, ?_, fun thread => ?_⟩
    · obtain ⟨w, -, hlog, -⟩ := (hu.during o).log n o.call
      exact ⟨w, hlog⟩
    · rw [← hmedia]
      exact hcontent
    · set u := (t.reachedBy names global inUse).logged (.upTo (n + 3)) s.routers.length os
      have hthread : ({ u with thread := thread } : System).Writing _ st sink outlet d e z :=
        hu.of_same rfl rfl rfl rfl rfl hu.engine
      obtain ⟨w, x, hshutdown, hsilent, hx, hshut⟩ := hthread.shutdown (n + 2)
      refine ⟨w, hshutdown, hsilent, fun later => ?_⟩
      obtain ⟨hrouters, hsame⟩ := logged_of_shut (.upTo (n + 3)) hx hshut later
      exact ⟨hsame.trans hsilent, fun o => on_log_of_shut _ o.call (hrouters ▸ hx) hshut⟩

/-- Without call stacks, the records do not depend on what was logged before. -/
lemma recordsOf_of_uncaptured (calls : Reentry) (r : RouterId) (s t : System) (os : List Occasion) :
    s.recordsOf calls r false os = os.map fun o => (t.during o).snapshot false o.call := by
  induction os generalizing s with
  | nil => rfl
  | cons o os ih =>
    rw [recordsOf, ih, List.map_cons]
    rfl

/-- Three log calls, the first of which does not pass its gate. -/
def nestedOccasions : List Occasion :=
  [occasionIn "a::b::c" .info, occasionIn "quiet" .info, occasionIn "a::c" .fatal]

/-- The file holds the lines of the other two, also after the shutdown by another thread. -/
theorem routerOf_written_of_nested : ∃ (s : System) (outlet : Outlet) (m : Media),
    (∀ o ∈ nestedSettings.overrides, WellFormed o.namespaceName.toList) ∧
      nestedSettings.target = some (.file "app.log") ∧ s.held = [] ∧
      (StreamSink.make (.file "app.log") nestedSettings.layout nestedSettings.aspectFilter).openTarget
        s.media = (.ok outlet, m) ∧ outlet ≠ .device .null ∧ outlet ≠ .device .full ∧
      ∃ r t w, (routerOf (.upTo 3) nestedSettings).on s = (.ok (.ok r), t) ∧
        (shutdown (.upTo 3) r).on
          { t.logged (.upTo 3) r nestedOccasions with thread := ⟨2, none⟩ } = (.ok (), w) ∧
        w.media.content outlet = "2024-01-01 00:00:00.000 INFO [main] quiet.?(<unknown>:0) x\n" ++
          "2024-01-01 00:00:00.000 FATAL [main] c.?(<unknown>:0) x\n" := by
  set s := initial "" [] ⟨2024, 1, 1, 0, 0, 0, 0⟩
  set sink := StreamSink.make (.file "app.log") nestedSettings.layout nestedSettings.aspectFilter
  set outlet : Outlet := .file ["app.log", "session", "tmp"]
  have hnames := wellFormed_nestedSettings
  have hopens : sink.openTarget s.media = (.ok outlet, (sink.openTarget s.media).2) :=
    Prod.ext (by decide +kernel) rfl
  have hempty : (sink.openTarget s.media).2.content outlet = "" := by decide +kernel
  obtain ⟨r, t, hbuild, -, hgates, hlog⟩ := routerOf_written nestedSettings hnames rfl 0 s rfl hopens
    (by decide) (by decide)
  have hlogged := hlog t.names t.global t.inUse nestedOccasions
  have hsame : t.reachedBy t.names t.global t.inUse = t := rfl
  simp only [Nat.zero_add, hsame] at hbuild hlogged
  obtain ⟨-, hcontent, hend⟩ := hlogged
  obtain ⟨w, hshutdown, hsilent, -⟩ := hend ⟨2, none⟩
  refine ⟨s, outlet, _, hnames, rfl, rfl, hopens, by decide, by decide, r, t, w, hbuild, hshutdown, ?_⟩
  -- the gates let the second and the third call pass
  set records := nestedOccasions.map fun o => (s.during o).snapshot false o.call
  have hrecords : records.filter (t.accepts r nestedSettings) = records.tail := by
    have hstopped : t.letsPass r "a::b::c" .info = false := by
      rw [← Bool.not_eq_true, hgates _ _ (wellFormed_nested (by decide))]
      decide +kernel
    have hquiet : t.letsPass r "quiet" .info = true :=
      (hgates _ _ (wellFormed_nested (by decide))).mpr (by decide +kernel)
    have hfatal : t.letsPass r "a::c" .fatal = true :=
      (hgates _ _ (wellFormed_nested (by decide))).mpr (by decide +kernel)
    have haccepts : ∀ ns level, t.accepts r nestedSettings ((s.during (occasionIn ns level)).snapshot
        false (occasionIn ns level).call) = (nestedSettings.filter.contains level &&
          t.letsPass r ns level && nestedSettings.aspectFilter.contains level) := fun _ _ => rfl
    simp only [records, nestedOccasions, List.map_cons, List.map_nil, List.filter_cons, haccepts,
      hstopped, hquiet, hfatal]
    rfl
  have hcapture : nestedSettings.captureStack = false := rfl
  rw [hsilent, hcontent, hempty, hcapture, recordsOf_of_uncaptured _ _ _ s, hrecords]
  decide +kernel

end System

end NamespaceLogging
