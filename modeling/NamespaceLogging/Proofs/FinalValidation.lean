import NamespaceLogging.Proofs.Building
import NamespaceLogging.Proofs.Normalizing
import NamespaceLogging.Proofs.Readings

/-!
# What validation leaves to be refused

A configuration that is valid gives settings from which a router is built.  Validation and the registry
look at the namespaces of overrides one after the other: validation takes the white space around a
namespace and the `::` at its end away, and the registry does the same once more with what is left.  A
namespace that is made of nothing else passes the first and not always the second.

## Main definitions

* `Settings.refused`: the override at which building a router stops, if there is one.

## Main results

* `Override.accepts_iff`: which of the namespaces that validation lets through the registry refuses.
* `System.on_registerGates_of_refused`: registering gates stops at the first one that is refused.
* `System.routerOf_of_validated`: building a router from valid settings.
-/

set_option autoImplicit false

namespace NamespaceLogging

open Act Text

/-! ## What validation has looked at -/

/-- An override that was read has what normalizing left for a name, and that is not empty. -/
lemma Override.name_of_parse {entry : String} {o : Override} (h : Override.parse entry = .ok o) :
    ∃ cs, o.namespaceName.toList = Namespace.normalize cs ∧ Namespace.normalize cs ≠ [] := by
  unfold Override.parse at h
  split at h
  · simp at h
  · rename_i before after _
    dsimp only at h
    by_cases hempty : (Namespace.normalize before).isEmpty = true
    · rw [if_pos hempty] at h
      simp at h
    · rw [if_neg hempty] at h
      by_cases hequals : after.contains '=' = true
      · rw [if_pos hequals] at h
        simp at h
      · rw [if_neg hequals] at h
        obtain ⟨level, -, h⟩ := exists_of_bind_ok h
        obtain rfl := Except.ok.inj h
        exact ⟨before, by simp, by simpa using hempty⟩

/-- Settings that come out of the validation are those that were read. -/
lemma Configuration.settings_of_validate {c : Configuration} {st : Settings}
    (h : c.validate = .ok st) : c.settings = .ok st := by
  unfold Configuration.validate at h
  split at h
  · exact h
  · simp at h
  · simp at h

/-- The overrides of settings were read from the entries of the configuration. -/
lemma Configuration.overrides_of_validate {c : Configuration} {st : Settings}
    (h : c.validate = .ok st) {o : Override} (ho : o ∈ st.overrides) :
    ∃ entry ∈ c.overrides, Override.parse entry = .ok o := by
  obtain ⟨-, hoverrides, -⟩ := settings_eq_ok_iff.mp (settings_of_validate h)
  exact mem_of_mapM hoverrides ho

/-- **What the registry refuses** of the names that validation has let through. -/
lemma accepts_iff_of_validate {c : Configuration} {st : Settings} (h : c.validate = .ok st)
    {o : Override} (ho : o ∈ st.overrides) :
    Registry.accepts o.namespaceName = false ↔ Namespace.Hollow o.namespaceName.toList := by
  obtain ⟨entry, -, hparse⟩ := Configuration.overrides_of_validate h ho
  obtain ⟨cs, hname, hne⟩ := Override.name_of_parse hparse
  rw [Registry.accepts, hname, ← Namespace.normalize_normalize_eq_nil_iff hne]
  simp

/-! ## Building a router -/

/-- The first override of which a gate is wanted and the registry refuses the namespace. -/
def Settings.refused (st : Settings) : Option Override :=
  st.overrides.find? fun o =>
    decide (st.filter.minimum < o.level) && !Registry.accepts o.namespaceName

/-- What opening the target of the settings gives, if there is a target. -/
def Settings.opening (st : Settings) (m : Media) : Except AspectError Unit :=
  match st.target with
  | none => .ok ()
  | some target => ((StreamSink.make target st.layout st.aspectFilter).start m).1

namespace System

variable {s : System} {r : RouterId} {y : Router} {st : Settings}

/-- A namespace that is not accepted is refused, and nothing is changed. -/
lemma on_register_of_refused {ns : String} (h : HandlerRef) (s : System)
    (hrefused : Registry.accepts ns = false) :
    (register r ns h).on s = (.ok (.error (.emptyNamespace ns)), s) := by
  rw [register, if_neg (by simp [hrefused])]
  rfl

/-- **Registering the gates** stops at the first override whose namespace is refused. -/
lemma on_registerGates_of_refused (least : Level) : ∀ (os : List Override) {s : System} {y : Router},
    s.routers[r]? = some y → ∃ t z, (registerGates r least os).on s =
      (.ok (match os.find? fun o =>
          decide (least < o.level) && !Registry.accepts o.namespaceName with
        | some o => .error (.emptyNamespace o.namespaceName)
        | none => .ok ()), t) ∧ t.routers[r]? = some z ∧ t.media = s.media
  | [], s, y, hy => ⟨s, y, rfl, hy, rfl⟩
  | o :: os, s, y, hy => by
    by_cases hstrict : least < o.level
    · set gate : Handler := .gate (.startingAt o.level) y.defaults
      set u : System := { s with handlers := s.handlers ++ [gate] }
      have hgate : (newHandler gate).on s = (.ok s.handlers.length, u) := rfl
      rw [registerGates, if_pos hstrict, on_bind_of_ok (on_router_of_some hy), on_bind_of_ok hgate]
      cases haccepts : Registry.accepts o.namespaceName with
      | false =>
        refine ⟨u, y, ?_, hy, rfl⟩
        rw [on_bind_of_ok (on_register_of_refused _ u haccepts)]
        simp [hstrict, haccepts]
      | true =>
        obtain ⟨lock, locks, -, hregister⟩ :=
          on_register (s := u) (.plain s.handlers.length) hy haccepts
        rw [on_bind_of_ok hregister]
        set x : Router := { y with locks := locks, registry := _ }
        have hx := router_equipped (s := u) (z := x) hy [] [⟨.plain s.handlers.length, lock⟩]
          (u.lockCount + 1)
        obtain ⟨t, z, hon, hz, hmedia⟩ := on_registerGates_of_refused least os hx
        refine ⟨t, z, ?_, hz, hmedia⟩
        simp [hstrict, haccepts, hon]
    · obtain ⟨t, z, hon, hz, hmedia⟩ := on_registerGates_of_refused least os hy
      refine ⟨t, z, ?_, hz, hmedia⟩
      rw [registerGates, if_neg hstrict, hon]
      simp [hstrict]

/-- The default handler is there if the target opens. -/
lemma on_addTarget (calls : Reentry) (st : Settings) (hy : s.routers[r]? = some y) :
    ∃ t, (addTarget calls r st).on s = (.ok ((st.opening s.media).mapError .aspect), t) := by
  cases htarget : st.target with
  | none =>
    set u : System := { s with handlers := s.handlers ++ [.stderr st.layout] }
    have hnew : (newHandler (.stderr st.layout)).on s = (.ok s.handlers.length, u) := rfl
    obtain ⟨lock, locks, -, hadd⟩ := on_addDefault (s := u) (.plain s.handlers.length) hy
    rw [addTarget, Settings.opening, htarget]
    simp only
    rw [on_bind_of_ok hnew, on_bind_of_ok hadd]
    exact ⟨_, rfl⟩
  | some target =>
    set sink := StreamSink.make target st.layout st.aspectFilter
    set x := Engine.make (.stream sink) (.ofNat st.errorThreshold)
    set u : System := { s with engines := s.engines ++ [x] }
    have hnew : (newEngine x).on s = (.ok s.engines.length, u) := rfl
    have hx : u.engines[s.engines.length]? = some x := by simp [u]
    obtain ⟨t, hstart, haside, -⟩ := on_startEngine_of_stream calls hx rfl
    have hz : t.routers[r]? = some y := haside.routers ▸ hy
    rw [addTarget, Settings.opening, htarget]
    simp only
    rw [on_bind_of_ok hnew]
    obtain ⟨v, hinit⟩ : ∃ v, (initEngine calls s.engines.length r).on u =
        (.ok (sink.start s.media).1, v) := by
      obtain ⟨lock, locks, -, hattach⟩ := on_attachEngine s.engines.length hz
      rw [on_initEngine hx rfl rfl, on_bind_of_ok hstart, show u.media = s.media from rfl]
      cases hopening : (sink.start s.media).1 with
      | error e => exact ⟨t, rfl⟩
      | ok _ => exact ⟨_, on_bind_of_ok hattach _⟩
    exact ⟨v, on_bind_of_ok hinit _⟩

/-- Building a router is registering its gates and then adding its default handler. -/
lemma on_routerOf_cases (calls : Reentry) (s : System) (st : Settings) :
    ∃ t, (routerOf calls st).on s = (.ok (match st.refused with
      | some o => .error (.emptyNamespace o.namespaceName)
      | none => ((st.opening s.media).mapError .aspect).map fun _ => s.routers.length), t) := by
  set r := s.routers.length
  set y : Router := { Router.fresh st.filter s.groups.length with capture := st.captureStack }
  set s₁ := (s.founded st.filter).onRouter r fun x => { x with capture := st.captureStack }
  set s₂ : System := { s₁ with inUse := r :: s₁.inUse }
  have hfresh : (s.founded st.filter).routers[r]? = some (.fresh st.filter s.groups.length) := by
    simp [founded, r]
  have hy : s₂.routers[r]? = some y := router_onRouter hfresh _
  have hnew : (newRouter st.filter).on s = (.ok r, s.founded st.filter) := rfl
  have hcapture : (updateRouter r fun x => { x with capture := st.captureStack }).on
      (s.founded st.filter) = (.ok (), s₁) := rfl
  obtain ⟨t, z, hgates, hz, hmedia⟩ :=
    on_registerGates_of_refused st.filter.minimum st.overrides hy
  rw [← Settings.refused] at hgates
  rw [routerOf, on_bind_of_ok hnew, on_bind_of_ok hcapture]
  cases hrefused : st.refused with
  | some o =>
    rw [hrefused] at hgates
    exact ⟨_, on_keeping ((on_bind_of_ok hgates _).trans rfl) rfl⟩
  | none =>
    rw [hrefused] at hgates
    obtain ⟨u, hadd⟩ := on_addTarget calls st hz
    rw [show t.media = s.media from hmedia] at hadd
    cases hopening : st.opening s.media with
    | error e =>
      rw [hopening] at hadd
      exact ⟨_, on_keeping (((on_bind_of_ok hgates _).trans (on_bind_of_ok hadd _)).trans rfl) rfl⟩
    | ok _ =>
      rw [hopening] at hadd
      exact ⟨_, on_keeping (((on_bind_of_ok hgates _).trans (on_bind_of_ok hadd _)).trans rfl) rfl⟩

/-- **What validation leaves to be refused.**  Whatever the fields of a configuration hold: if it is
valid, a router is built from its settings unless the target does not open, and then the error is the
one of the target.  The one exception is a namespace of some `::` and then white space, which validation
lets through and the registry refuses; the first such override that asks for more than the filter does
is the one that is reported.

**Proof sketch.** Building registers the gates in order and then opens the target.  What validation has
left of a namespace is not empty and begins with no white space; if normalizing it once more leaves
nothing, it was made of `::` in front of white space. -/
theorem routerOf_of_validated (calls : Reentry) {c : Configuration} {st : Settings}
    (hvalid : c.validate = .ok st) (s : System) :
    (∀ o ∈ st.overrides,
      Registry.accepts o.namespaceName = false ↔ Namespace.Hollow o.namespaceName.toList) ∧
    ∃ result t, (routerOf calls st).on s = (.ok result, t) ∧
      match st.refused with
      | none => (result = .ok s.routers.length ∧ st.opening s.media = .ok ()) ∨
          ∃ e, result = .error (.aspect e) ∧ st.opening s.media = .error e
      | some o => result = .error (.emptyNamespace o.namespaceName) := by
  refine ⟨fun o ho => accepts_iff_of_validate hvalid ho, ?_⟩
  obtain ⟨t, hon⟩ := on_routerOf_cases calls s st
  refine ⟨_, t, hon, ?_⟩
  cases st.refused with
  | some o => rfl
  | none =>
    cases hopening : st.opening s.media with
    | ok _ => exact .inl ⟨rfl, rfl⟩
    | error e => exact .inr ⟨e, rfl, rfl⟩

/-- An override for the namespace `:: ::`. -/
def hollowConfiguration : Configuration := { overrides := [":: ::=error"] }

/-- The settings of this configuration. -/
def hollowSettings : Settings where
  filter := .startingAt .info
  overrides := [⟨":: ", .error⟩]
  target := none
  aspectFilter := .startingAt .trace
  layout := .default
  errorThreshold := 5
  captureStack := true

/-- A configuration that is valid and from which no router can be built. -/
theorem routerOf_of_validated_of_hollow : hollowConfiguration.validate = .ok hollowSettings ∧
    ∃ t, (routerOf (.upTo 0) hollowSettings).on (initial "" [] ⟨2024, 1, 1, 0, 0, 0, 0⟩) =
      (.ok (.error (.emptyNamespace ":: ")), t) := by
  have hvalid : hollowConfiguration.validate = .ok hollowSettings := by
    have hoption : hollowConfiguration.validate.toOption = some hollowSettings := by decide +kernel
    cases hresult : hollowConfiguration.validate with
    | error e => simp [hresult, Except.toOption] at hoption
    | ok st => simpa [hresult, Except.toOption] using hoption
  have hrefused : hollowSettings.refused = some ⟨":: ", .error⟩ := by decide +kernel
  obtain ⟨-, result, t, hon, hresult⟩ :=
    routerOf_of_validated (.upTo 0) hvalid (initial "" [] ⟨2024, 1, 1, 0, 0, 0, 0⟩)
  rw [hrefused] at hresult
  exact ⟨hvalid, t, hresult ▸ hon⟩

end System

end NamespaceLogging
