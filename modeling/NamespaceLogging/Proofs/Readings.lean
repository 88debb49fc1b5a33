import Mathlib.Data.List.Basic
import Mathlib.Tactic.Common
import NamespaceLogging.Config.Settings

/-!
# Readings

A field of a configuration is read, or it cannot be read and there is an error.  A reading that goes on
with another one succeeds if both do, and the one of a list if those of all its entries do.  The
settings of a configuration are made of the readings of its fields.

## Main results

* `exists_of_bind_ok`: two readings one after the other.
* `mapM_eq_ok_iff`: the reading of a list.
* `Configuration.settings_eq_ok_iff`: the settings are what the fields are read as.
-/

set_option autoImplicit false

namespace NamespaceLogging

section Lists

variable {α β : Type} {f : α → Except ConfigError β} {as : List α} {bs : List β} {b : β}

/-- If two readings one after the other succeed, each of them does. -/
lemma exists_of_bind_ok {first : Except ConfigError α} (h : first >>= f = .ok b) :
    ∃ a, first = .ok a ∧ f a = .ok b := by
  cases first with
  | error e => exact absurd h (by simp [bind, Except.bind])
  | ok a => exact ⟨a, rfl, h⟩

/-- A value that is made of a reading is there just if the reading succeeds. -/
lemma map_eq_ok_iff {first : Except ConfigError α} {g : α → β} :
    first.map g = .ok b ↔ ∃ a, first = .ok a ∧ b = g a := by
  cases first with
  | error e => simp [Except.map]
  | ok a =>
    constructor
    · intro h
      exact ⟨a, rfl, (Except.ok.inj h).symm⟩
    · rintro ⟨a, ⟨⟩, rfl⟩
      rfl

/-- **A list is read if each of its entries is.** -/
lemma mapM_eq_ok_iff : as.mapM f = .ok bs ↔ as.map f = bs.map .ok := by
  induction as generalizing bs with
  | nil =>
    cases bs with
    | nil => simp [pure, Except.pure]
    | cons b bs => simp [pure, Except.pure]
  | cons a as ih =>
    rw [List.mapM_cons, List.map_cons]
    constructor
    · intro h
      obtain ⟨b, hfirst, h⟩ := exists_of_bind_ok h
      obtain ⟨bs', hrest, h⟩ := exists_of_bind_ok h
      obtain rfl : b :: bs' = bs := Except.ok.inj h
      rw [List.map_cons, hfirst, ih.mp hrest]
    · intro h
      obtain ⟨b, bs, rfl, hfirst, hrest⟩ := List.map_eq_cons_iff.mp h.symm
      rw [← hfirst, ih.mpr hrest.symm]
      rfl

/-- All entries of a list can be read just if each of them can. -/
lemma exists_map_eq_ok_iff : (∃ bs : List β, as.map f = bs.map .ok) ↔ ∀ a ∈ as, ∃ b, f a = .ok b := by
  constructor
  · rintro ⟨bs, hread⟩ a ha
    have hmem : f a ∈ bs.map .ok := hread ▸ List.mem_map_of_mem ha
    obtain ⟨b, -, hb⟩ := List.mem_map.mp hmem
    exact ⟨b, hb.symm⟩
  · intro h
    induction as with
    | nil => exact ⟨[], rfl⟩
    | cons a as ih =>
      obtain ⟨b, hb⟩ := h a List.mem_cons_self
      obtain ⟨bs, hbs⟩ := ih fun a ha => h a (List.mem_cons_of_mem _ ha)
      exact ⟨b :: bs, by rw [List.map_cons, List.map_cons, hb, hbs]⟩

/-- Where all elements could be read, each value is the reading of one of them. -/
lemma mem_of_mapM (h : as.mapM f = .ok bs) (hb : b ∈ bs) : ∃ a ∈ as, f a = .ok b := by
  have hmem : .ok b ∈ as.map f := by
    rw [mapM_eq_ok_iff.mp h]
    exact List.mem_map_of_mem hb
  exact List.mem_map.mp hmem

/-- Where all elements could be read, there are as many values as elements. -/
lemma length_of_mapM (h : as.mapM f = .ok bs) : bs.length = as.length := by
  have hlength := congrArg List.length (mapM_eq_ok_iff.mp h)
  rw [List.length_map, List.length_map] at hlength
  exact hlength.symm

end Lists

namespace Configuration

variable {c : Configuration} {st : Settings}

/-- **The settings are what the fields are read as**, each by itself. -/
lemma settings_eq_ok_iff : c.settings = .ok st ↔
    c.filter = .ok st.filter ∧ c.overrides.mapM Override.parse = .ok st.overrides ∧
    st.target = c.target.map Target.parse ∧ c.aspectFilter = .ok st.aspectFilter ∧
    c.checkedLayout = .ok st.layout ∧ c.checkedThreshold = .ok st.errorThreshold ∧
    st.captureStack = c.captureStack := by
  constructor
  · intro h
    obtain ⟨filter, hfilter, h⟩ := exists_of_bind_ok h
    obtain ⟨overrides, hoverrides, h⟩ := exists_of_bind_ok h
    obtain ⟨aspectFilter, haspect, h⟩ := exists_of_bind_ok h
    obtain ⟨layout, hlayout, h⟩ := exists_of_bind_ok h
    obtain ⟨threshold, hthreshold, h⟩ := exists_of_bind_ok h
    obtain rfl := Except.ok.inj h
    exact ⟨hfilter, hoverrides, rfl, haspect, hlayout, hthreshold, rfl⟩
  · rintro ⟨hfilter, hoverrides, htarget, haspect, hlayout, hthreshold, hcapture⟩
    rw [settings, hfilter, hoverrides, haspect, hlayout, hthreshold, ← htarget, ← hcapture]
    rfl

end Configuration

end NamespaceLogging
