import Mathlib.Data.List.Induction
import Mathlib.Tactic.Common
import NamespaceLogging.Config.Settings
import NamespaceLogging.Proofs.Namespaces

/-!
# The levels that overrides ask for

Settings ask for a level in each namespace: by the override for the closest namespace, and if there
are several for that one, by the last of them.  Overrides that ask for no more than the filter does
are passed over.

## Main definitions

* `Settings.strict`: the overrides that ask for more than the filter does.
* `Settings.deciding`, `Settings.floor`: the override that decides on a namespace, and the level that
  is asked for there.
* `Override.levelAt`: the level that the last override for exactly this namespace asks for.

## Main results

* `Override.closest_spec`: the override that decides is the last one for the closest namespace.
* `Settings.strict_of_lenient`: an override that does not ask for more is passed over, wherever it
  stands.
-/

set_option autoImplicit false

namespace NamespaceLogging

open Namespace

namespace Override

/-- The override covers the namespace. -/
def CoversNs (o : Override) (ns : List Char) : Prop := Covers o.namespaceName.toList ns

instance (o : Override) (ns : List Char) : Decidable (o.CoversNs ns) :=
  inferInstanceAs (Decidable (Covers o.namespaceName.toList ns))

/-- Of two overrides that cover a namespace, the one that decides: the one with the longer name, and
of two with equally long names the later one. -/
def closer : Option Override → Override → Option Override
  | none, o => some o
  | some best, o =>
    if best.namespaceName.toList.length ≤ o.namespaceName.toList.length then some o else some best

/-- The override that decides on a namespace. -/
def closest (os : List Override) (ns : List Char) : Option Override :=
  (os.filter fun o => o.CoversNs ns).foldl closer none

/-- The level that the last override for exactly this namespace asks for. -/
def levelAt (os : List Override) (ns : List Char) : Option Level :=
  (os.reverse.find? fun o => o.namespaceName.toList = ns).map Override.level

variable {os : List Override} {o : Override} {ns k : List Char} {level : Level}

/-- Without overrides, no namespace has a level of its own. -/
@[simp]
lemma levelAt_nil : levelAt [] ns = none := rfl

/-- The last override for a namespace decides on its level. -/
lemma levelAt_concat : levelAt (os ++ [o]) ns =
    if o.namespaceName.toList = ns then some o.level else levelAt os ns := by
  by_cases h : o.namespaceName.toList = ns <;> simp [levelAt, h]

/-- A namespace has a level if there is an override for it. -/
lemma exists_of_levelAt (h : levelAt os ns = some level) :
    ∃ o ∈ os, o.namespaceName.toList = ns := by
  obtain ⟨o, hfind, -⟩ := Option.map_eq_some_iff.mp h
  refine ⟨o, List.mem_reverse.mp (List.mem_of_find?_eq_some hfind), ?_⟩
  simpa using List.find?_some hfind

/-- The closest override is the new one, if it covers the namespace and is as close as the closest
before it. -/
lemma closest_concat : closest (os ++ [o]) ns =
    if o.CoversNs ns then closer (closest os ns) o else closest os ns := by
  by_cases h : o.CoversNs ns <;> simp [closest, h]

/-- An override that is closer than another one, or as close. -/
lemma closer_some {best : Override} :
    closer (some best) o = if best.namespaceName.toList.length ≤ o.namespaceName.toList.length then
      some o else some best := rfl

/-- What is said of the override that decides: it covers the namespace, no other one that does has a
longer name, and it is the last one with its name. -/
structure Decides (os : List Override) (ns : List Char) (best : Override) : Prop where
  covers : best.CoversNs ns
  longest : ∀ o ∈ os, o.CoversNs ns →
    o.namespaceName.toList.length ≤ best.namespaceName.toList.length
  last : levelAt os best.namespaceName.toList = some best.level

/-- A new override decides if no earlier one has a longer name. -/
lemma decides_new (hcovers : o.CoversNs ns) (hlongest : ∀ o' ∈ os, o'.CoversNs ns →
    o'.namespaceName.toList.length ≤ o.namespaceName.toList.length) :
    Decides (os ++ [o]) ns o where
  covers := hcovers
  longest o' hmem hcovers' := by
    rcases List.mem_append.mp hmem with hmem | hmem
    · exact hlongest o' hmem hcovers'
    · exact Nat.le_of_eq (by rw [List.mem_singleton.mp hmem])
  last := by rw [levelAt_concat, if_pos rfl]

/-- A new override with another name does not matter if it covers nothing, or has a shorter name. -/
lemma Decides.keeps {best : Override} (h : Decides os ns best)
    (hother : o.namespaceName.toList ≠ best.namespaceName.toList)
    (hshorter : o.CoversNs ns →
      o.namespaceName.toList.length ≤ best.namespaceName.toList.length) :
    Decides (os ++ [o]) ns best where
  covers := h.covers
  longest o' hmem hcovers := by
    rcases List.mem_append.mp hmem with hmem | hmem
    · exact h.longest o' hmem hcovers
    · rw [List.mem_singleton.mp hmem] at hcovers ⊢
      exact hshorter hcovers
  last := by rw [levelAt_concat, if_neg hother, h.last]

/-- **The override that decides** is the last one for the closest namespace; there is none if no
override covers the namespace.

**Proof sketch.** Induction on the list from its end: a new override decides unless one with a longer
name did before. -/
theorem closest_spec (os : List Override) (ns : List Char) :
    match closest os ns with
    | some best => Decides os ns best
    | none => ∀ o ∈ os, ¬ o.CoversNs ns := by
  induction os using List.reverseRecOn with
  | nil => simp [closest]
  | append_singleton os o ih =>
    rw [closest_concat]
    by_cases hcovers : o.CoversNs ns
    · rw [if_pos hcovers]
      cases hbest : closest os ns with
      | none =>
        simp only [hbest] at ih
        exact decides_new hcovers fun o' hmem hcovers' => absurd hcovers' (ih o' hmem)
      | some best =>
        simp only [hbest] at ih
        rw [closer_some]
        by_cases hlength : best.namespaceName.toList.length ≤ o.namespaceName.toList.length
        · rw [if_pos hlength]
          exact decides_new hcovers fun o' hmem hcovers' =>
            Nat.le_trans (ih.longest o' hmem hcovers') hlength
        · rw [if_neg hlength]
          exact ih.keeps (fun heq => hlength (Nat.le_of_eq (by rw [heq]))) fun _ =>
            Nat.le_of_not_le hlength
    · rw [if_neg hcovers]
      cases hbest : closest os ns with
      | none =>
        simp only [hbest] at ih
        intro o' hmem
        rcases List.mem_append.mp hmem with hmem | hmem
        · exact ih o' hmem
        · rwa [List.mem_singleton.mp hmem]
      | some best =>
        simp only [hbest] at ih
        refine ih.keeps (fun heq => hcovers ?_) fun h => absurd h hcovers
        rw [CoversNs, heq]
        exact ih.covers

end Override

namespace Settings

/-- The overrides that ask for more than the least level of the filter. -/
def strict (st : Settings) : List Override :=
  st.overrides.filter fun o => decide (st.filter.minimum < o.level)

/-- The override that decides on a namespace. -/
def deciding (st : Settings) (ns : String) : Option Override :=
  Override.closest st.strict ns.toList

/-- The level that is asked for in a namespace. -/
def floor (st : Settings) (ns : String) : Level := ((st.deciding ns).map Override.level).getD .trace

/-- An override that does not ask for more is passed over, wherever it stands. -/
lemma strict_of_lenient (st : Settings) {before after : List Override} {o : Override}
    (hlenient : ¬ st.filter.minimum < o.level) :
    { st with overrides := before ++ o :: after }.strict =
      { st with overrides := before ++ after }.strict := by
  simp [strict, hlenient]

end Settings

/-! ## Levels that a gate lets through -/

namespace LevelSet

/-- All levels from some level on. -/
@[simp]
lemma contains_startingAt (least level : Level) :
    (startingAt least).contains level = decide (least ≤ level) := by
  cases least <;> cases level <;> rfl

end LevelSet

/-- The levels begin with `Level.trace`. -/
lemma Level.trace_le (level : Level) : Level.trace ≤ level := Nat.zero_le _

end NamespaceLogging
