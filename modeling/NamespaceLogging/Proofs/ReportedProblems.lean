import Mathlib.Data.List.Basic
import Mathlib.Data.List.Induction
import Mathlib.Tactic.Common
import NamespaceLogging.Config.Settings
import NamespaceLogging.Proofs.LayoutGrammar
import NamespaceLogging.Proofs.Readings

/-!
# The problems that validation reports

A configuration is made of settings, each of which can be flawed by itself.  Validation looks at all of
them, but in two places it stops at the first flaw: in the list of level names, and in the layout with
what belongs to it.  The flaws behind that one are hidden until it is mended.

## Main definitions

* `Setting`: the settings of a configuration that are checked.
* `Configuration.flaw?`: the flaw of a setting, looked at by itself.
* `Configuration.hides`: whether another flaw hides that of a setting.
* `Configuration.reported`: the errors that validation reports.

## Main results

* `Configuration.problems_eq`: there is one problem for each flaw that is not hidden, in order.
* `Configuration.validate_ok_iff`, `Configuration.reported_eq`: there are settings just if there is no
  problem, and the problems are what is reported.
* `Configuration.reported_unhidden`: what is reported, and what is left to be mended.
-/

set_option autoImplicit false

namespace NamespaceLogging

/-- A setting of a configuration that is checked.  Each name in the list of levels and each override is
a setting of its own. -/
inductive Setting where
  | level
  /-- The list of levels as such. -/
  | levels
  | levelName (i : Nat)
  | override (i : Nat)
  | aspectLevel
  | layout
  | timeFormat
  | maxCauseFrames
  | errorThreshold
deriving DecidableEq, Repr

/-- The settings at which validation stops before it comes to this one, if they are flawed. -/
def Setting.earlier : Setting → List Setting
  | levelName i => (List.range i).map levelName
  | timeFormat => [layout]
  | maxCauseFrames => [layout, timeFormat]
  | _ => []

/-- The error of a reading, if it failed. -/
def error? {α : Type} : Except ConfigError α → Option ConfigError
  | .ok _ => none
  | .error e => some e

namespace Configuration

/-- The flaw of a setting, looked at by itself.  The least level matters only without a list of
levels. -/
def flaw? (c : Configuration) : Setting → Option ConfigError
  | .level => if c.levels.isNone then error? (Level.parse c.level) else none
  | .levels => if c.levels = some [] then some .emptyLevelSet else none
  | .levelName i => (c.levels.getD [])[i]?.bind fun name => error? (Level.parse name)
  | .override i => c.overrides[i]?.bind fun entry => error? (Override.parse entry)
  | .aspectLevel => c.aspectLevel.bind fun name => error? (Level.parse name)
  | .layout => error? (Layout.parse c.layout)
  | .timeFormat =>
    if TimeFormat.isValid c.timeFormat then none else some (.invalidTimeFormat c.timeFormat)
  | .maxCauseFrames => if c.maxCauseFrames = 0 then some .invalidFrameCap else none
  | .errorThreshold => if c.errorThreshold = 0 then some .invalidThreshold else none

/-- Whether an earlier flaw hides that of the setting. -/
def hides (c : Configuration) (s : Setting) : Bool := s.earlier.any fun e => (c.flaw? e).isSome

/-- The settings of the configuration that are checked, in order. -/
def checked (c : Configuration) : List Setting :=
  [.level, .levels] ++ (List.range (c.levels.getD []).length).map .levelName ++
    (List.range c.overrides.length).map .override ++
    [.aspectLevel, .layout, .timeFormat, .maxCauseFrames, .errorThreshold]

/-- The flaws of some settings that are not hidden. -/
def shown (c : Configuration) (settings : List Setting) : List ConfigError :=
  (settings.filter fun s => !c.hides s).filterMap c.flaw?

/-- The errors that validation reports: several are reported in one. -/
def reported (c : Configuration) : List ConfigError :=
  match c.validate with
  | .ok _ => []
  | .error (.invalid errors) => errors
  | .error e => [e]

end Configuration

/-! ## Readings of lists -/

section Lists

variable {α β : Type}

/-- Of a list with one element, there is at most one result. -/
lemma filterMap_singleton (f : α → Option β) (a : α) : [a].filterMap f = (f a).toList := by
  cases h : f a <;> simp [h]

/-- Going through the places of a list finds what going through the list does. -/
lemma filterMap_range_getElem? (f : α → Option β) (as : List α) :
    ((List.range as.length).filterMap fun i => as[i]?.bind f) = as.filterMap f := by
  induction as using List.reverseRecOn with
  | nil => rfl
  | append_singleton as a ih =>
    have hold : ∀ i ∈ List.range as.length, (as ++ [a])[i]?.bind f = as[i]?.bind f := by
      intro i hi
      rw [List.getElem?_append_left (List.mem_range.mp hi)]
    rw [List.length_append, List.length_singleton, List.range_succ, List.filterMap_append,
      List.filterMap_congr hold, ih, List.filterMap_append, filterMap_singleton,
      filterMap_singleton, List.getElem?_concat_length, Option.bind_some]

/-- There is a result at one of the first places just if there is one in the first part of the
list. -/
lemma any_range_isSome (f : α → Option β) (as : List α) (i : Nat) :
    ((List.range i).any fun j => (as[j]?.bind f).isSome) = ((as.take i).findSome? f).isSome := by
  rw [Bool.eq_iff_iff, List.any_eq_true, List.findSome?_isSome_iff]
  constructor
  · rintro ⟨j, hj, hsome⟩
    cases ha : as[j]? with
    | none => simp [ha] at hsome
    | some a =>
      have hmem : a ∈ as.take i := by
        refine List.mem_of_getElem? (i := j) ?_
        rw [List.getElem?_take_of_lt (List.mem_range.mp hj), ha]
      exact ⟨a, hmem, by simpa [ha] using hsome⟩
  · rintro ⟨a, ha, hsome⟩
    obtain ⟨j, hj, rfl⟩ := List.getElem_of_mem ha
    rw [List.length_take, Nat.lt_min] at hj
    refine ⟨j, List.mem_range.mpr hj.1, ?_⟩
    rw [List.getElem_take] at hsome
    simpa [List.getElem?_eq_getElem hj.2] using hsome

/-- Of the errors of a list, the first one is the only one without another one before it. -/
lemma filterMap_range_first (f : α → Option β) (as : List α) :
    (((List.range as.length).filter fun i =>
      !(List.range i).any fun j => (as[j]?.bind f).isSome).filterMap fun i => as[i]?.bind f) =
        (as.findSome? f).toList := by
  simp only [any_range_isSome]
  induction as using List.reverseRecOn with
  | nil => rfl
  | append_singleton as a ih =>
    have hbefore : ∀ i ∈ List.range as.length, (!(((as ++ [a]).take i).findSome? f).isSome) =
        !((as.take i).findSome? f).isSome := by
      intro i hi
      rw [List.take_append_of_le_length (Nat.le_of_lt (List.mem_range.mp hi))]
    have hold : ∀ i ∈ (List.range as.length).filter fun i => !((as.take i).findSome? f).isSome,
        (as ++ [a])[i]?.bind f = as[i]?.bind f := by
      intro i hi
      rw [List.getElem?_append_left (List.mem_range.mp (List.mem_filter.mp hi).1)]
    rw [List.length_append, List.length_singleton, List.range_succ, List.filter_append,
      List.filterMap_append, List.filter_congr hbefore, List.filterMap_congr hold, ih,
      List.findSome?_append]
    cases hfirst : as.findSome? f <;> simp [hfirst, filterMap_singleton]

end Lists

/-- A reading has no error just if it succeeds. -/
lemma error?_eq_none_iff {α : Type} {reading : Except ConfigError α} :
    error? reading = none ↔ ∃ a, reading = .ok a := by
  cases reading <;> simp [error?]

/-- A reading has the error with which it fails. -/
lemma error?_eq_some_iff {α : Type} {reading : Except ConfigError α} {e : ConfigError} :
    error? reading = some e ↔ reading = .error e := by
  cases reading <;> simp [error?]

/-- What is reported of a reading is its error, if it has one. -/
lemma problemOf_eq {α : Type} (reading : Except ConfigError α) :
    Configuration.problemOf reading = (error? reading).toList := by
  cases reading <;> rfl

/-- A list is read up to the first entry that cannot be read. -/
lemma error?_mapM {α β : Type} (f : α → Except ConfigError β) (as : List α) :
    error? (as.mapM f) = as.findSome? fun a => error? (f a) := by
  induction as with
  | nil => rfl
  | cons a as ih =>
    rw [List.mapM_cons, List.findSome?_cons, ← ih]
    cases hfirst : f a with
    | error e => rfl
    | ok b => cases hrest : as.mapM f <;> rfl

/-! ## The problems of a configuration -/

namespace Configuration

variable (c : Configuration)

/-- What is reported of some settings and of more of them adds up. -/
lemma shown_append (settings settings' : List Setting) :
    c.shown (settings ++ settings') = c.shown settings ++ c.shown settings' := by
  simp [shown]

/-- A setting that nothing can hide. -/
lemma shown_of_first {s : Setting} (hfirst : s.earlier = []) :
    c.shown [s] = (c.flaw? s).toList := by
  cases hflaw : c.flaw? s <;> simp [shown, hides, hfirst, hflaw]

/-- Of the names of listed levels, only the first that is unknown is reported. -/
lemma shown_levelNames : c.shown ((List.range (c.levels.getD []).length).map .levelName) =
    ((c.levels.getD []).findSome? fun name => error? (Level.parse name)).toList := by
  rw [← filterMap_range_first, shown, List.filter_map, List.filterMap_map]
  have hhides : ∀ i, c.hides (.levelName i) = (List.range i).any fun j =>
      ((c.levels.getD [])[j]?.bind fun name => error? (Level.parse name)).isSome := by
    intro i
    simp [hides, Setting.earlier, flaw?, List.any_map, Function.comp_def]
  simp only [Function.comp_def, hhides, flaw?]

/-- Of all that is said about levels, the level alone, an empty list and the first unknown name can
be reported. -/
lemma shown_levels : c.shown ([.level, .levels] ++
    (List.range (c.levels.getD []).length).map .levelName) =
      (c.flaw? .level).toList ++ (c.flaw? .levels).toList ++
        ((c.levels.getD []).findSome? fun name => error? (Level.parse name)).toList := by
  have hlists : c.shown [.level, .levels] =
      (c.flaw? .level).toList ++ (c.flaw? .levels).toList := by
    rw [← c.shown_of_first (s := .level) rfl, ← c.shown_of_first (s := .levels) rfl, ← shown_append]
    rfl
  rw [shown_append, shown_levelNames, hlists]

/-- The levels are read one by one, if they are given, and then there has to be one. -/
lemma problem_filter : problemOf c.filter = c.shown ([.level, .levels] ++
    (List.range (c.levels.getD []).length).map .levelName) := by
  rw [shown_levels, problemOf_eq, filter]
  cases hlevels : c.levels with
  | none =>
    cases hread : Level.parse c.level <;> simp [flaw?, hlevels, hread, error?, Except.map]
  | some names =>
    simp only [flaw?, hlevels, Option.isNone_some, Bool.false_eq_true, if_false, Option.toList_none,
      Option.getD_some, Option.some.injEq, List.nil_append, ← error?_mapM]
    cases hread : names.mapM Level.parse with
    | error e =>
      have hsome : names ≠ [] := by
        rintro rfl
        simp [pure, Except.pure] at hread
      rw [if_neg hsome]
      rfl
    | ok levels =>
      have hempty : levels = [] ↔ names = [] := by
        rw [← List.length_eq_zero_iff, length_of_mapM hread, List.length_eq_zero_iff]
      by_cases hnames : names = []
      · rw [if_pos hnames, hempty.mpr hnames]
        rfl
      · rw [if_neg hnames]
        simp [error?, bind, Except.bind, LevelSet.ofNonempty, mt hempty.mp hnames]

/-- What is reported of overrides is what is reported of each of them, in order. -/
lemma problem_overrides : (c.overrides.map Override.parse).flatMap problemOf =
    c.shown ((List.range c.overrides.length).map .override) := by
  have hshown : ∀ i, c.hides (.override i) = false := fun i => rfl
  rw [shown, List.filter_map, List.filterMap_map]
  simp only [Function.comp_def, hshown, Bool.not_false, List.filter_true, flaw?]
  rw [filterMap_range_getElem?, List.flatMap_map, List.filterMap_eq_flatMap_toList]
  simp only [problemOf_eq]

/-- What is reported of the target's level is its flaw, if it has one. -/
lemma problem_aspectFilter : problemOf c.aspectFilter = c.shown [.aspectLevel] := by
  rw [shown_of_first c rfl, problemOf_eq, aspectFilter, flaw?]
  cases c.aspectLevel with
  | none => rfl
  | some name =>
    dsimp only [Option.bind_some]
    cases Level.parse name <;> rfl

/-- The layout is read, then the format of the time, then the number of frames. -/
lemma problem_checkedLayout :
    problemOf c.checkedLayout = c.shown [.layout, .timeFormat, .maxCauseFrames] := by
  rw [problemOf_eq, checkedLayout]
  cases hlayout : Layout.parse c.layout with
  | error e => simp [shown, hides, Setting.earlier, flaw?, hlayout, error?, bind, Except.bind]
  | ok layout =>
    by_cases htime : TimeFormat.isValid c.timeFormat = true <;> by_cases hcap : c.maxCauseFrames = 0 <;>
      simp [shown, hides, Setting.earlier, flaw?, hlayout, htime, hcap, error?, bind, Except.bind,
        Layout.withTimeFormat, Layout.withFrameCap]

/-- What is reported of the threshold is its flaw, if it has one. -/
lemma problem_checkedThreshold : problemOf c.checkedThreshold = c.shown [.errorThreshold] := by
  rw [shown_of_first c rfl, problemOf_eq, checkedThreshold, flaw?]
  split <;> rfl

/-- **There is one problem for each flaw that is not hidden**, in the order of the settings. -/
lemma problems_eq : c.problems = c.shown c.checked := by
  have hrest : c.shown [.aspectLevel, .layout, .timeFormat, .maxCauseFrames, .errorThreshold] =
      c.shown [.aspectLevel] ++ c.shown [.layout, .timeFormat, .maxCauseFrames] ++
        c.shown [.errorThreshold] := by
    rw [← shown_append, ← shown_append]
    rfl
  rw [problems, checked, shown_append, shown_append, hrest, problem_filter, problem_overrides,
    problem_aspectFilter, problem_checkedLayout, problem_checkedThreshold]
  simp only [List.append_assoc]

/-! ## The answer of validation -/

/-- No flaw is made of several errors. -/
lemma flaw?_ne_invalid (s : Setting) (errors : List ConfigError) :
    c.flaw? s ≠ some (.invalid errors) := by
  have hlevel : ∀ name, error? (Level.parse name) ≠ some (.invalid errors) := by
    intro name
    unfold Level.parse
    split <;> simp [error?]
  intro h
  cases s with
  | level =>
    rw [flaw?] at h
    split at h
    · exact hlevel _ h
    · simp at h
  | levels =>
    rw [flaw?] at h
    split at h <;> simp at h
  | levelName i =>
    obtain ⟨name, -, hname⟩ := Option.bind_eq_some_iff.mp h
    exact hlevel name hname
  | override i =>
    obtain ⟨entry, -, hentry⟩ := Option.bind_eq_some_iff.mp h
    rw [error?_eq_some_iff] at hentry
    unfold Override.parse at hentry
    split at hentry
    · simp at hentry
    · rename_i before after _
      have hname := hlevel (String.ofList after)
      dsimp only at hentry
      split_ifs at hentry
      all_goals try simp at hentry
      cases hread : Level.parse (String.ofList after) <;> simp_all [error?]
  | aspectLevel =>
    obtain ⟨name, -, hname⟩ := Option.bind_eq_some_iff.mp h
    exact hlevel name hname
  | layout =>
    rw [flaw?, error?_eq_some_iff] at h
    cases hread : Layout.read 0 c.layout.toList with
    | ok items => simp [Layout.parse, hread, bind, Except.bind, pure, Except.pure] at h
    | error e =>
      obtain rfl : e = .invalid errors := by simpa [Layout.parse, hread, bind, Except.bind] using h
      obtain ⟨lexemes, rest, -, hoffends⟩ := Layout.offends_of_read hread
      cases hoffends
  | timeFormat =>
    rw [flaw?] at h
    split at h <;> simp at h
  | maxCauseFrames =>
    rw [flaw?] at h
    split at h <;> simp at h
  | errorThreshold =>
    rw [flaw?] at h
    split at h <;> simp at h

/-- Without a problem every part of the settings can be read. -/
lemma settings_of_problems (h : c.problems = []) : ∃ st, c.settings = .ok st := by
  simp only [problems, List.append_eq_nil_iff, problemOf_eq, Option.toList_eq_nil_iff,
    error?_eq_none_iff, List.flatMap_eq_nil_iff, List.mem_map, forall_exists_index, and_imp,
    forall_apply_eq_imp_iff₂] at h
  obtain ⟨⟨⟨⟨⟨filter, hfilter⟩, hentries⟩, aspectFilter, haspect⟩, layout, hlayout⟩, threshold,
    hthreshold⟩ := h
  obtain ⟨overrides, hoverrides⟩ : ∃ overrides, c.overrides.mapM Override.parse = .ok overrides := by
    rw [← error?_eq_none_iff, error?_mapM, List.findSome?_eq_none_iff]
    exact fun entry hentry => error?_eq_none_iff.mpr (hentries entry hentry)
  simp [settings, hfilter, hoverrides, haspect, hlayout, hthreshold, bind, Except.bind, pure,
    Except.pure]

/-- **There are settings just if there is no problem.** -/
lemma validate_ok_iff : (∃ st, c.validate = .ok st) ↔ c.problems = [] := by
  rw [validate]
  split
  · rename_i hnone
    simp [settings_of_problems c hnone, hnone]
  all_goals simp_all

/-- No single problem is the error that lists all of them. -/
lemma invalid_notMem_problems (errors : List ConfigError) : ConfigError.invalid errors ∉ c.problems := by
  intro h
  rw [problems_eq] at h
  obtain ⟨s, -, hs⟩ := List.mem_filterMap.mp h
  exact c.flaw?_ne_invalid s errors hs

/-- **The problems are what is reported**, a single one by itself and several in one error. -/
lemma reported_eq : c.reported = c.problems := by
  rw [reported]
  cases hproblems : c.problems with
  | nil =>
    obtain ⟨st, hst⟩ := c.validate_ok_iff.mpr hproblems
    rw [hst]
  | cons e more =>
    cases more with
    | nil =>
      have hvalidate : c.validate = .error e := by rw [validate, hproblems]
      rw [hvalidate]
      cases e with
      | invalid errors =>
        exact absurd (hproblems ▸ List.mem_singleton_self _) (c.invalid_notMem_problems errors)
      | _ => rfl
    | cons e' more =>
      have hvalidate : c.validate = .error (.invalid (e :: e' :: more)) := by rw [validate, hproblems]
      rw [hvalidate]

/-! ## Flaws and problems -/

/-- The settings that can hide another one have fewer settings before them. -/
lemma length_earlier_lt {s e : Setting} (h : e ∈ s.earlier) :
    e.earlier.length < s.earlier.length := by
  cases s with
  | levelName i =>
    obtain ⟨j, hj, rfl⟩ := List.mem_map.mp h
    simpa [Setting.earlier] using hj
  | timeFormat =>
    obtain rfl := List.mem_singleton.mp h
    simp [Setting.earlier]
  | maxCauseFrames =>
    simp only [Setting.earlier, List.mem_cons, List.not_mem_nil, or_false] at h
    rcases h with rfl | rfl <;> simp [Setting.earlier]
  | _ => simp [Setting.earlier] at h

/-- The first flaw of those that hide one another is not hidden. -/
lemma exists_flaw_not_hidden {s : Setting} (h : c.flaw? s ≠ none) :
    ∃ s, c.flaw? s ≠ none ∧ c.hides s = false := by
  induction hrank : s.earlier.length using Nat.strong_induction_on generalizing s with
  | _ n ih =>
    cases hhides : c.hides s with
    | false => exact ⟨s, h, hhides⟩
    | true =>
      obtain ⟨e, he, hflaw⟩ := List.any_eq_true.mp hhides
      exact ih _ (hrank ▸ length_earlier_lt he) (Option.isSome_iff_ne_none.mp hflaw) rfl

/-- A setting that has a flaw is one of those that are checked. -/
lemma mem_checked_of_flaw {s : Setting} (h : c.flaw? s ≠ none) : s ∈ c.checked := by
  cases s with
  | levelName i =>
    have hi : i < (c.levels.getD []).length := by
      by_contra hi
      simp [flaw?, List.getElem?_eq_none (Nat.le_of_not_lt hi)] at h
    simp [checked, hi]
  | override i =>
    have hi : i < c.overrides.length := by
      by_contra hi
      simp [flaw?, List.getElem?_eq_none (Nat.le_of_not_lt hi)] at h
    simp [checked, hi]
  | _ => simp [checked]

/-- There are no problems just if no setting has a flaw. -/
lemma problems_eq_nil_iff : c.problems = [] ↔ ∀ s, c.flaw? s = none := by
  rw [problems_eq, shown, List.filterMap_eq_nil_iff]
  refine ⟨fun h s => ?_, fun h s _ => h s⟩
  by_contra hs
  obtain ⟨s', hflaw, hshown⟩ := c.exists_flaw_not_hidden hs
  exact hflaw (h s' (List.mem_filter.mpr ⟨c.mem_checked_of_flaw hflaw, by simp [hshown]⟩))

/-- **What is reported are the flaws that no other flaw hides**, in the order of the settings.  A
configuration is valid just if no setting has a flaw, so that all flaws are reported if none of them is
hidden, and mending what was reported leaves those that were. -/
theorem reported_unhidden :
    c.reported = (c.checked.filter fun s => !c.hides s).filterMap c.flaw? ∧
    (∀ s, c.flaw? s ≠ none → s ∈ c.checked) ∧
    ((∃ st, c.validate = .ok st) ↔ ∀ s, c.flaw? s = none) ∧
    ((∀ s, c.hides s = true → c.flaw? s = none) → c.reported = c.checked.filterMap c.flaw?) ∧
    ∀ c' : Configuration, (∀ s, c'.flaw? s = if c.hides s then c.flaw? s else none) →
      ((∃ st, c'.validate = .ok st) ↔ ∀ s, c.hides s = true → c.flaw? s = none) := by
  have hvalid : ∀ c : Configuration, (∃ st, c.validate = .ok st) ↔ ∀ s, c.flaw? s = none :=
    fun c => c.validate_ok_iff.trans c.problems_eq_nil_iff
  have hreported : c.reported = c.shown c.checked := by rw [reported_eq, problems_eq]
  refine ⟨hreported, fun s => c.mem_checked_of_flaw, hvalid c, fun hnone => ?_, fun c' hmended => ?_⟩
  · rw [hreported, shown, List.filterMap_filter]
    refine List.filterMap_congr fun s _ => ?_
    cases hhides : c.hides s with
    | false => rfl
    | true => simp [hnone s hhides]
  · rw [hvalid c']
    refine forall_congr' fun s => ?_
    rw [hmended s]
    split <;> simp_all

/-- A configuration with an unknown token in its layout, and without room for the frames of a cause. -/
def coloured : Configuration where
  layout := "\x7bcolour\x7d"
  maxCauseFrames := 0

/-- The configuration with a coloured layout and without frames has two flaws, in its layout and in
its number of frames. -/
lemma flaw?_coloured (s : Setting) : coloured.flaw? s =
    match s with
    | .layout => some (.unknownToken "colour")
    | .maxCauseFrames => some .invalidFrameCap
    | _ => none := by
  have hlayout : Layout.parse "\x7bcolour\x7d" = .error (.unknownToken "colour") := by
    have hread : Layout.read 0 "\x7bcolour\x7d".toList = .error (.unknownToken "colour") :=
      Layout.read_of_offends (@Layout.Offends.unknown 0 _ "colour".toList _ (by decide) rfl (by decide)
        (by intro t; cases t <;> decide))
    rw [Layout.parse, hread]
    rfl
  cases s with
  | layout => simp [flaw?, coloured, hlayout, error?]
  | timeFormat => decide +kernel
  | _ => rfl

/-- A layout with an unknown token hides that no frame of a cause is listed, which is still wrong when
the layout is mended; of a threshold that is zero alone nothing is hidden. -/
theorem reported_unhidden_of_coloured :
    coloured.reported = [.unknownToken "colour"] ∧
    (¬∃ st, validate { maxCauseFrames := 0 } = .ok st) ∧
    reported { errorThreshold := 0 } = [.invalidThreshold] := by
  have hhidden : coloured.hides .maxCauseFrames = true := by decide +kernel
  have hpattern : flaw? { } .layout = none := by decide +kernel
  have htime : flaw? { } .timeFormat = none := by decide +kernel
  refine ⟨?_, fun hvalid => ?_, ?_⟩
  · have hchecked : (coloured.checked.filter fun s => !coloured.hides s) =
        [.level, .levels, .aspectLevel, .layout, .errorThreshold] := by decide +kernel
    rw [(reported_unhidden coloured).1, hchecked]
    simp [flaw?_coloured]
  · have hmended : ∀ s, flaw? { maxCauseFrames := 0 } s =
        if coloured.hides s then coloured.flaw? s else none := by
      intro s
      cases s with
      | layout => exact hpattern
      | timeFormat => rw [flaw?_coloured, ite_self]; exact htime
      | maxCauseFrames => rw [hhidden, if_pos rfl, flaw?_coloured]; rfl
      | levelName i => rw [flaw?_coloured, ite_self]; rfl
      | _ => rfl
    have hnone := ((reported_unhidden coloured).2.2.2.2 _ hmended).mp hvalid .maxCauseFrames hhidden
    simp [flaw?_coloured] at hnone
  · have hopen : ∀ s, hides { errorThreshold := 0 } s = true → flaw? { errorThreshold := 0 } s = none := by
      intro s hs
      cases s with
      | errorThreshold => exact absurd hs (by decide)
      | layout => exact hpattern
      | timeFormat => exact htime
      | _ => rfl
    have hlayout : flaw? { errorThreshold := 0 } .layout = none := hpattern
    have htimeFormat : flaw? { errorThreshold := 0 } .timeFormat = none := htime
    have hchecked : checked { errorThreshold := 0 } = [.level, .levels, .aspectLevel, .layout,
        .timeFormat, .maxCauseFrames, .errorThreshold] := rfl
    rw [(reported_unhidden { errorThreshold := 0 }).2.2.2.1 hopen, hchecked]
    simp only [List.filterMap_cons, hlayout, htimeFormat]
    rfl

end Configuration

end NamespaceLogging
